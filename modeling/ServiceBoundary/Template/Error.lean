/-!
# Why a template cannot be rendered
-/

namespace ServiceBoundary.Template

/-- why a template cannot be rendered -/
inductive RenderError where
  /-- the template is not well formed -/
  | malformed
  /-- an escape that means nothing -/
  | badEscape
  /-- a part of something that is not there -/
  | undefined
  /-- an operation on values that it is not made for -/
  | operation
  | unknownFilter
  | unknownTest
  | unknownFunction
  | unknownMethod
  /-- a call without an argument that it needs -/
  | missingArgument
  /-- a call with more arguments than it takes -/
  | tooManyArguments
  /-- another template that is not there -/
  | notFound
deriving DecidableEq, Repr

def RenderError.message : RenderError → String
  | .malformed => "syntax error"
  | .badEscape => "bad string escape"
  | .undefined => "undefined value"
  | .operation => "invalid operation"
  | .unknownFilter => "unknown filter"
  | .unknownTest => "unknown test"
  | .unknownFunction => "unknown function"
  | .unknownMethod => "unknown method"
  | .missingArgument => "missing argument"
  | .tooManyArguments => "too many arguments"
  | .notFound => "template not found"

end ServiceBoundary.Template
