/-!
# Why a text is no TOML document
-/

namespace ServiceBoundary.Toml

/-- why a text is no document -/
inductive ReadError where
  /-- a control character, or a carriage return without a line feed -/
  | control
  /-- a quoted text without its closing mark -/
  | unclosed
  /-- a line that is neither a header nor a key with its value -/
  | statement
  /-- brackets that do not match -/
  | brackets
  /-- arrays and inline tables in each other, too deep -/
  | depth
  /-- a key with other characters than letters, digits, `_` and `-`, or on several lines -/
  | key
  /-- a word that is neither a number nor a truth value nor a date -/
  | word
  /-- a backslash before something that it does not escape, or too few digits behind it -/
  | escape
  /-- an escape with a number that no character has -/
  | codePoint
  /-- a key or table that is there already -/
  | duplicate (name : String)
deriving DecidableEq, Repr

def ReadError.message : ReadError → String
  | .control => "invalid control character"
  | .unclosed => "unclosed string"
  | .statement => "expected a table header or a key with its value"
  | .brackets => "unbalanced brackets"
  | .depth => "values are nested too deep"
  | .key => "invalid key"
  | .word => "invalid number, boolean or date"
  | .escape => "invalid escape sequence"
  | .codePoint => "invalid value, expected unicode hexadecimal value"
  | .duplicate name => "duplicate key " ++ name

end ServiceBoundary.Toml
