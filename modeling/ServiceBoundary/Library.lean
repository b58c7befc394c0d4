import ServiceBoundary.Options
import ServiceBoundary.Template.Error
import ServiceBoundary.Template.Evaluation
import ServiceBoundary.Text.Blank
import ServiceBoundary.Toml.Error
import ServiceBoundary.Toml.Value

/-!
# Libraries

What the program has done for it by others: it reads no command line, no document and no template
itself. It is written against this list, and what is said of a run is said of a run with any
library. The engines of this project are one of them.
-/

namespace ServiceBoundary

/-- what the program has done by others -/
class Library where
  /-- what a command line asks for -/
  options : (args : List String) → Except Stop Options
  /-- the entries of a document -/
  document : (source : String) → Except Toml.ReadError (List (String × Toml.Value))
  /-- the text of a template that sees these names -/
  template : (source : String) → (names : Template.Frame) → Except Template.RenderError String
  /-- what the user is told about an error: messages, each of which led to the one before it -/
  complaint : (messages : List String) → String
  /-- each message is told, however lines are laid out -/
  complaint_shows : ∀ {messages : List String} {message : String}, message ∈ messages →
    Text.ink message <:+: Text.ink (complaint messages)

end ServiceBoundary
