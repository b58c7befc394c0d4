import ServiceBoundary.Text.Extending
import ServiceBoundary.Text.Hex
import ServiceBoundary.Text.Printable

/-!
# Quoted text

A text between quotation marks, in which every character shows: quotation marks and backslashes
are written with a backslash before them, the common controls with their letters, and what a reader
would not see by its code point. A quoted text stands on one line, and its second quotation mark
without a backslash ends it.
-/

namespace ServiceBoundary.Text

/-- a code point between quotation marks: its hexadecimal digits in braces -/
def codePoint (c : Char) : List Char := '\\' :: 'u' :: '\x7b' :: Hex.digits c.toNat ++ ['\x7d']

/-- a character between quotation marks -/
def quotedChar (c : Char) : List Char :=
  match c with
  | '\x00' => ['\\', '0']
  | '\t' => ['\\', 't']
  | '\r' => ['\\', 'r']
  | '\n' => ['\\', 'n']
  | '"' => ['\\', '"']
  | '\\' => ['\\', '\\']
  | c => if isExtending c || !isPrintable c then codePoint c else [c]

/-- the text between quotation marks -/
def quoted (s : String) : String :=
  String.ofList ('"' :: s.toList.flatMap quotedChar ++ ['"'])

end ServiceBoundary.Text
