import ServiceBoundary.Toml.Scalar
import ServiceBoundary.Toml.Token

/-!
# What quoted texts say

A text on one line holds no control characters but tabulators; a text on several lines holds line
ends as well, and a line end directly behind its opening marks does not count. Between double marks
a backslash escapes: a letter for a common control, digits for any character, and, in a text on
several lines, a line end with all the space behind it.
-/

namespace ServiceBoundary.Toml

/-- the character that a letter stands for behind a backslash -/
def escaped? : Char → Option Char
  | 'b' => some '\x08'
  | 't' => some '\t'
  | 'n' => some '\n'
  | 'f' => some '\x0c'
  | 'r' => some '\r'
  | 'e' => some '\x1b'
  | '"' => some '"'
  | '\\' => some '\\'
  | _ => none

/-- how many digits follow a letter behind a backslash -/
def escapeDigits? : Char → Option Nat
  | 'x' => some 2
  | 'u' => some 4
  | 'U' => some 8
  | _ => none

/-- the character whose number is written with the first `n` characters -/
def numbered (n : Nat) (cs : List Char) : Except ReadError Char :=
  let ds := (cs.take n).takeWhile (isDigitOf 16)
  let code := ofDigits 16 ds
  if ds.length < n then .error .escape
  else if code.isValidChar then .ok (Char.ofNat code)
  else .error .codePoint

/-- what follows blanks and line ends -/
def skipSpace : List Char → List Char
  | ' ' :: cs => skipSpace cs
  | '\t' :: cs => skipSpace cs
  | '\n' :: cs => skipSpace cs
  | '\r' :: '\n' :: cs => skipSpace cs
  | cs => cs

theorem length_skipSpace_le (cs : List Char) : (skipSpace cs).length ≤ cs.length := by
  fun_induction skipSpace cs <;> grind

/-- whether a line ends behind the blanks at the start -/
def endsLine (cs : List Char) : Bool :=
  match cs.dropWhile isBlank with
  | '\n' :: _ | '\r' :: '\n' :: _ => true
  | _ => false

/-- the text without escapes -/
def plainText (block : Bool) : List Char → Except ReadError (List Char)
  | [] => .ok []
  | c :: cs =>
    if isPlain c || block && (c = '\n' || c = '\r' && cs.head? = some '\n') then
      (plainText block cs).map (c :: ·)
    else .error .control

/-- the text with escapes -/
def escapedText (block : Bool) : List Char → Except ReadError (List Char)
  | [] => .ok []
  | ['\\'] => .error .escape
  | '\\' :: c :: cs =>
    match escaped? c, escapeDigits? c with
    | some d, _ => (escapedText block cs).map (d :: ·)
    | none, some n => do
      let d ← numbered n cs
      return d :: (← escapedText block (cs.drop n))
    | none, none =>
      if block && endsLine (c :: cs) then escapedText block (skipSpace (c :: cs)) else .error .escape
  | c :: cs =>
    if isPlain c || block && (c = '\n' || c = '\r' && cs.head? = some '\n') then
      (escapedText block cs).map (c :: ·)
    else .error .control
termination_by cs => cs.length
decreasing_by
  all_goals simp only [List.length_cons, List.length_drop]
  · omega
  · omega
  · have := length_skipSpace_le (c :: cs)
    simp only [List.length_cons] at this
    omega
  · omega

/-- the text without a line end at its start -/
def dropLineEnd : List Char → List Char
  | '\n' :: cs => cs
  | '\r' :: '\n' :: cs => cs
  | cs => cs

def Quoted.text (q : Quoted) : Except ReadError String := do
  if !q.closed then
    throw .unclosed
  let cs ← match q.quotation with
    | .literal => plainText false q.body
    | .basic => escapedText false q.body
    | .literalBlock => plainText true (dropLineEnd q.body)
    | .basicBlock => escapedText true (dropLineEnd q.body)
  return String.ofList cs

end ServiceBoundary.Toml
