import ServiceBoundary.Toml.Error

/-!
# Tokens

A document is cut into blanks, line ends, marks, quoted texts and words; comments are dropped. What
is between the marks of a quoted text is not looked into here, except that a backslash protects the
mark or backslash behind it. A quoted text that is not closed ends with its line, or with the
document.
-/

namespace ServiceBoundary.Toml

inductive Quotation where
  /-- `'`, on one line -/
  | literal
  /-- `"`, on one line, with escapes -/
  | basic
  /-- `'''`, on any number of lines -/
  | literalBlock
  /-- `"""`, on any number of lines, with escapes -/
  | basicBlock
deriving DecidableEq, Repr

/-- a quoted text as written -/
structure Quoted where
  /-- the way it is quoted -/
  quotation : Quotation
  /-- what stands between the marks -/
  body : List Char
  /-- whether the closing mark is there -/
  closed : Bool
deriving DecidableEq, Repr

inductive Token where
  | blank (cs : List Char)
  | newline
  | dot
  | equals
  | comma
  | openSquare
  | closeSquare
  | openBrace
  | closeBrace
  | quoted (q : Quoted)
  | word (cs : List Char)
deriving DecidableEq, Repr

/-- a space or a tabulator -/
def isBlank (c : Char) : Bool := c = ' ' || c = '\t'

/-- no control character, or a tabulator -/
def isPlain (c : Char) : Bool := c = '\t' || 0x20 ≤ c.toNat && c.toNat ≠ 0x7f

/-- the characters that end a word -/
def endsWord (c : Char) : Bool :=
  isBlank c || ['.', '=', ',', '[', ']', '{', '}', '#', '\r', '\n', '\'', '"'].contains c

/-- a quoted text on one line behind its opening mark: its body, whether it is closed, the rest -/
def cutLine (mark : Char) (escapes : Bool) : List Char → List Char × Bool × List Char
  | [] => ([], false, [])
  | [c] => if c = mark then ([], true, []) else if c = '\n' then ([], false, [c]) else ([c], false, [])
  | c :: d :: cs =>
    if c = mark then ([], true, d :: cs)
    else if c = '\n' then ([], false, c :: d :: cs)
    else if escapes ∧ c = '\\' ∧ (d = mark ∨ d = '\\') then
      let (body, closed, rest) := cutLine mark escapes cs
      (c :: d :: body, closed, rest)
    else
      let (body, closed, rest) := cutLine mark escapes (d :: cs)
      (c :: body, closed, rest)

/-- a quoted text on several lines behind its opening marks; of five closing marks in a row the
first two belong to the text, of four the first -/
def cutBlock (mark : Char) (escapes : Bool) : List Char → List Char × Bool × List Char
  | a :: b :: c :: cs =>
    if a = mark ∧ b = mark ∧ c = mark then
      let more := (cs.take 2).takeWhile (· = mark)
      (more, true, cs.drop more.length)
    else if escapes ∧ a = '\\' ∧ (b = mark ∨ b = '\\') then
      let (body, closed, rest) := cutBlock mark escapes (c :: cs)
      (a :: b :: body, closed, rest)
    else
      let (body, closed, rest) := cutBlock mark escapes (b :: c :: cs)
      (a :: body, closed, rest)
  | cs => (cs, false, [])

theorem length_cutLine_le (mark : Char) (escapes : Bool) (cs : List Char) :
    (cutLine mark escapes cs).2.2.length ≤ cs.length := by
  fun_induction cutLine mark escapes cs <;> simp_all <;> omega

theorem length_cutBlock_le (mark : Char) (escapes : Bool) (cs : List Char) :
    (cutBlock mark escapes cs).2.2.length ≤ cs.length := by
  fun_induction cutBlock mark escapes cs <;> simp_all <;> omega

/-- the quoted text behind its first mark, and the rest -/
def cutQuoted (mark : Char) (line block : Quotation) (escapes : Bool) (cs : List Char) :
    Quoted × List Char :=
  match cs with
  | a :: b :: rest =>
    if a = mark ∧ b = mark then
      let (body, closed, rest) := cutBlock mark escapes rest
      (⟨block, body, closed⟩, rest)
    else
      let (body, closed, rest) := cutLine mark escapes cs
      (⟨line, body, closed⟩, rest)
  | cs =>
    let (body, closed, rest) := cutLine mark escapes cs
    (⟨line, body, closed⟩, rest)

theorem length_cutQuoted_le (mark : Char) (line block : Quotation) (escapes : Bool)
    (cs : List Char) : (cutQuoted mark line block escapes cs).2.length ≤ cs.length := by
  unfold cutQuoted
  split
  · next a b rest =>
    split
    · exact Nat.le_trans (length_cutBlock_le mark escapes rest)
        (Nat.le_trans (Nat.le_succ _) (Nat.le_succ _))
    · exact length_cutLine_le mark escapes _
  · exact length_cutLine_le mark escapes _

theorem length_dropWhile_le {α : Type} (p : α → Bool) (l : List α) :
    (l.dropWhile p).length ≤ l.length :=
  (List.dropWhile_suffix p).length_le

def tokens : (cs : List Char) → Except ReadError (List Token)
  | [] => .ok []
  | c :: cs =>
    let single (t : Token) : Except ReadError (List Token) := (tokens cs).map (t :: ·)
    match c with
    | '.' => single .dot
    | '=' => single .equals
    | ',' => single .comma
    | '[' => single .openSquare
    | ']' => single .closeSquare
    | '{' => single .openBrace
    | '}' => single .closeBrace
    | '\n' => single .newline
    | '\r' => if cs.head? = some '\n' then tokens cs else .error .control
    | '#' =>
      let inLine (c : Char) : Bool := c ≠ '\n' && c ≠ '\r'
      if (cs.takeWhile inLine).all isPlain then tokens (cs.dropWhile inLine) else .error .control
    | '\'' =>
      (tokens (cutQuoted c .literal .literalBlock false cs).2).map
        (.quoted (cutQuoted c .literal .literalBlock false cs).1 :: ·)
    | '"' =>
      (tokens (cutQuoted c .basic .basicBlock true cs).2).map
        (.quoted (cutQuoted c .basic .basicBlock true cs).1 :: ·)
    | c =>
      if isBlank c then
        (tokens (cs.dropWhile isBlank)).map (.blank (c :: cs.takeWhile isBlank) :: ·)
      else
        (tokens (cs.dropWhile (!endsWord ·))).map (.word (c :: cs.takeWhile (!endsWord ·)) :: ·)
termination_by cs => cs.length
decreasing_by
  all_goals simp only [List.length_cons]
  all_goals first
    | omega
    | exact Nat.lt_succ_of_le (length_dropWhile_le _ _)
    | exact Nat.lt_succ_of_le (length_cutQuoted_le _ _ _ _ _)

end ServiceBoundary.Toml
