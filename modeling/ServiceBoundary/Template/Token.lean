import ServiceBoundary.Template.Error

/-!
# Tokens of a template

Inside of tags a template consists of names, quoted texts, numbers and marks.

* `Token.next`             the first token of a text;
* `Token.length_next_le`   a token takes at least one character.
-/

namespace ServiceBoundary.Template

/-- marks inside tags -/
inductive Symbol where
  | plus
  | minus
  | star
  | starStar
  | slash
  | slashSlash
  | percent
  | tilde
  | dot
  | comma
  | colon
  | bar
  | assign
  | equal
  | unequal
  | less
  | atMost
  | greater
  | atLeast
  | openRound
  | closeRound
  | openSquare
  | closeSquare
  | openBrace
  | closeBrace
deriving DecidableEq, Repr

inductive Token where
  | word (name : String)
  | text (s : String)
  | int (n : Nat)
  | float (x : Float)
  | symbol (s : Symbol)
deriving BEq

/-! ## marks -/

/-- the mark at the start of the text, and what follows it -/
def Symbol.next : (cs : List Char) → Option (Symbol × List Char)
  | '*' :: '*' :: cs => some (.starStar, cs)
  | '/' :: '/' :: cs => some (.slashSlash, cs)
  | '=' :: '=' :: cs => some (.equal, cs)
  | '!' :: '=' :: cs => some (.unequal, cs)
  | '<' :: '=' :: cs => some (.atMost, cs)
  | '>' :: '=' :: cs => some (.atLeast, cs)
  | '+' :: cs => some (.plus, cs)
  | '-' :: cs => some (.minus, cs)
  | '*' :: cs => some (.star, cs)
  | '/' :: cs => some (.slash, cs)
  | '%' :: cs => some (.percent, cs)
  | '~' :: cs => some (.tilde, cs)
  | '.' :: cs => some (.dot, cs)
  | ',' :: cs => some (.comma, cs)
  | ':' :: cs => some (.colon, cs)
  | '|' :: cs => some (.bar, cs)
  | '=' :: cs => some (.assign, cs)
  | '<' :: cs => some (.less, cs)
  | '>' :: cs => some (.greater, cs)
  | '(' :: cs => some (.openRound, cs)
  | ')' :: cs => some (.closeRound, cs)
  | '[' :: cs => some (.openSquare, cs)
  | ']' :: cs => some (.closeSquare, cs)
  | '\x7b' :: cs => some (.openBrace, cs)
  | '\x7d' :: cs => some (.closeBrace, cs)
  | _ => none

theorem Symbol.length_next_lt {cs rest : List Char} {s : Symbol}
    (h : Symbol.next cs = some (s, rest)) : rest.length < cs.length := by
  unfold Symbol.next at h
  split at h <;> simp at h <;> obtain ⟨-, rfl⟩ := h <;> simp only [List.length_cons] <;> omega

/-- how much deeper the text is inside brackets behind the mark -/
def Symbol.depth : Symbol → Int
  | .openRound | .openSquare | .openBrace => 1
  | .closeRound | .closeSquare | .closeBrace => -1
  | _ => 0

namespace Token

/-- how much deeper the text is inside brackets behind the token -/
def depth : Token → Int
  | .symbol s => s.depth
  | _ => 0

/-! ## blanks and names -/

/-- what separates tokens -/
def isSpace (c : Char) : Bool := [' ', '\t', '\n', '\r', '\x0c'].contains c

def startsName (c : Char) : Bool := c.isAlpha || c = '_'

/-- the other characters of a name -/
def continuesName (c : Char) : Bool := c.isAlphanum || c = '_'

/-! ## quoted texts -/

/-- the text up to the mark that closes it, as written, and what follows the mark -/
def cutText (mark : Char) : (cs : List Char) → Option (List Char × List Char)
  | [] => none
  | [c] => if c = mark then some ([], []) else none
  | c :: d :: cs =>
    if c = mark then some ([], d :: cs)
    else if c = '\\' then (cutText mark cs).map fun r => (c :: d :: r.1, r.2)
    else (cutText mark (d :: cs)).map fun r => (c :: r.1, r.2)

theorem length_cutText_le {mark : Char} {cs body rest : List Char}
    (h : cutText mark cs = some (body, rest)) : rest.length ≤ cs.length := by
  fun_induction cutText mark cs generalizing body rest <;> simp_all <;> grind

/-- the number of four hexadecimal digits -/
def hexNumber? (cs : List Char) : Option Nat :=
  if cs.length = 4 ∧ cs.all Char.isHexDigit then
    some (cs.foldl (fun n c =>
      16 * n + (if c.isDigit then c.toNat - 0x30 else c.toLower.toNat - 0x61 + 10)) 0)
  else none

/-- the text that is meant, as a list of units of 16 bits where it is written with them -/
def unescape : (cs : List Char) → Except RenderError (List Char)
  | [] => .ok []
  | '\\' :: 'u' :: a :: b :: c :: d :: cs =>
    match hexNumber? [a, b, c, d] with
    | none => .error .badEscape
    | some n =>
      if n < 0xd800 ∨ 0xe000 ≤ n then return Char.ofNat n :: (← unescape cs)
      else
        match cs with
        | '\\' :: 'u' :: a :: b :: c :: d :: cs =>
          match hexNumber? [a, b, c, d] with
          | none => .error .badEscape
          | some m =>
            if n < 0xdc00 ∧ 0xdc00 ≤ m ∧ m < 0xe000 then
              return Char.ofNat (0x10000 + (n - 0xd800) * 0x400 + (m - 0xdc00)) :: (← unescape cs)
            else .error .badEscape
        | _ => .error .badEscape
  | '\\' :: c :: cs =>
    match c with
    | '"' | '\\' | '/' | '\'' => return c :: (← unescape cs)
    | 'b' => return '\x08' :: (← unescape cs)
    | 'f' => return '\x0c' :: (← unescape cs)
    | 'n' => return '\n' :: (← unescape cs)
    | 'r' => return '\r' :: (← unescape cs)
    | 't' => return '\t' :: (← unescape cs)
    | _ => .error .badEscape
  | ['\\'] => .error .badEscape
  | c :: cs => return c :: (← unescape cs)

/-! ## numbers -/

/-- the value of digits in a base, if all of them are digits there; `_` between them is passed over -/
def digitsValue? (base : Nat) (cs : List Char) : Option Nat :=
  let digits := cs.filter (· ≠ '_')
  if digits.isEmpty then none
  else
    digits.foldlM (fun n c =>
      let d := if c.isDigit then c.toNat - 0x30 else c.toLower.toNat - 0x61 + 10
      if d < base then some (base * n + d) else none) 0

/-- where in a number a character stands -/
inductive Place where
  /-- behind the mark of a base -/
  | based
  | whole
  | fraction
  /-- right behind the letter of an exponent -/
  | exponentSign
  | exponent
deriving DecidableEq, Repr

/-- where a character stands that goes on with a number; a `_` may stand anywhere -/
def Place.next? (base : Nat) (p : Place) (c : Char) : Option Place :=
  if c = '_' then some p
  else if c.isDigit then some (if p = .exponentSign then .exponent else p)
  else
    match p with
    | .based => if base = 16 && c.isHexDigit then some .based else none
    | .whole =>
      if c = '.' then some .fraction
      else if c = 'e' || c = 'E' then some .exponentSign
      else none
    | .fraction => if c = 'e' || c = 'E' then some .exponentSign else none
    | .exponentSign => if c = '+' || c = '-' then some .exponent else none
    | .exponent => none

/-- the longest number at the start of the text, where it ends, and what follows it -/
def cutNumber (base : Nat) (p : Place) : (cs : List Char) → List Char × Place × List Char
  | [] => ([], p, [])
  | c :: cs =>
    match p.next? base c with
    | none => ([], p, c :: cs)
    | some q => (c :: (cutNumber base q cs).1, (cutNumber base q cs).2)

theorem length_cutNumber_le (base : Nat) (p : Place) (cs : List Char) :
    (cutNumber base p cs).2.2.length ≤ cs.length := by
  fun_induction cutNumber base p cs with
  | case1 => exact Nat.le_refl _
  | case2 => exact Nat.le_refl _
  | case3 _ _ _ _ _ ih => exact Nat.le_succ_of_le ih

/-- the largest integer that can be written -/
def largestInt : Nat := 0xffffffffffffffffffffffffffffffff

def integer (base : Nat) (cs : List Char) : Except RenderError Token :=
  match digitsValue? base cs with
  | some n => if n ≤ largestInt then .ok (.int n) else .error .malformed
  | none => .error .malformed

/-- beyond these powers of ten a number with a point is infinite or zero -/
def powerLimit : Nat := 400

/-- `n` times a power of ten, the nearest float -/
def decimal (n digits : Nat) (power : Int) : Float :=
  if 0 ≤ power then Float.ofScientific n false (min power.toNat powerLimit)
  else Float.ofScientific n true (min power.natAbs (powerLimit + digits))

/-- a number with a point or an exponent -/
def float? (cs : List Char) : Except RenderError Token :=
  let whole := cs.takeWhile Char.isDigit
  let rest := cs.dropWhile Char.isDigit
  let (fraction, rest) :=
    match rest with
    | '.' :: rest => (rest.takeWhile Char.isDigit, rest.dropWhile Char.isDigit)
    | rest => ([], rest)
  let (negative, exponent) :=
    match rest with
    | [] => (false, ['0'])
    | _ :: '-' :: ds => (true, ds)
    | _ :: '+' :: ds => (false, ds)
    | _ :: ds => (false, ds)
  match digitsValue? 10 (whole ++ fraction), digitsValue? 10 exponent with
  | some n, some e =>
    .ok (.float (decimal n (whole ++ fraction).length
      ((if negative then -(e : Int) else e) - fraction.length)))
  | _, _ => .error .malformed

/-- the number as written; `_` must not be its last character -/
def number (base : Nat) (cs : List Char) (p : Place) : Except RenderError Token :=
  if cs.getLast? = some '_' then .error .malformed
  else
    match p with
    | .based | .whole => integer base (cs.filter (· ≠ '_'))
    | _ => float? (cs.filter (· ≠ '_'))

/-- the base that a number names, and what follows the mark -/
def cutBase : (cs : List Char) → Nat × Place × List Char
  | '0' :: c :: cs =>
    if c = 'x' ∨ c = 'X' then (16, .based, cs)
    else if c = 'o' ∨ c = 'O' then (8, .based, cs)
    else if c = 'b' ∨ c = 'B' then (2, .based, cs)
    else (10, .whole, '0' :: c :: cs)
  | cs => (10, .whole, cs)

/-! ## the first token -/

/-- what can be a token, and what follows it -/
def next (c : Char) (cs : List Char) : Except RenderError (Token × List Char) :=
  if c = '\'' ∨ c = '"' then
    match cutText c cs with
    | some (body, rest) => (unescape body).map fun s => (.text (String.ofList s), rest)
    | none => .error .malformed
  else if c.isDigit then
    match cutBase (c :: cs) with
    | (base, p, digits) =>
      let cut := cutNumber base p digits
      (number base cut.1 cut.2.1).map fun t => (t, cut.2.2)
  else if startsName c then
    .ok (.word (String.ofList (c :: cs.takeWhile continuesName)), cs.dropWhile continuesName)
  else
    match Symbol.next (c :: cs) with
    | some (s, rest) => .ok (.symbol s, rest)
    | none => .error .malformed

/-! ## what is left is shorter -/

/-- A number in the usual base takes the digit that it starts with. -/
theorem length_cutNumber_whole_le {c : Char} (hc : c.isDigit) (cs : List Char) :
    (cutNumber 10 .whole (c :: cs)).2.2.length ≤ cs.length := by
  have h : Place.next? 10 .whole c = some .whole := by
    unfold Place.next?
    split
    · rfl
    · simp
  simp only [cutNumber, h]
  exact length_cutNumber_le ..

/-- A base takes two characters, and a number without one takes the digit that it starts with. -/
theorem length_cutNumber_cutBase_le {c : Char} (hc : c.isDigit) (cs : List Char) :
    (cutNumber (cutBase (c :: cs)).1 (cutBase (c :: cs)).2.1 (cutBase (c :: cs)).2.2).2.2.length
      ≤ cs.length := by
  have based (base : Nat) (p : Place) (d : Char) (ds : List Char) :
      (cutNumber base p ds).2.2.length ≤ (d :: ds).length :=
    Nat.le_succ_of_le (length_cutNumber_le base p ds)
  have whole := length_cutNumber_whole_le hc cs
  unfold cutBase
  split
  · next d ds heq =>
    obtain ⟨rfl, rfl⟩ := List.cons.inj heq
    split
    · exact based ..
    · split
      · exact based ..
      · split
        · exact based ..
        · exact whole
  · exact whole

/-- A token takes the first character at least. -/
theorem length_next_le {c : Char} {cs rest : List Char} {t : Token}
    (h : next c cs = .ok (t, rest)) : rest.length ≤ cs.length := by
  unfold next at h
  split at h
  · split at h
    · next body tail hcut =>
      cases hu : unescape body with
      | error e => simp [hu, Except.map] at h
      | ok s =>
        simp only [hu, Except.map, Except.ok.injEq, Prod.mk.injEq] at h
        exact h.2 ▸ length_cutText_le hcut
    · simp at h
  · split at h
    · next hc =>
      have hl := length_cutNumber_cutBase_le hc cs
      simp only at h
      revert h
      generalize cutNumber (cutBase (c :: cs)).1 (cutBase (c :: cs)).2.1 (cutBase (c :: cs)).2.2 = cut at hl ⊢
      intro h
      cases hn : number (cutBase (c :: cs)).1 cut.1 cut.2.1 with
      | error e => simp [hn, Except.map] at h
      | ok t' =>
        simp only [hn, Except.map, Except.ok.injEq, Prod.mk.injEq] at h
        exact h.2 ▸ hl
    · split at h
      · simp only [Except.ok.injEq, Prod.mk.injEq] at h
        exact h.2 ▸ (List.dropWhile_suffix continuesName).length_le
      · split at h
        · next s tail hs =>
          simp only [Except.ok.injEq, Prod.mk.injEq] at h
          exact h.2 ▸ Nat.le_of_lt_succ (Symbol.length_next_lt hs)
        · simp at h

end Token

end ServiceBoundary.Template
