import ServiceBoundary.Template.Token
import ServiceBoundary.Text.Blank

/-!
# Pieces of a template

A template is text with tags in it: `\x7b\x7b … \x7d\x7d` for output, `\x7b% … %\x7d` for statements
and `\x7b# … #\x7d` for comments. A `-` inside a tag at one of its ends takes away the blanks that
the text outside has there. Between the tags `raw` and `endraw` tags are text.

* `Piece.ofTemplate`   the pieces of a template.
-/

namespace ServiceBoundary.Template

inductive Piece where
  | text (s : String)
  | output (tokens : List Token)
  | statement (tokens : List Token)

namespace Piece

/-! ## where tags start -/

/-- what a tag is for -/
inductive Purpose where
  | output
  | statement
  | comment
deriving DecidableEq, Repr

/-- the purpose of a tag whose second character is this one -/
def Purpose.ofChar? : Char → Option Purpose
  | '\x7b' => some .output
  | '%' => some .statement
  | '#' => some .comment
  | _ => none

/-- the text before the first tag, and what the tag is for with what follows its mark -/
def cutOpening : (cs : List Char) → List Char × Option (Purpose × List Char)
  | '\x7b' :: c :: cs =>
    match Purpose.ofChar? c with
    | some purpose => ([], some (purpose, cs))
    | none => ('\x7b' :: (cutOpening (c :: cs)).1, (cutOpening (c :: cs)).2)
  | c :: cs => (c :: (cutOpening cs).1, (cutOpening cs).2)
  | [] => ([], none)

theorem length_cutOpening_lt {cs rest : List Char} {purpose : Purpose}
    (h : (cutOpening cs).2 = some (purpose, rest)) : rest.length < cs.length := by
  fun_induction cutOpening cs with
  | case1 =>
    simp only [Option.some.injEq, Prod.mk.injEq] at h
    exact h.2 ▸ Nat.lt_succ_of_lt (Nat.lt_succ_self _)
  | case2 _ _ _ ih => exact Nat.lt_succ_of_lt (ih h)
  | case3 _ _ _ ih => exact Nat.lt_succ_of_lt (ih h)
  | case4 => simp at h

/-- what follows a sign at the start of a tag, and whether blanks before the tag go away -/
def cutSign : (cs : List Char) → Bool × List Char
  | '-' :: cs => (true, cs)
  | '+' :: cs => (false, cs)
  | cs => (false, cs)

theorem length_cutSign_le (cs : List Char) : (cutSign cs).2.length ≤ cs.length := by
  unfold cutSign
  split <;> simp

/-! ## where tags end -/

/-- whether blanks behind the tag go away, and what follows it, if the tag ends here -/
def cutClosing? (mark : Char) : (cs : List Char) → Option (Bool × List Char)
  | c :: '\x7d' :: cs => if c = mark then some (false, cs) else signed c ('\x7d' :: cs)
  | c :: cs => signed c cs
  | [] => none
where
  /-- the same with a sign before the mark -/
  signed (sign : Char) : List Char → Option (Bool × List Char)
    | c :: '\x7d' :: cs =>
      if c = mark ∧ (sign = '-' ∨ sign = '+') then some (sign = '-', cs) else none
    | _ => none

theorem length_cutClosing_lt {mark : Char} {cs rest : List Char} {trims : Bool}
    (h : cutClosing? mark cs = some (trims, rest)) : rest.length < cs.length := by
  have signed {c : Char} {cs : List Char} (h : cutClosing?.signed mark c cs = some (trims, rest)) :
      rest.length < cs.length := by
    unfold cutClosing?.signed at h
    split at h
    · split at h
      · simp only [Option.some.injEq, Prod.mk.injEq] at h
        exact h.2 ▸ Nat.lt_succ_of_lt (Nat.lt_succ_self _)
      · simp at h
    · simp at h
  unfold cutClosing? at h
  split at h
  · split at h
    · simp only [Option.some.injEq, Prod.mk.injEq] at h
      exact h.2 ▸ Nat.lt_succ_of_lt (Nat.lt_succ_self _)
    · exact Nat.lt_succ_of_lt (signed h)
  · exact Nat.lt_succ_of_lt (signed h)
  · simp at h

/-- the same for a tag with open brackets in it; inside of brackets no tag ends -/
def cutEnd? (mark : Char) (depth : Int) (cs : List Char) : Option (Bool × List Char) :=
  if depth = 0 then cutClosing? mark cs else none

theorem length_cutEnd_lt {mark : Char} {depth : Int} {cs rest : List Char} {trims : Bool}
    (h : cutEnd? mark depth cs = some (trims, rest)) : rest.length < cs.length := by
  unfold cutEnd? at h
  split at h
  · exact length_cutClosing_lt h
  · simp at h

/-- the tokens of a tag, whether blanks behind it go away, and what follows it -/
def cutTag (mark : Char) (depth : Int) (cs : List Char) :
    Except RenderError (List Token × Bool × List Char) :=
  match cs with
  | [] => .error .malformed
  | c :: cs =>
    if Token.isSpace c then cutTag mark depth cs
    else
      match cutEnd? mark depth (c :: cs) with
      | some (trims, rest) => .ok ([], trims, rest)
      | none =>
        match _h : Token.next c cs with
        | .error e => .error e
        | .ok (t, rest) =>
          match cutTag mark (depth + t.depth) rest with
          | .error e => .error e
          | .ok (ts, trims, rest) => .ok (t :: ts, trims, rest)
termination_by cs.length
decreasing_by
  · simp
  · exact Nat.lt_succ_of_le (Token.length_next_le _h)

theorem length_cutTag_lt {mark : Char} {depth : Int} {cs rest : List Char} {ts : List Token}
    {trims : Bool} (h : cutTag mark depth cs = .ok (ts, trims, rest)) :
    rest.length < cs.length := by
  fun_induction cutTag mark depth cs generalizing ts trims rest with
  | case1 => simp at h
  | case2 _ _ _ _ ih => exact Nat.lt_succ_of_lt (ih h)
  | case3 _ _ _ _ _ _ hend =>
    simp only [Except.ok.injEq, Prod.mk.injEq] at h
    exact h.2.2 ▸ length_cutEnd_lt hend
  | case4 => simp at h
  | case5 => simp at h
  | case6 _ _ _ _ _ _ _ hnext _ _ _ htag ih =>
    simp only [Except.ok.injEq, Prod.mk.injEq] at h
    exact Nat.lt_succ_of_lt (Nat.lt_of_lt_of_le (h.2.2 ▸ ih htag) (Token.length_next_le hnext))

/-- whether blanks behind a comment go away, and what follows it; `before` is what was read last -/
def cutComment? (before : Char) : (cs : List Char) → Option (Bool × List Char)
  | '#' :: '\x7d' :: cs => some (before = '-', cs)
  | c :: cs => cutComment? c cs
  | [] => none

theorem length_cutComment_lt {before : Char} {cs rest : List Char} {trims : Bool}
    (h : cutComment? before cs = some (trims, rest)) : rest.length < cs.length := by
  fun_induction cutComment? before cs with
  | case1 =>
    simp only [Option.some.injEq, Prod.mk.injEq] at h
    exact h.2 ▸ Nat.lt_succ_of_lt (Nat.lt_succ_self _)
  | case2 _ _ _ _ ih => exact Nat.lt_succ_of_lt (ih h)
  | case3 => simp at h

/-! ## text with tags in it -/

/-- what follows a word, if the text starts with it -/
def afterWord? : (word cs : List Char) → Option (List Char)
  | [], cs => some cs
  | w :: word, c :: cs => if w = c then afterWord? word cs else none
  | _ :: _, [] => none

theorem length_afterWord_le {word cs rest : List Char} (h : afterWord? word cs = some rest) :
    rest.length ≤ cs.length := by
  fun_induction afterWord? word cs with
  | case1 => simp_all
  | case2 _ _ _ ih => exact Nat.le_succ_of_le (ih h)
  | case3 => simp at h
  | case4 => simp at h

/-- whether blanks behind the tag go away, and what follows it, if the tag consists of one word -/
def cutWordTag? (word cs : List Char) : Option (Bool × List Char) :=
  (afterWord? word ((cutSign cs).2.dropWhile Token.isSpace)).bind fun rest =>
    cutClosing? '%' (rest.dropWhile Token.isSpace)

theorem length_cutWordTag_lt {word cs rest : List Char} {trims : Bool}
    (h : cutWordTag? word cs = some (trims, rest)) : rest.length < cs.length := by
  obtain ⟨mid, hmid, hrest⟩ := Option.bind_eq_some_iff.1 h
  exact Nat.lt_of_lt_of_le (length_cutClosing_lt hrest)
    (Nat.le_trans (List.dropWhile_suffix _).length_le
      (Nat.le_trans (length_afterWord_le hmid)
        (Nat.le_trans (List.dropWhile_suffix _).length_le (length_cutSign_le cs))))

/-- where text with tags in it ends -/
structure RawEnd where
  body : List Char
  /-- whether blanks at its end go away -/
  trimsBody : Bool
  /-- whether blanks behind the tag go away -/
  trims : Bool
  /-- what follows the tag -/
  rest : List Char

/-- the text up to the tag that ends it -/
def cutRaw? : (cs : List Char) → Option RawEnd
  | '\x7b' :: '%' :: cs =>
    match cutWordTag? "endraw".toList cs with
    | some (trims, rest) => some ⟨[], (cutSign cs).1, trims, rest⟩
    | none => (cutRaw? cs).map fun r => { r with body := '\x7b' :: '%' :: r.body }
  | c :: cs => (cutRaw? cs).map fun r => { r with body := c :: r.body }
  | [] => none

theorem length_cutRaw_lt {cs : List Char} {r : RawEnd} (h : cutRaw? cs = some r) :
    r.rest.length < cs.length := by
  fun_induction cutRaw? cs generalizing r with
  | case1 _ _ _ htag =>
    simp only [Option.some.injEq] at h
    subst h
    exact Nat.lt_succ_of_lt (Nat.lt_succ_of_lt (length_cutWordTag_lt htag))
  | case2 _ _ ih =>
    obtain ⟨q, hq, rfl⟩ := Option.map_eq_some_iff.1 h
    exact Nat.lt_succ_of_lt (Nat.lt_succ_of_lt (ih (r := q) hq))
  | case3 _ _ _ ih =>
    obtain ⟨q, hq, rfl⟩ := Option.map_eq_some_iff.1 h
    exact Nat.lt_succ_of_lt (ih (r := q) hq)
  | case4 => simp at h

/-! ## pieces -/

/-- text without the blanks that tags beside it take away, if there is any -/
def ofText (trimsStart trimsEnd : Bool) (cs : List Char) : List Piece :=
  let cs := if trimsStart then cs.dropWhile Text.isBlank else cs
  let cs := if trimsEnd then Text.dropTrailing Text.isBlank cs else cs
  if cs.isEmpty then [] else [.text (String.ofList cs)]

/-- the pieces of a text; `trims` tells whether blanks at its start go away -/
def ofChars (trims : Bool) (cs : List Char) : Except RenderError (List Piece) :=
  match _hopen : (cutOpening cs).2 with
  | none => .ok (ofText trims false (cutOpening cs).1)
  | some (purpose, rest) =>
    let before := ofText trims (cutSign rest).1 (cutOpening cs).1
    match purpose with
    | .comment =>
      match _h : cutComment? (rest.headD '#') (cutSign rest).2 with
      | none => .error .malformed
      | some (trims, rest) => (ofChars trims rest).map (before ++ ·)
    | .output =>
      match _h : cutTag '\x7d' 0 (cutSign rest).2 with
      | .error e => .error e
      | .ok (ts, trims, rest) => (ofChars trims rest).map fun ps => before ++ .output ts :: ps
    | .statement =>
      match _hraw : cutWordTag? "raw".toList rest with
      | some (trimsRaw, body) =>
        match _h : cutRaw? body with
        | none => .error .malformed
        | some r =>
          (ofChars r.trims r.rest).map fun ps => before ++ ofText trimsRaw r.trimsBody r.body ++ ps
      | none =>
        match _h : cutTag '%' 0 (cutSign rest).2 with
        | .error e => .error e
        | .ok (ts, trims, rest) => (ofChars trims rest).map fun ps => before ++ .statement ts :: ps
termination_by cs.length
decreasing_by
  all_goals have hlt := length_cutOpening_lt _hopen
  · exact Nat.lt_trans (Nat.lt_of_lt_of_le (length_cutComment_lt _h) (length_cutSign_le _)) hlt
  · exact Nat.lt_trans (Nat.lt_of_lt_of_le (length_cutTag_lt _h) (length_cutSign_le _)) hlt
  · exact Nat.lt_trans (length_cutRaw_lt _h) (Nat.lt_trans (length_cutWordTag_lt _hraw) hlt)
  · exact Nat.lt_trans (Nat.lt_of_lt_of_le (length_cutTag_lt _h) (length_cutSign_le _)) hlt

/-- the text without one line end at its end -/
def dropLineEnd (cs : List Char) : List Char :=
  let cs := if cs.getLast? = some '\n' then cs.dropLast else cs
  if cs.getLast? = some '\r' then cs.dropLast else cs

/-- the pieces of a template; one line end at its end does not count -/
def ofTemplate (source : String) : Except RenderError (List Piece) :=
  ofChars false (dropLineEnd source.toList)

end Piece

end ServiceBoundary.Template
