/-!
# Placeholders

A text may hold placeholders: names between braces. A brace with no partner, or with a brace between
it and its partner, belongs to no placeholder, and no text may hold one. Values are put in as they
are; braces in a value mean nothing.

* `Placeholder.cut`      the text cut at its placeholders;
* `Placeholder.fill`     a value for each of them;
* `Placeholder.expand`   the text with values for its placeholders.
-/

namespace ServiceBoundary.Placeholder

/-- a text cut at its placeholders -/
structure Cut where
  /-- each placeholder with the text before it -/
  tokens : List (List Char × List Char)
  /-- the text behind the last placeholder -/
  rest : List Char
deriving DecidableEq, Repr

/-- whether the character is no brace -/
def isFree (c : Char) : Bool := c ≠ '\x7b' && c ≠ '\x7d'

/-- a character more at the front -/
def Cut.push (c : Char) : Cut → Cut
  | ⟨[], rest⟩ => ⟨[], c :: rest⟩
  | ⟨(before, name) :: tokens, rest⟩ => ⟨(c :: before, name) :: tokens, rest⟩

/-- the text cut at its placeholders, which are looked for from the left -/
def cut : (cs : List Char) → Cut
  | [] => ⟨[], []⟩
  | c :: cs =>
    if c = '\x7b' ∧ (cs.dropWhile isFree).head? = some '\x7d' then
      let after := cut (cs.dropWhile isFree).tail
      ⟨([], cs.takeWhile isFree) :: after.tokens, after.rest⟩
    else (cut cs).push c
termination_by cs => cs.length
decreasing_by
  · have := (List.dropWhile_suffix (l := cs) isFree).length_le
    simp only [List.length_tail, List.length_cons]
    omega
  · simp

/-- why a text cannot be expanded -/
inductive ExpandError where
  /-- a placeholder without a value -/
  | unknown (name : String) (input : String)
  /-- a brace that belongs to no placeholder -/
  | unbalanced (input : String)
deriving DecidableEq, Repr

def ExpandError.message : ExpandError → String
  | .unknown name input => "unknown token: \x7b" ++ name ++ "\x7d in: " ++ input
  | .unbalanced input => "unbalanced braces in: " ++ input

/-- a text without braces -/
def literal (input : String) (cs : List Char) : Except ExpandError String :=
  if cs.all isFree then .ok (String.ofList cs) else .error (.unbalanced input)

/-- Each placeholder of the text is given its value, from the left. Of a placeholder without a value
and a stray brace before it, the placeholder is reported. -/
def fill (value : String → Option String) (input : String) : Except ExpandError String := do
  let pieces := cut input.toList
  let texts ← pieces.tokens.mapM fun (before, name) =>
    match value (String.ofList name) with
    | none => .error (.unknown (String.ofList name) input)
    | some text => return (← literal input before) ++ text
  return String.join texts ++ (← literal input pieces.rest)

/-- the text with values for its placeholders; without braces it is returned as it is -/
def expand (value : String → Option String) (input : String) : Except ExpandError String :=
  if input.toList.all isFree then .ok input else fill value input

end ServiceBoundary.Placeholder
