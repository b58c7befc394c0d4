import Mathlib.Data.List.TakeWhile
import ServiceBoundary.Locator
import ServiceBoundary.Proofs.Results

/-!
# Texts with placeholders

A text can be expanded if it is made of parts without braces and of placeholders with a value. The
result is the text with the values in their places, and what stands in a value is not looked at
again. Reading from the left finds these parts: a placeholder starts at the first opening brace that
has its partner before any other brace.

* `Expands`                       the texts that can be expanded, part by part;
* `Cuts`                          the placeholders of a text, as they are met from the left;
* `cuts_cut`, `Cuts.unique`       there is one way to cut a text, and `cut` finds it;
* `expand_eq_fill`                a text without braces may be returned as it is;
* `expand_eq_ok_iff`              what can be expanded, and to what;
* `expand_cases`                  the answers of an expansion;
* `Locator.Means`                 the placeholders that have a value;
* `texts_are_expanded_once`       all of this, for the placeholders of a manifest.
-/

namespace ServiceBoundary

namespace Placeholder
variable {cs out before name name' after after' rest : List Char} {c : Char}
  {tokens : List (List Char × List Char)} {means : String → String → Prop}
  {value : String → Option String} {input text : String}

/-- no brace -/
def Plain (cs : List Char) : Prop := ∀ c ∈ cs, isFree c = true

instance (cs : List Char) : Decidable (Plain cs) :=
  inferInstanceAs (Decidable (∀ c ∈ cs, isFree c = true))

/-- the values that a function gives, as a relation -/
abbrev Given (value : String → Option String) (name text : String) : Prop := value name = some text

/-- a placeholder as it is written -/
def braced (name : List Char) : List Char := '\x7b' :: (name ++ ['\x7d'])

/-- a text made of parts without braces and of placeholders, and what becomes of it -/
inductive Expands (means : String → String → Prop) : List Char → List Char → Prop
  | nil : Expands means [] []
  | plain {part cs out : List Char} (hpart : Plain part) (h : Expands means cs out) :
      Expands means (part ++ cs) (part ++ out)
  | placeholder {name cs out : List Char} {text : String} (hname : Plain name)
      (hmeans : means (String.ofList name) text) (h : Expands means cs out) :
      Expands means (braced name ++ cs) (text.toList ++ out)

/-- The text cut at its placeholders. The next one is the one that starts first, and the search goes
on behind it; each comes with the text before it. -/
inductive Cuts : List Char → List (List Char × List Char) → List Char → Prop
  | rest {cs : List Char} (hnone : ∀ u name v, Plain name → cs ≠ u ++ braced name ++ v) :
      Cuts cs [] cs
  | next {cs before name after rest : List Char} {tokens : List (List Char × List Char)}
      (hcs : cs = before ++ braced name ++ after) (hname : Plain name)
      (hfirst : ∀ u name' v, Plain name' → cs = u ++ braced name' ++ v → before.length ≤ u.length)
      (h : Cuts after tokens rest) : Cuts cs ((before, name) :: tokens) rest

theorem Expands.append {x y a b : List Char} (hx : Expands means x a) (hy : Expands means y b) :
    Expands means (x ++ y) (a ++ b) := by
  induction hx with
  | nil => exact hy
  | plain hpart _ ih =>
    rw [List.append_assoc, List.append_assoc]
    exact .plain hpart ih
  | placeholder hname hmeans _ ih =>
    rw [List.append_assoc, List.append_assoc]
    exact .placeholder hname hmeans ih

/-! ## cutting -/

theorem plain_cons : Plain (c :: cs) ↔ isFree c = true ∧ Plain cs := List.forall_mem_cons

theorem braced_append (name after : List Char) :
    braced name ++ after = '\x7b' :: (name ++ '\x7d' :: after) := by
  simp [braced]

theorem takeWhile_of_plain (h : Plain name) :
    (name ++ '\x7d' :: after).takeWhile isFree = name := by
  rw [List.takeWhile_append_of_pos h]
  show name ++ [] = name
  rw [List.append_nil]

theorem dropWhile_of_plain (h : Plain name) :
    (name ++ '\x7d' :: after).dropWhile isFree = '\x7d' :: after := by
  rw [List.dropWhile_append_of_pos h]
  rfl

theorem braced_append_inj (h : Plain name) (h' : Plain name')
    (heq : braced name ++ after = braced name' ++ after') : name = name' ∧ after = after' := by
  rw [braced_append, braced_append] at heq
  have htail := List.tail_eq_of_cons_eq heq
  have hname := congrArg (List.takeWhile isFree) htail
  have hafter := congrArg (List.dropWhile isFree) htail
  rw [takeWhile_of_plain h, takeWhile_of_plain h'] at hname
  rw [dropWhile_of_plain h, dropWhile_of_plain h'] at hafter
  exact ⟨hname, List.tail_eq_of_cons_eq hafter⟩

theorem starts_iff : (c = '\x7b' ∧ (cs.dropWhile isFree).head? = some '\x7d') ↔
    ∃ name after, Plain name ∧ c :: cs = braced name ++ after := by
  constructor
  · rintro ⟨rfl, hhead⟩
    refine ⟨cs.takeWhile isFree, (cs.dropWhile isFree).tail, ?_, ?_⟩
    · intro x hx
      exact List.mem_takeWhile_imp hx
    · rw [braced_append, List.cons_head?_tail hhead, List.takeWhile_append_dropWhile]
  · rintro ⟨name, after, hname, heq⟩
    rw [braced_append] at heq
    obtain ⟨rfl, rfl⟩ := List.cons.inj heq
    rw [dropWhile_of_plain hname]
    exact ⟨rfl, rfl⟩

@[simp] theorem cut_nil : cut [] = ⟨[], []⟩ := by
  rw [cut]

theorem cut_braced (h : Plain name) (cs : List Char) :
    cut (braced name ++ cs) = ⟨([], name) :: (cut cs).tokens, (cut cs).rest⟩ := by
  rw [braced_append, cut, dropWhile_of_plain h, takeWhile_of_plain h]
  exact if_pos ⟨rfl, rfl⟩

theorem cut_cons (h : ¬ ∃ name after, Plain name ∧ c :: cs = braced name ++ after) :
    cut (c :: cs) = (cut cs).push c := by
  rw [cut]
  exact if_neg fun hstarts => h (starts_iff.1 hstarts)

theorem cut_cons_of_isFree (h : isFree c = true) (cs : List Char) :
    cut (c :: cs) = (cut cs).push c := by
  refine cut_cons ?_
  rintro ⟨name, after, -, heq⟩
  rw [braced_append] at heq
  obtain ⟨rfl, -⟩ := List.cons.inj heq
  cases h

theorem cut_of_plain (h : Plain cs) : cut cs = ⟨[], cs⟩ := by
  induction cs with
  | nil => exact cut_nil
  | cons c cs ih =>
    obtain ⟨hc, hcs⟩ := plain_cons.1 h
    rw [cut_cons_of_isFree hc, ih hcs]
    rfl

/-- induction along the cut of a text -/
@[elab_as_elim]
theorem cut_induction {motive : List Char → Prop} (nil : motive [])
    (placeholder : ∀ name cs, Plain name → motive cs → motive (braced name ++ cs))
    (char : ∀ c cs, (¬ ∃ name after, Plain name ∧ c :: cs = braced name ++ after) → motive cs →
      motive (c :: cs)) (cs : List Char) : motive cs := by
  induction hlen : cs.length using Nat.strongRecOn generalizing cs with
  | _ n ih =>
    cases cs with
    | nil => exact nil
    | cons c cs =>
      by_cases h : ∃ name after, Plain name ∧ c :: cs = braced name ++ after
      · obtain ⟨name, after, hname, heq⟩ := h
        rw [heq] at hlen ⊢
        refine placeholder name after hname (ih after.length ?_ after rfl)
        rw [braced_append] at hlen
        simp only [List.length_cons, List.length_append] at hlen
        omega
      · exact char c cs h (ih cs.length (by simp only [List.length_cons] at hlen; omega) cs rfl)

theorem Cuts.push (h : Cuts cs tokens rest)
    (hc : ¬ ∃ name after, Plain name ∧ c :: cs = braced name ++ after) :
    Cuts (c :: cs) (Cut.push c ⟨tokens, rest⟩).tokens (Cut.push c ⟨tokens, rest⟩).rest := by
  -- a placeholder of the longer text starts behind its first character
  have hlater : ∀ u name v, Plain name → c :: cs = u ++ braced name ++ v →
      ∃ u', u = c :: u' ∧ cs = u' ++ braced name ++ v := by
    intro u name v hname heq
    cases u with
    | nil => exact absurd ⟨name, v, hname, heq⟩ hc
    | cons x u =>
      obtain ⟨rfl, rfl⟩ := List.cons.inj heq
      exact ⟨u, rfl, rfl⟩
  cases h with
  | rest hnone =>
    refine .rest fun u name v hname heq => ?_
    obtain ⟨u', -, heq'⟩ := hlater u name v hname heq
    exact hnone u' name v hname heq'
  | next hcs hname hfirst h =>
    refine .next (by rw [hcs]; rfl) hname (fun u name' v hname' heq => ?_) h
    obtain ⟨u', rfl, heq'⟩ := hlater u name' v hname' heq
    exact Nat.succ_le_succ (hfirst u' name' v hname' heq')

/-- **`cut` finds the placeholders from the left.** -/
theorem cuts_cut (cs : List Char) : Cuts cs (cut cs).tokens (cut cs).rest := by
  induction cs using cut_induction with
  | nil =>
    rw [cut_nil]
    refine .rest fun u name v _ heq => ?_
    simp [braced] at heq
  | placeholder name cs hname ih =>
    rw [cut_braced hname]
    exact .next rfl hname (fun u _ _ _ _ => Nat.zero_le u.length) ih
  | char c cs hc ih =>
    rw [cut_cons hc]
    exact ih.push hc

theorem Cuts.unique {tokens' : List (List Char × List Char)} {rest' : List Char}
    (h : Cuts cs tokens rest) (h' : Cuts cs tokens' rest') : tokens = tokens' ∧ rest = rest' := by
  induction h generalizing tokens' rest' with
  | rest hnone =>
    cases h' with
    | rest _ => exact ⟨rfl, rfl⟩
    | next hcs hname _ _ => exact absurd hcs (hnone _ _ _ hname)
  | next hcs hname hfirst _ ih =>
    cases h' with
    | rest hnone => exact absurd hcs (hnone _ _ _ hname)
    | next hcs' hname' hfirst' h' =>
      have hlen := Nat.le_antisymm (hfirst _ _ _ hname' hcs') (hfirst' _ _ _ hname hcs)
      have heq := hcs.symm.trans hcs'
      rw [List.append_assoc, List.append_assoc] at heq
      obtain ⟨rfl, htail⟩ := List.append_inj heq hlen
      obtain ⟨rfl, rfl⟩ := braced_append_inj hname hname' htail
      obtain ⟨rfl, rfl⟩ := ih h'
      exact ⟨rfl, rfl⟩

/-! ## expanding -/

/-- what becomes of a cut text whose placeholders all have a value -/
def Cut.Fills (means : String → String → Prop) (p : Cut) (out : List Char) : Prop :=
  ∃ parts, List.Forall₂ (fun t part => Plain t.1 ∧ ∃ text, means (String.ofList t.2) text ∧
    part = t.1 ++ text.toList) p.tokens parts ∧ Plain p.rest ∧ out = parts.flatten ++ p.rest

theorem fills_nil : Cut.Fills means ⟨[], []⟩ out ↔ out = [] := by
  constructor
  · rintro ⟨parts, hparts, -, rfl⟩
    cases hparts
    rfl
  · rintro rfl
    exact ⟨[], .nil, nofun, rfl⟩

theorem fills_cons {p : Cut} : Cut.Fills means ⟨([], name) :: p.tokens, p.rest⟩ out ↔
    ∃ text out', means (String.ofList name) text ∧ p.Fills means out' ∧
      out = text.toList ++ out' := by
  constructor
  · rintro ⟨parts, hparts, hrest, rfl⟩
    obtain ⟨_, later, ⟨-, text, hmeans, rfl⟩, hlater, rfl⟩ := List.forall₂_cons_left_iff.1 hparts
    exact ⟨text, _, hmeans, ⟨later, hlater, hrest, rfl⟩, by simp⟩
  · rintro ⟨text, _, hmeans, ⟨parts, hparts, hrest, rfl⟩, rfl⟩
    exact ⟨text.toList :: parts, .cons ⟨nofun, text, hmeans, rfl⟩ hparts, hrest, by simp⟩

theorem fills_push {p : Cut} : (p.push c).Fills means out ↔
    isFree c = true ∧ ∃ out', p.Fills means out' ∧ out = c :: out' := by
  obtain ⟨tokens, rest⟩ := p
  cases tokens with
  | nil =>
    constructor
    · rintro ⟨parts, hparts, hrest, rfl⟩
      cases hparts
      obtain ⟨hc, hrest⟩ := plain_cons.1 hrest
      exact ⟨hc, rest, ⟨[], .nil, hrest, rfl⟩, rfl⟩
    · rintro ⟨hc, _, ⟨parts, hparts, hrest, rfl⟩, rfl⟩
      cases hparts
      exact ⟨[], .nil, plain_cons.2 ⟨hc, hrest⟩, rfl⟩
  | cons t tokens =>
    obtain ⟨before, name⟩ := t
    constructor
    · rintro ⟨parts, hparts, hrest, rfl⟩
      obtain ⟨_, later, ⟨hbefore, text, hmeans, rfl⟩, hlater, rfl⟩ :=
        List.forall₂_cons_left_iff.1 hparts
      obtain ⟨hc, hbefore⟩ := plain_cons.1 hbefore
      exact ⟨hc, _, ⟨(before ++ text.toList) :: later, .cons ⟨hbefore, text, hmeans, rfl⟩ hlater,
        hrest, rfl⟩, rfl⟩
    · rintro ⟨hc, _, ⟨parts, hparts, hrest, rfl⟩, rfl⟩
      obtain ⟨_, later, ⟨hbefore, text, hmeans, rfl⟩, hlater, rfl⟩ :=
        List.forall₂_cons_left_iff.1 hparts
      exact ⟨(c :: before ++ text.toList) :: later,
        .cons ⟨plain_cons.2 ⟨hc, hbefore⟩, text, hmeans, rfl⟩ hlater, hrest, rfl⟩

theorem fills_cut_iff : (cut cs).Fills means out ↔ Expands means cs out := by
  constructor
  · intro h
    induction cs using cut_induction generalizing out with
    | nil =>
      rw [cut_nil, fills_nil] at h
      rw [h]
      exact .nil
    | placeholder name cs hname ih =>
      rw [cut_braced hname, fills_cons] at h
      obtain ⟨text, out', hmeans, h, rfl⟩ := h
      exact .placeholder hname hmeans (ih h)
    | char c cs hc ih =>
      rw [cut_cons hc, fills_push] at h
      obtain ⟨hfree, out', h, rfl⟩ := h
      show Expands means ([c] ++ cs) ([c] ++ out')
      exact .plain (plain_cons.2 ⟨hfree, nofun⟩) (ih h)
  · intro h
    induction h with
    | nil =>
      rw [cut_nil, fills_nil]
    | placeholder hname hmeans _ ih =>
      rw [cut_braced hname, fills_cons]
      exact ⟨_, _, hmeans, ih, rfl⟩
    | @plain part cs out hpart _ ih =>
      induction part with
      | nil => exact ih
      | cons c part hrest =>
        obtain ⟨hc, hpart⟩ := plain_cons.1 hpart
        rw [List.cons_append, cut_cons_of_isFree hc, fills_push]
        exact ⟨hc, _, hrest hpart, rfl⟩

theorem literal_eq_ok_iff : literal input cs = .ok text ↔ Plain cs ∧ text = String.ofList cs := by
  unfold literal
  split
  case isTrue h =>
    rw [List.all_eq_true] at h
    exact ⟨fun heq => ⟨h, (Except.ok.inj heq).symm⟩, fun heq => congrArg Except.ok heq.2.symm⟩
  case isFalse h =>
    rw [List.all_eq_true] at h
    exact ⟨nofun, fun heq => absurd heq.1 h⟩

theorem literal_eq_error (h : ¬ Plain cs) : literal input cs = .error (.unbalanced input) := by
  unfold literal
  rw [if_neg]
  rwa [List.all_eq_true]

/-- the text of a placeholder with what stands before it -/
def filled (value : String → Option String) (input : String) (t : List Char × List Char) :
    Except ExpandError String :=
  match value (String.ofList t.2) with
  | none => .error (.unknown (String.ofList t.2) input)
  | some text => (literal input t.1).map (· ++ text)

theorem fill_eq (value : String → Option String) (input : String) : fill value input = (do
    let texts ← (cut input.toList).tokens.mapM (filled value input)
    let rest ← literal input (cut input.toList).rest
    return String.join texts ++ rest) := by
  have hfilled : filled value input = fun t => match value (String.ofList t.2) with
      | none => .error (.unknown (String.ofList t.2) input)
      | some text => return (← literal input t.1) ++ text := rfl
  rw [hfilled]
  rfl

/-- **A text without braces is what the placeholders would make of it.** So it may be returned at
once. -/
theorem expand_eq_fill (value : String → Option String) (input : String) :
    expand value input = fill value input := by
  unfold expand
  split
  case isTrue h =>
    have hplain : Plain input.toList := List.all_eq_true.1 h
    rw [fill_eq, cut_of_plain hplain, literal, if_pos h, String.ofList_toList]
    exact congrArg Except.ok (String.empty_append).symm
  case isFalse => rfl

theorem expand_eq (value : String → Option String) (input : String) : expand value input = (do
    let texts ← (cut input.toList).tokens.mapM (filled value input)
    let rest ← literal input (cut input.toList).rest
    return String.join texts ++ rest) := by
  rw [expand_eq_fill, fill_eq]

theorem filled_eq_ok_iff {t : List Char × List Char} : filled value input t = .ok text ↔
    Plain t.1 ∧ ∃ v, value (String.ofList t.2) = some v ∧ text = String.ofList t.1 ++ v := by
  unfold filled
  cases hv : value (String.ofList t.2) with
  | none => simp
  | some v =>
    simp only [map_eq_ok_iff, literal_eq_ok_iff, Option.some.injEq]
    constructor
    · rintro ⟨_, ⟨hplain, rfl⟩, rfl⟩
      exact ⟨hplain, v, rfl, rfl⟩
    · rintro ⟨hplain, _, rfl, rfl⟩
      exact ⟨_, ⟨hplain, rfl⟩, rfl⟩

/-- **What can be expanded, and to what.** -/
theorem expand_eq_ok_iff : expand value input = .ok text ↔
    Expands (Given value) input.toList text.toList := by
  rw [← fills_cut_iff, expand_eq]
  simp only [bind_eq_ok_iff, mapM_eq_ok_iff, filled_eq_ok_iff, literal_eq_ok_iff]
  constructor
  · rintro ⟨texts, htexts, _, ⟨hrest, rfl⟩, heq⟩
    refine ⟨texts.map String.toList, ?_, hrest, ?_⟩
    · rw [List.forall₂_map_right_iff]
      refine htexts.imp ?_
      rintro t _ ⟨hplain, v, hv, rfl⟩
      exact ⟨hplain, v, hv, by simp⟩
    · rw [← Except.ok.inj heq]
      simp [List.flatMap_def]
  · rintro ⟨parts, hparts, hrest, heq⟩
    refine ⟨parts.map String.ofList, ?_, _, ⟨hrest, rfl⟩, ?_⟩
    · rw [List.forall₂_map_right_iff]
      refine hparts.imp ?_
      rintro t _ ⟨hplain, v, hv, rfl⟩
      exact ⟨hplain, v, hv, by simp⟩
    · refine congrArg Except.ok (String.toList_inj.1 ?_)
      rw [heq]
      simp [List.flatMap_def]

/-! ## the answers of an expansion -/

/-- a placeholder that has a value, with no brace in the text before it -/
def Ready (means : String → String → Prop) (t : List Char × List Char) : Prop :=
  Plain t.1 ∧ ∃ text, means (String.ofList t.2) text

/-- the first placeholder that is not ready -/
def FirstUnready (means : String → String → Prop) (tokens : List (List Char × List Char))
    (t : List Char × List Char) : Prop :=
  ∃ earlier later, tokens = earlier ++ t :: later ∧ (∀ s ∈ earlier, Ready means s) ∧ ¬ Ready means t

theorem filled_of_ready {t : List Char × List Char}
    (h : Ready (Given value) t) : ∃ text, filled value input t = .ok text := by
  obtain ⟨hplain, v, hv⟩ := h
  exact ⟨_, filled_eq_ok_iff.2 ⟨hplain, v, hv, rfl⟩⟩

theorem exists_mapM_filled (input : String) (h : ∀ t ∈ tokens, Ready (Given value) t) :
    ∃ texts, tokens.mapM (filled value input) = .ok texts := by
  induction tokens with
  | nil => exact ⟨[], rfl⟩
  | cons t tokens ih =>
    obtain ⟨ht, htokens⟩ := List.forall_mem_cons.1 h
    obtain ⟨text, htext⟩ : ∃ text, filled value input t = .ok text := filled_of_ready ht
    obtain ⟨texts, htexts⟩ := ih htokens
    rw [List.mapM_cons, htext, htexts]
    exact ⟨text :: texts, rfl⟩

section
variable (h : FirstUnready (Given value) (cut input.toList).tokens (before, name))
include h

theorem expand_eq_error {e : ExpandError} (he : filled value input (before, name) = .error e) :
    expand value input = .error e := by
  obtain ⟨earlier, later, htokens, hearlier, -⟩ := h
  rw [expand_eq, htokens, mapM_eq_error (fun t ht => filled_of_ready (hearlier t ht)) he]
  rfl

theorem expand_eq_unknown (hname : ¬ ∃ v, value (String.ofList name) = some v) :
    expand value input = .error (.unknown (String.ofList name) input) := by
  refine expand_eq_error h ?_
  have hnone : value (String.ofList name) = none :=
    Option.eq_none_iff_forall_ne_some.2 (not_exists.1 hname)
  unfold filled
  rw [hnone]

theorem expand_eq_unbalanced (hname : ∃ v, value (String.ofList name) = some v) :
    expand value input = .error (.unbalanced input) := by
  refine expand_eq_error h ?_
  obtain ⟨_, _, -, -, hunready⟩ := h
  have hbefore : ¬ Plain before := fun hplain => hunready ⟨hplain, hname⟩
  obtain ⟨v, hv⟩ := hname
  unfold filled
  rw [hv, literal_eq_error hbefore]
  rfl

end

section
variable (h : ∀ t ∈ (cut input.toList).tokens, Ready (Given value) t)
include h

theorem exists_expand_eq_ok (hrest : Plain (cut input.toList).rest) :
    ∃ text, expand value input = .ok text := by
  obtain ⟨texts, htexts⟩ := exists_mapM_filled input h
  rw [expand_eq, htexts, literal_eq_ok_iff.2 ⟨hrest, rfl⟩]
  exact ⟨_, rfl⟩

theorem expand_eq_unbalanced_rest (hrest : ¬ Plain (cut input.toList).rest) :
    expand value input = .error (.unbalanced input) := by
  obtain ⟨texts, htexts⟩ := exists_mapM_filled input h
  rw [expand_eq, htexts, literal_eq_error hrest]
  rfl

end

/-- **The answers of an expansion.** The first placeholder that is not ready decides; if there is
none, the text behind the last one does. -/
theorem expand_cases (value : String → Option String) (input : String) :
    ((∀ t ∈ (cut input.toList).tokens, Ready (Given value) t) ∧
      Plain (cut input.toList).rest ∧ ∃ text, expand value input = .ok text) ∨
    (∃ before name,
      FirstUnready (Given value) (cut input.toList).tokens (before, name) ∧
      (¬ ∃ v, value (String.ofList name) = some v) ∧
      expand value input = .error (.unknown (String.ofList name) input)) ∨
    ((∃ before name,
        FirstUnready (Given value) (cut input.toList).tokens (before, name) ∧
        ∃ v, value (String.ofList name) = some v) ∨
      (∀ t ∈ (cut input.toList).tokens, Ready (Given value) t) ∧
        ¬ Plain (cut input.toList).rest) ∧
      expand value input = .error (.unbalanced input) := by
  by_cases hready : ∀ t ∈ (cut input.toList).tokens, Ready (Given value) t
  · by_cases hrest : Plain (cut input.toList).rest
    · exact .inl ⟨hready, hrest, exists_expand_eq_ok hready hrest⟩
    · exact .inr (.inr ⟨.inr ⟨hready, hrest⟩, expand_eq_unbalanced_rest hready hrest⟩)
  · obtain ⟨earlier, ⟨before, name⟩, later, hsplit, hearlier, hunready⟩ := exists_first_not hready
    have hfirst : FirstUnready (Given value) (cut input.toList).tokens
        (before, name) := ⟨earlier, later, hsplit, hearlier, hunready⟩
    by_cases hname : ∃ v, value (String.ofList name) = some v
    · exact .inr (.inr ⟨.inl ⟨before, name, hfirst, hname⟩, expand_eq_unbalanced hfirst hname⟩)
    · exact .inr (.inl ⟨before, name, hfirst, hname, expand_eq_unknown hfirst hname⟩)

theorem exists_expand_iff : (∃ text, expand value input = .ok text) ↔
    (∀ t ∈ (cut input.toList).tokens, Ready (Given value) t) ∧
      Plain (cut input.toList).rest := by
  constructor
  · rintro ⟨text, htext⟩
    obtain ⟨hready, hrest, -⟩ | ⟨_, _, -, -, hunknown⟩ | ⟨-, hunbalanced⟩ := expand_cases value input
    · exact ⟨hready, hrest⟩
    · cases htext.symm.trans hunknown
    · cases htext.symm.trans hunbalanced
  · rintro ⟨hready, hrest⟩
    exact exists_expand_eq_ok hready hrest

theorem expand_eq_unknown_iff {n : String} : expand value input = .error (.unknown n input) ↔
    ∃ before name,
      FirstUnready (Given value) (cut input.toList).tokens (before, name) ∧
      (¬ ∃ v, value (String.ofList name) = some v) ∧ n = String.ofList name := by
  constructor
  · intro h
    obtain ⟨-, -, text, hok⟩ | ⟨before, name, hfirst, hname, hunknown⟩ | ⟨-, hunbalanced⟩ :=
      expand_cases value input
    · cases h.symm.trans hok
    · cases h.symm.trans hunknown
      exact ⟨before, name, hfirst, hname, rfl⟩
    · cases h.symm.trans hunbalanced
  · rintro ⟨before, name, hfirst, hname, rfl⟩
    exact expand_eq_unknown hfirst hname

theorem expand_eq_unbalanced_iff : expand value input = .error (.unbalanced input) ↔
    (∃ before name,
      FirstUnready (Given value) (cut input.toList).tokens (before, name) ∧
      ∃ v, value (String.ofList name) = some v) ∨
    (∀ t ∈ (cut input.toList).tokens, Ready (Given value) t) ∧
      ¬ Plain (cut input.toList).rest := by
  constructor
  · intro h
    obtain ⟨-, -, text, hok⟩ | ⟨_, _, -, -, hunknown⟩ | ⟨hstray, -⟩ := expand_cases value input
    · cases h.symm.trans hok
    · cases h.symm.trans hunknown
    · exact hstray
  · rintro (⟨before, name, hfirst, hname⟩ | ⟨hready, hrest⟩)
    · exact expand_eq_unbalanced hfirst hname
    · exact expand_eq_unbalanced_rest hready hrest

theorem eq_of_expand_eq_error {e : ExpandError} (h : expand value input = .error e) :
    e = .unbalanced input ∨ ∃ n, e = .unknown n input := by
  obtain ⟨-, -, text, hok⟩ | ⟨_, name, -, -, hunknown⟩ | ⟨-, hunbalanced⟩ :=
    expand_cases value input
  · cases h.symm.trans hok
  · exact .inr ⟨_, Except.error.inj (h.symm.trans hunknown)⟩
  · exact .inl (Except.error.inj (h.symm.trans hunbalanced))

end Placeholder

namespace Locator
open Placeholder (Expands Cuts Ready FirstUnready Plain)

/-! ## the placeholders of a manifest -/

/-- the placeholders that have a value, and which -/
inductive Means (l : Locator) : String → String → Prop
  | manifestDirectory : Means l "manifest_dir" l.baseDirectory
  | workDirectory : Means l "cwd" l.workDirectory
  | variable {key text : String} (h : l.environment.lookup key = some text) :
      Means l ("env." ++ key) text

theorem means_iff {l : Locator} {name text : String} :
    l.Means name text ↔ l.value name = some text := by
  constructor
  · rintro (_ | _ | @⟨key, _, h⟩)
    · rfl
    · rfl
    · unfold value
      rw [String.toList_append]
      show l.environment.lookup (String.ofList key.toList) = some text
      rw [String.ofList_toList, h]
  · intro h
    unfold value at h
    split at h
    · next key hname =>
      obtain rfl : name = "env." ++ String.ofList key := by
        rw [← String.toList_inj, hname]
        simp
      exact .variable h
    · split at h
      · next hname =>
        cases h
        exact hname ▸ .manifestDirectory
      · split at h
        · next hname =>
          cases h
          exact hname ▸ .workDirectory
        · cases h

theorem means_eq (l : Locator) : l.Means = Placeholder.Given l.value := by
  funext name text
  exact propext means_iff

/-- **Texts are expanded once.** A text can be expanded if and only if it is made of parts without
braces and of placeholders with a value; these parts stay as they are, the values come in the place
of the placeholders, and braces in a value mean nothing. There is one way to take the placeholders
from the left, and the first one decides that has no value or a brace in the text before it: it is
unknown if it has no value, and else braces are unbalanced, as they are if all placeholders have
values and a brace comes behind them. So two texts that can be expanded can be expanded together. -/
theorem texts_are_expanded_once (l : Locator) :
    (∀ input out, l.expand input = .ok out ↔ Expands l.Means input.toList out.toList) ∧
    (∀ input, ∃ tokens rest, Cuts input.toList tokens rest ∧
      (∀ tokens' rest', Cuts input.toList tokens' rest' → tokens' = tokens ∧ rest' = rest) ∧
      ((∃ out, l.expand input = .ok out) ↔ (∀ t ∈ tokens, Ready l.Means t) ∧ Plain rest) ∧
      (∀ n, l.expand input = .error (.unknown n input) ↔ ∃ before name,
        FirstUnready l.Means tokens (before, name) ∧
        (¬ ∃ text, l.Means (String.ofList name) text) ∧ n = String.ofList name) ∧
      (l.expand input = .error (.unbalanced input) ↔
        (∃ before name, FirstUnready l.Means tokens (before, name) ∧
          ∃ text, l.Means (String.ofList name) text) ∨
        (∀ t ∈ tokens, Ready l.Means t) ∧ ¬ Plain rest) ∧
      ∀ e, l.expand input = .error e →
        e = .unbalanced input ∨ ∃ n, e = .unknown n input) ∧
    ∀ x y a b, l.expand x = .ok a → l.expand y = .ok b → l.expand (x ++ y) = .ok (a ++ b) := by
  rw [means_eq]
  have hgrammar : ∀ input out, l.expand input = .ok out ↔
      Expands (Placeholder.Given l.value) input.toList out.toList :=
    fun input out => Placeholder.expand_eq_ok_iff
  refine ⟨hgrammar, fun input => ?_, fun x y a b hx hy => ?_⟩
  · exact ⟨_, _, Placeholder.cuts_cut input.toList,
      fun _ _ h => h.unique (Placeholder.cuts_cut input.toList), Placeholder.exists_expand_iff,
      fun n => Placeholder.expand_eq_unknown_iff, Placeholder.expand_eq_unbalanced_iff,
      fun e => Placeholder.eq_of_expand_eq_error⟩
  · rw [hgrammar] at hx hy ⊢
    rw [String.toList_append, String.toList_append]
    exact hx.append hy

/-- the value of a variable may look like a placeholder, and stays as it is -/
theorem expansion_of_variable :
    let l : Locator := { environment := [("A", "\x7bcwd\x7d")], workDirectory := "/w" }
    l.expand "x\x7benv.A\x7d" = .ok "x\x7bcwd\x7d" ∧ l.expand "\x7bcwd\x7d/y" = .ok "/w/y" ∧
      l.expand ("x\x7benv.A\x7d" ++ "\x7bcwd\x7d/y") = .ok ("x\x7bcwd\x7d" ++ "/w/y") ∧
      Expands l.Means ("x\x7benv.A\x7d" ++ "\x7bcwd\x7d/y").toList
        ("x\x7bcwd\x7d" ++ "/w/y").toList := by
  intro l
  have hx : l.expand "x\x7benv.A\x7d" = .ok "x\x7bcwd\x7d" := by decide +kernel
  have hy : l.expand "\x7bcwd\x7d/y" = .ok "/w/y" := by decide +kernel
  obtain ⟨hgrammar, -, htogether⟩ := texts_are_expanded_once l
  have hxy := htogether _ _ _ _ hx hy
  exact ⟨hx, hy, hxy, (hgrammar _ _).1 hxy⟩

/-- of a placeholder without a value and a brace before it, the placeholder is reported -/
example : Locator.expand ⟨[], "/w", none⟩ "\x7d\x7bnope\x7d" =
    .error (.unknown "nope" "\x7d\x7bnope\x7d") := by
  decide +kernel

end Locator

end ServiceBoundary
