import Mathlib.Data.List.TakeWhile
import ServiceBoundary.Text.Quoted
import ServiceBoundary.Toml.Scalar

/-!
# Quoted texts and numbers read back

The readers here know the rules of string literals and of numbers behind `0x`, and nothing of how
texts and numbers are written. A literal goes on to the first quotation mark that is not escaped. An
escape is a letter for a common control, a quotation mark or a backslash for itself, two digits, up
to six digits in braces with underscores between them, or a line end, which is skipped together with
the space behind it. A carriage return does not stand in a literal.

* `Hex.ofDigits_digits`, `Hex.word_text`   a machine word is read back, if no digit comes behind it;
* `Text.quotedChar_cases`                  a character is written as itself or as an escape for it;
* `Text.literal_quoted`                    a quoted text is read back, whatever comes behind it;
* `Text.literal_eq_none`                   no part of it that ends earlier is a literal;
* `Text.isPrintable_of_mem_quoted`         all of a quoted text shows, and it stands on one line.
-/

namespace ServiceBoundary

/-- a reader takes something from the front of a text and leaves the rest -/
abbrev Reader (α : Type) := StateT (List Char) Option α

theorem takeWhile_dropWhile_append {α : Type} {p : α → Bool} {row rest : List α}
    (hrow : ∀ a ∈ row, p a = true) (hrest : ∀ a ∈ rest.head?, p a = false) :
    (row ++ rest).takeWhile p = row ∧ (row ++ rest).dropWhile p = rest := by
  rw [List.takeWhile_append_of_pos hrow, List.dropWhile_append_of_pos hrow]
  cases rest with
  | nil => simp
  | cons a rest =>
    have ha : p a = false := hrest a rfl
    simp [ha]

namespace Hex
open Toml (digitValue isDigitOf ofDigits)

theorem digitValue_digitChar : ∀ k < 16, digitValue (Nat.digitChar k) = k := by decide

theorem digits_of_lt {n : Nat} (h : n < 16) : digits n = [Nat.digitChar n] :=
  Nat.toDigits_of_lt_base h

theorem digits_of_le {n : Nat} (h : 16 ≤ n) :
    digits n = digits (n / 16) ++ [Nat.digitChar (n % 16)] :=
  Nat.toDigits_of_base_le (by decide) h

theorem mem_digits {n : Nat} {d : Char} (h : d ∈ digits n) : ∃ k < 16, d = Nat.digitChar k := by
  induction n using Nat.strongRecOn with
  | _ n ih =>
    rcases Nat.lt_or_ge n 16 with hn | hn
    · rw [digits_of_lt hn] at h
      exact ⟨n, hn, List.mem_singleton.1 h⟩
    · rw [digits_of_le hn] at h
      rcases List.mem_append.1 h with h | h
      · exact ih (n / 16) (by omega) h
      · exact ⟨n % 16, by omega, List.mem_singleton.1 h⟩

theorem forall_mem_digits {p : Char → Prop} (h : ∀ k < 16, p (Nat.digitChar k)) (n : Nat) :
    ∀ d ∈ digits n, p d := by
  intro d hd
  obtain ⟨k, hk, rfl⟩ := mem_digits hd
  exact h k hk

theorem ofDigits_append_singleton (base : Nat) (ds : List Char) (d : Char) :
    ofDigits base (ds ++ [d]) = base * ofDigits base ds + digitValue d := by
  simp [ofDigits]

theorem ofDigits_digits (n : Nat) : ofDigits 16 (digits n) = n := by
  induction n using Nat.strongRecOn with
  | _ n ih =>
    rcases Nat.lt_or_ge n 16 with hn | hn
    · rw [digits_of_lt hn]
      show 16 * 0 + digitValue (Nat.digitChar n) = n
      rw [digitValue_digitChar n hn]
      omega
    · rw [digits_of_le hn, ofDigits_append_singleton, ih (n / 16) (by omega),
        digitValue_digitChar _ (by omega)]
      omega

/-- a machine word behind `0x`, with as many digits as there are -/
def word : Reader UInt64
  | '0' :: 'x' :: cs =>
    let ds := cs.takeWhile (isDigitOf 16)
    if ds ≠ [] ∧ ofDigits 16 ds < UInt64.size then
      some (.ofNat (ofDigits 16 ds), cs.dropWhile (isDigitOf 16))
    else none
  | _ => none

/-- no digit comes at the front -/
def Ends (rest : List Char) : Prop := ∀ c ∈ rest.head?, isDigitOf 16 c = false

theorem ends_cons {c : Char} (h : isDigitOf 16 c = false) (rest : List Char) :
    Ends (c :: rest) := by
  intro d hd
  cases hd
  exact h

theorem toList_text (w : UInt64) : (text w).toList = '0' :: 'x' :: digits w.toNat := by
  simp [text]

theorem word_text (w : UInt64) {rest : List Char} (h : Ends rest) :
    word.run ((text w).toList ++ rest) = some (w, rest) := by
  obtain ⟨htake, hdrop⟩ :=
    takeWhile_dropWhile_append (forall_mem_digits (by decide) w.toNat) h
  have hne : digits w.toNat ≠ [] := Nat.toDigits_ne_nil
  rw [toList_text, List.cons_append, List.cons_append]
  show (if _ ∧ _ then _ else _) = _
  rw [htake, hdrop, ofDigits_digits, if_pos ⟨hne, w.toNat_lt⟩, UInt64.ofNat_toNat]

end Hex

namespace Text
open Toml (isDigitOf ofDigits)

/-- the character that one character stands for behind a backslash -/
def letter? : Char → Option Char
  | 'n' => some '\n'
  | 'r' => some '\r'
  | 't' => some '\t'
  | '0' => some '\x00'
  | '\\' => some '\\'
  | '\'' => some '\''
  | '"' => some '"'
  | _ => none

/-- the character whose code point is written in braces -/
def numbered? (cs : List Char) : Option Char :=
  let ds := cs.filter (· ≠ '_')
  if cs.head? ≠ some '_' ∧ ds ≠ [] ∧ ds.length ≤ 6 ∧ ds.all (isDigitOf 16) = true ∧
      (ofDigits 16 ds).isValidChar then
    some (Char.ofNat (ofDigits 16 ds))
  else none

/-- what is skipped at the start of a line that is joined to the one before -/
def isSkipped (c : Char) : Bool := c = ' ' || c = '\t' || c = '\n' || c = '\r'

/-- what an escape stands for, without its backslash, and the rest -/
def escape? : List Char → Option (List Char × List Char)
  | 'x' :: a :: b :: cs =>
    if isDigitOf 8 a ∧ isDigitOf 16 b then some ([Char.ofNat (ofDigits 16 [a, b])], cs) else none
  | 'u' :: '\x7b' :: cs =>
    match cs.dropWhile (· ≠ '\x7d') with
    | _ :: rest => (numbered? (cs.takeWhile (· ≠ '\x7d'))).map fun c => ([c], rest)
    | [] => none
  | '\n' :: cs => some ([], cs.dropWhile isSkipped)
  | c :: cs => (letter? c).map fun d => ([d], cs)
  | [] => none

theorem length_escape?_le {cs out rest : List Char} (h : escape? cs = some (out, rest)) :
    rest.length ≤ cs.length := by
  unfold escape? at h
  split at h
  · split at h
    · cases h
      simp only [List.length_cons]
      omega
    · cases h
  · next cs =>
    have hle := (cs.dropWhile_suffix (· ≠ '\x7d')).length_le
    split at h
    · next c rest' hdrop =>
      rw [hdrop, List.length_cons] at hle
      obtain ⟨_, -, heq⟩ := Option.map_eq_some_iff.1 h
      cases heq
      simp only [List.length_cons]
      omega
    · cases h
  · next cs =>
    cases h
    exact Nat.le_succ_of_le (cs.dropWhile_suffix isSkipped).length_le
  · obtain ⟨_, -, heq⟩ := Option.map_eq_some_iff.1 h
    cases heq
    exact Nat.le_succ _
  · cases h

/-- what a literal says behind its first quotation mark, and the rest -/
def body? : List Char → Option (List Char × List Char)
  | [] => none
  | '"' :: rest => some ([], rest)
  | '\\' :: cs =>
    match h : escape? cs with
    | none => none
    | some (out, rest) =>
      have := length_escape?_le h
      (body? rest).map fun p => (out ++ p.1, p.2)
  | '\r' :: _ => none
  | c :: cs => (body? cs).map fun p => (c :: p.1, p.2)
termination_by cs => cs.length

def literal : Reader String
  | '"' :: cs => (body? cs).map fun p => (String.ofList p.1, p.2)
  | _ => none

theorem body?_escape {cs out rest : List Char} (h : escape? cs = some (out, rest)) :
    body? ('\\' :: cs) = (body? rest).map fun p => (out ++ p.1, p.2) := by
  rw [body?]
  split
  · next hnone => cases hnone.symm.trans h
  · next heq =>
    cases heq.symm.trans h
    rfl

theorem body?_cons {c : Char} (hmark : c ≠ '"') (hescape : c ≠ '\\') (hreturn : c ≠ '\r')
    (cs : List Char) : body? (c :: cs) = (body? cs).map fun p => (c :: p.1, p.2) :=
  body?.eq_5 c cs hmark hescape hreturn

theorem numbered?_digits (c : Char) : numbered? (Hex.digits c.toNat) = some c := by
  have hnot : ∀ d ∈ Hex.digits c.toNat, d ≠ '_' := Hex.forall_mem_digits (by decide) c.toNat
  have hfilter : (Hex.digits c.toNat).filter (· ≠ '_') = Hex.digits c.toNat :=
    List.filter_eq_self.2 fun d hd => decide_eq_true (hnot d hd)
  have hhead : (Hex.digits c.toNat).head? ≠ some '_' := fun h => hnot _ (List.mem_of_head? h) rfl
  have hvalid : c.toNat.isValidChar := c.valid
  have hlength : (Hex.digits c.toNat).length ≤ 6 := by
    refine (Nat.length_toDigits_le_iff (by decide) (by decide)).2 ?_
    obtain h | h := hvalid <;> omega
  have hdigits : (Hex.digits c.toNat).all (isDigitOf 16) = true :=
    List.all_eq_true.2 (Hex.forall_mem_digits (by decide) c.toNat)
  unfold numbered?
  simp only [hfilter, Hex.ofDigits_digits]
  rw [if_pos ⟨hhead, Nat.toDigits_ne_nil, hlength, hdigits, hvalid⟩, Char.ofNat_toNat]

theorem codePoint_eq (c : Char) :
    codePoint c = '\\' :: 'u' :: '\x7b' :: (Hex.digits c.toNat ++ ['\x7d']) := rfl

theorem escape?_codePoint (c : Char) (rest : List Char) :
    escape? ('u' :: '\x7b' :: (Hex.digits c.toNat ++ '\x7d' :: rest)) = some ([c], rest) := by
  have hdigits : ∀ d ∈ Hex.digits c.toNat, decide (d ≠ '\x7d') = true :=
    Hex.forall_mem_digits (by decide) c.toNat
  have hclosing : ∀ d ∈ ('\x7d' :: rest).head?, decide (d ≠ '\x7d') = false := by simp
  obtain ⟨htake, hdrop⟩ := takeWhile_dropWhile_append hdigits hclosing
  unfold escape?
  simp only [htake, hdrop]
  rw [numbered?_digits]
  rfl

/-- A character stands for itself, or an escape stands for it. -/
theorem quotedChar_cases (c : Char) :
    (quotedChar c = [c] ∧ c ≠ '"' ∧ c ≠ '\\' ∧ c ≠ '\r') ∨
    ∃ cs, quotedChar c = '\\' :: cs ∧ ∀ rest, escape? (cs ++ rest) = some ([c], rest) := by
  unfold quotedChar
  split
  case h_7 hreturn _ hmark hescape =>
    split
    · refine .inr ⟨_, codePoint_eq c, fun rest => ?_⟩
      rw [List.cons_append, List.cons_append, List.append_assoc]
      exact escape?_codePoint c rest
    · exact .inl ⟨rfl, hmark, hescape, hreturn⟩
  all_goals exact .inr ⟨_, rfl, fun _ => rfl⟩

theorem body?_quotedChar (c : Char) (rest : List Char) :
    body? (quotedChar c ++ rest) = (body? rest).map fun p => (c :: p.1, p.2) := by
  obtain ⟨hc, hmark, hescape, hreturn⟩ | ⟨cs, hc, hcs⟩ := quotedChar_cases c
  · rw [hc]
    exact body?_cons hmark hescape hreturn rest
  · rw [hc, List.cons_append, body?_escape (hcs rest)]
    rfl

theorem body?_flatMap_quotedChar (cs rest : List Char) :
    body? (cs.flatMap quotedChar ++ '"' :: rest) = some (cs, rest) := by
  induction cs with
  | nil => rw [List.flatMap_nil, List.nil_append, body?]
  | cons c cs ih =>
    rw [List.flatMap_cons, List.append_assoc, body?_quotedChar, ih]
    rfl

/-- **A quoted text is read back**, whatever comes behind it. -/
theorem literal_quoted (s : String) (rest : List Char) :
    literal.run ((quoted s).toList ++ rest) = some (s, rest) := by
  have hquoted :
      (quoted s).toList ++ rest = '"' :: (s.toList.flatMap quotedChar ++ '"' :: rest) := by
    simp [quoted]
  rw [hquoted]
  show (body? _).map _ = _
  rw [body?_flatMap_quotedChar]
  simp

/-! ## literals end where they say -/

theorem takeWhile_dropWhile_append_of_eq {p : Char → Bool} {cs rest : List Char} {c : Char}
    (h : cs.dropWhile p = c :: rest) (more : List Char) :
    (cs ++ more).takeWhile p = cs.takeWhile p ∧ (cs ++ more).dropWhile p = c :: (rest ++ more) := by
  have hc : p c = false := by
    have hhead := List.head?_dropWhile_not p cs
    rwa [h] at hhead
  have hrow : ∀ d ∈ cs.takeWhile p, p d = true := fun d hd => List.mem_takeWhile_imp hd
  have hrest : ∀ d ∈ (c :: (rest ++ more)).head?, p d = false := by
    intro d hd
    cases hd
    exact hc
  have hsplit : cs ++ more = cs.takeWhile p ++ c :: (rest ++ more) := by
    rw [← List.cons_append, ← List.append_assoc, ← h, List.takeWhile_append_dropWhile]
  rw [hsplit]
  exact takeWhile_dropWhile_append hrow hrest

theorem escape?_letter {c d : Char} (h : letter? c = some d) (cs : List Char) :
    escape? (c :: cs) = some ([d], cs) := by
  unfold letter? at h
  split at h <;> cases h <;> rfl

theorem escape?_append {cs out rest : List Char} (h : escape? cs = some (out, rest))
    (hrest : rest ≠ []) (more : List Char) :
    escape? (cs ++ more) = some (out, rest ++ more) := by
  unfold escape? at h
  split at h
  · next a b cs =>
    show (if _ ∧ _ then _ else _) = _
    split at h
    · next hdigits =>
      cases h
      exact if_pos hdigits
    · cases h
  · next cs =>
    split at h
    · next c rest' hdrop =>
      obtain ⟨htake, hdrop'⟩ := takeWhile_dropWhile_append_of_eq hdrop more
      obtain ⟨d, hd, heq⟩ := Option.map_eq_some_iff.1 h
      cases heq
      rw [List.cons_append, List.cons_append, escape?, hdrop', htake, hd]
      rfl
    · cases h
  · next cs =>
    cases h
    obtain ⟨c, rest', hdrop⟩ := List.exists_cons_of_ne_nil hrest
    rw [List.cons_append, escape?, (takeWhile_dropWhile_append_of_eq hdrop more).2, hdrop]
    rfl
  · obtain ⟨d, hd, heq⟩ := Option.map_eq_some_iff.1 h
    cases heq
    exact escape?_letter hd _
  · cases h

theorem body?_append {cs out rest : List Char} (h : body? cs = some (out, rest))
    (more : List Char) : body? (cs ++ more) = some (out, rest ++ more) := by
  fun_induction body? cs generalizing out with
  | case1 => cases h
  | case2 rest' =>
    cases h
    rw [List.cons_append, body?]
  | case3 => cases h
  | case4 cs piece rest' hescape hle ih =>
    obtain ⟨p, hp, heq⟩ := Option.map_eq_some_iff.1 h
    cases heq
    have hne : rest' ≠ [] := by
      rintro rfl
      rw [body?] at hp
      cases hp
    rw [List.cons_append, body?_escape (escape?_append hescape hne more), ih hp]
    rfl
  | case5 => cases h
  | case6 c cs hmark hescape hreturn ih =>
    obtain ⟨p, hp, heq⟩ := Option.map_eq_some_iff.1 h
    cases heq
    rw [List.cons_append, body?_cons hmark hescape hreturn, ih hp]
    rfl

theorem literal_append {s : String} {cs rest : List Char} (h : literal.run cs = some (s, rest))
    (more : List Char) : literal.run (cs ++ more) = some (s, rest ++ more) := by
  change literal cs = _ at h
  unfold literal at h
  split at h
  · next cs =>
    obtain ⟨p, hp, heq⟩ := Option.map_eq_some_iff.1 h
    cases heq
    show (body? (cs ++ more)).map _ = _
    rw [body?_append hp more]
    rfl
  · cases h

/-- **No literal ends early.** -/
theorem literal_eq_none {s : String} {front back : List Char}
    (h : (quoted s).toList = front ++ back) (hback : back ≠ []) : literal.run front = none := by
  refine Option.eq_none_iff_forall_ne_some.2 ?_
  rintro ⟨t, rest⟩ hfront
  have hquoted := literal_quoted s []
  rw [List.append_nil, h, literal_append hfront back] at hquoted
  obtain ⟨-, hrest⟩ := Prod.mk.inj (Option.some.inj hquoted)
  exact hback (List.append_eq_nil_iff.1 hrest).2

/-! ## what is quoted shows -/

theorem isPrintable_of_mem_quotedChar {c : Char} :
    ∀ d ∈ quotedChar c, isPrintable d = true := by
  unfold quotedChar
  split
  case h_7 =>
    split
    · rw [codePoint_eq]
      have hdigits : ∀ d ∈ Hex.digits c.toNat, isPrintable d = true :=
        Hex.forall_mem_digits (by decide) c.toNat
      simp only [List.forall_mem_cons, List.forall_mem_append]
      exact ⟨by decide, by decide, by decide, hdigits, by decide, nofun⟩
    · next hshows =>
      simp only [Bool.or_eq_true, not_or] at hshows
      simpa using hshows.2
  all_goals
    simp only [List.forall_mem_cons]
    exact ⟨by decide, by decide, nofun⟩

theorem isPrintable_of_mem_quoted (s : String) :
    ∀ d ∈ (quoted s).toList, isPrintable d = true ∧ d ≠ '\n' ∧ d ≠ '\r' := by
  have hshows : ∀ d ∈ (quoted s).toList, isPrintable d = true := by
    have hmark : isPrintable '"' = true := by decide
    unfold quoted
    rw [String.toList_ofList]
    simp only [List.forall_mem_append, List.forall_mem_cons, List.forall_mem_flatMap]
    exact ⟨⟨hmark, fun c _ => isPrintable_of_mem_quotedChar⟩, hmark, nofun⟩
  intro d hd
  refine ⟨hshows d hd, ?_, ?_⟩
  · rintro rfl
    exact absurd (hshows _ hd) (by decide)
  · rintro rfl
    exact absurd (hshows _ hd) (by decide)

end Text

end ServiceBoundary
