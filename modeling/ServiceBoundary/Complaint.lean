import ServiceBoundary.Text.Blank

/-!
# Complaints

What the user is told about an error: the first message, and below it what led to it, numbered if it
is more than one message.

* `Complaint.hang`   a text whose lines but the first start with blanks;
* `Complaint.text`   the text of messages;
* `Complaint.shows`  each message stands in it, blanks apart.
-/

namespace ServiceBoundary.Complaint

open Text (ink ink_append isBlank)

/-- a text whose lines but the first start with blanks -/
def hang (width : Nat) (text : String) : String :=
  String.ofList (text.toList.flatMap fun c =>
    if c = '\n' then '\n' :: List.replicate width ' ' else [c])

def numberWidth : Nat := 5

def numbered (text : String) (n : Nat) : String :=
  let number := toString n
  String.ofList (List.replicate (numberWidth - number.length) ' ') ++ number ++ ": "
    ++ hang (numberWidth + 2) text

/-- messages, each of which led to the one before it -/
def text : (messages : List String) → String
  | [] => ""
  | [message] => "Error: " ++ message ++ "\n"
  | [message, cause] => "Error: " ++ message ++ "\n\nCaused by:\n    " ++ hang 4 cause ++ "\n"
  | message :: causes =>
    "Error: " ++ message ++ "\n\nCaused by:\n"
      ++ "\n".intercalate (causes.zipIdx.map fun c => numbered c.1 c.2) ++ "\n"

/-! ## what is shown -/

theorem ink_hang (width : Nat) (s : String) : ink (hang width s) = ink s := by
  have hblanks : (List.replicate width ' ').filter (fun c => !isBlank c) = [] := by
    rw [List.filter_eq_nil_iff]
    intro c hc
    rw [List.eq_of_mem_replicate hc]
    decide
  rw [ink, ink, hang, String.toList_ofList]
  induction s.toList with
  | nil => rfl
  | cons c cs ih =>
    rw [List.flatMap_cons, List.filter_append, ih]
    split
    · next h =>
      rw [h, List.filter_cons_of_neg (by decide), List.filter_cons_of_neg (by decide), hblanks,
        List.nil_append]
    · rw [← List.filter_append, List.singleton_append]

theorem ink_infix_numbered (s : String) (n : Nat) : ink s <:+: ink (numbered s n) := by
  rw [numbered, ink_append, ink_hang]
  exact (List.suffix_append _ _).isInfix

theorem ink_infix_intercalate (sep : String) {s : String} {l : List String} (h : s ∈ l) :
    ink s <:+: ink (sep.intercalate l) := by
  induction l with
  | nil => cases h
  | cons t ts ih =>
    cases ts with
    | nil =>
      have hone : sep.intercalate [t] = s := by
        rw [String.intercalate_singleton, List.mem_singleton.1 h]
      exact ⟨[], [], by rw [List.nil_append, List.append_nil, hone]⟩
    | cons u us =>
      rw [String.intercalate_cons_cons, ink_append, ink_append]
      obtain rfl | h := List.mem_cons.1 h
      · exact List.append_assoc .. ▸ (List.prefix_append _ _).isInfix
      · exact (ih h).trans (List.suffix_append _ _).isInfix

/-- **No message gets lost.** -/
theorem shows {messages : List String} {message : String} (h : message ∈ messages) :
    ink message <:+: ink (text messages) := by
  unfold text
  split
  · cases h
  · rw [List.mem_singleton.1 h, ink_append, ink_append]
    exact List.infix_append _ _ _
  · next first cause =>
    simp only [ink_append, ink_hang]
    obtain rfl | h := List.mem_cons.1 h
    · simp only [List.append_assoc]
      exact List.infix_append' _ _ _
    · rw [List.mem_singleton.1 h]
      exact List.infix_append _ _ _
  · next first causes _ _ =>
    simp only [ink_append]
    obtain rfl | h := List.mem_cons.1 h
    · simp only [List.append_assoc]
      exact List.infix_append' _ _ _
    · obtain ⟨n, hn⟩ := List.mem_iff_getElem?.1 h
      have hmem : numbered message n ∈ causes.zipIdx.map fun c => numbered c.1 c.2 :=
        List.mem_map.2 ⟨(message, n), List.mk_mem_zipIdx_iff_getElem?.2 hn, rfl⟩
      refine (ink_infix_numbered message n).trans ((ink_infix_intercalate "\n" hmem).trans ?_)
      exact List.infix_append _ _ _

end ServiceBoundary.Complaint
