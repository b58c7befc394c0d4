/-!
# Blanks

The characters with the Unicode property `White_Space`, and texts without them at both ends.
-/

namespace ServiceBoundary.Text

/-- the code points of blanks as closed ranges, in ascending order -/
def blanks : List (Nat × Nat) :=
  [(0x9, 0xd), (0x20, 0x20), (0x85, 0x85), (0xa0, 0xa0), (0x1680, 0x1680), (0x2000, 0x200a),
    (0x2028, 0x2029), (0x202f, 0x202f), (0x205f, 0x205f), (0x3000, 0x3000)]

def isBlank (c : Char) : Bool := blanks.any fun r => r.1 ≤ c.toNat && c.toNat ≤ r.2

/-- the list without what satisfies `p` at its end -/
def dropTrailing {α : Type} (p : α → Bool) (l : List α) : List α := (l.reverse.dropWhile p).reverse

/-- the characters of a text but for the blanks -/
def ink (s : String) : List Char := s.toList.filter fun c => !isBlank c

@[simp]
theorem ink_append (s t : String) : ink (s ++ t) = ink s ++ ink t := by
  rw [ink, ink, ink, String.toList_append, List.filter_append]

/-- the text without blanks at both ends -/
def trim (s : String) : String := String.ofList (dropTrailing isBlank (s.toList.dropWhile isBlank))

end ServiceBoundary.Text
