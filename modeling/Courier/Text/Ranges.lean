/-!
# Classes of characters

A class of characters is a list of ranges of code points. Every table of
the library that answers "is this character a …" is one of these, so one
membership test serves them all.
-/

namespace Courier.Text

/-- A class of characters: inclusive ranges of code points, in rising order. -/
abbrev Ranges := List (Nat × Nat)

/-- The character's code point lies in one of the ranges. -/
def Ranges.contains (ranges : Ranges) (c : Char) : Bool :=
  ranges.any fun range => range.1 ≤ c.toNat && c.toNat ≤ range.2

theorem Ranges.contains_iff {ranges : Ranges} {c : Char} :
    ranges.contains c = true ↔ ∃ range ∈ ranges, range.1 ≤ c.toNat ∧ c.toNat ≤ range.2 := by
  simp [Ranges.contains]

end Courier.Text
