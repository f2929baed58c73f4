/-!
# Sets of characters

A set of characters is a list of inclusive ranges of code points, in ascending
order. The character properties of the Unicode standard are tables of this form.
-/

namespace ToStringGen.Text

/-- A set of characters, given by inclusive ranges of code points. -/
structure CharSet where
  /-- The ranges, in ascending order. -/
  ranges : List (Nat × Nat)
  deriving Inhabited

namespace CharSet

/-- Membership of a code point in one of the ranges. -/
def holds (set : CharSet) (code : Nat) : Bool :=
  set.ranges.any fun range => range.1 ≤ code && code ≤ range.2

/-- Membership of a character. -/
def contains (set : CharSet) (c : Char) : Bool :=
  set.holds c.toNat

/-- A code point belongs to a set exactly when some range of the set spans it. -/
theorem holds_iff {set : CharSet} {code : Nat} :
    set.holds code = true ↔ ∃ range ∈ set.ranges, range.1 ≤ code ∧ code ≤ range.2 := by
  simp [holds]

/-- A character belongs to a set exactly when its code point does. -/
theorem contains_iff {set : CharSet} {c : Char} :
    set.contains c = true ↔ ∃ range ∈ set.ranges, range.1 ≤ c.toNat ∧ c.toNat ≤ range.2 :=
  holds_iff

end CharSet

end ToStringGen.Text
