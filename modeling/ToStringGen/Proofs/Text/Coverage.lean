import Mathlib.Data.List.Chain
import ToStringGen.Proofs.Text.Category
import ToStringGen.Text.Alphabetic
import ToStringGen.Text.Numeric

/-!
# The categories of a property

`Alphabetic` and the numeric property are derived across general categories. Since their
tables and that of the categories are ascending, one walk along both tells which categories
the characters of a property have, without a look at every character.
-/

namespace ToStringGen.Text.Category

/-- One stretch lies before another. -/
def Before (stretch other : Nat × Nat × Category) : Prop :=
  stretch.1 ≤ stretch.2.1 ∧ stretch.2.1 < other.1

instance (stretch other : Nat × Nat × Category) : Decidable (Before stretch other) :=
  inferInstanceAs (Decidable (_ ∧ _))

instance : IsTrans (Nat × Nat × Category) Before where
  trans _ _ _ h h' := ⟨h.1, by have := h.2; have := h'.1; have := h'.2; omega⟩

/-- The stretches of the table are in ascending order and do not overlap. -/
theorem table_pairwise : table.Pairwise Before :=
  List.isChain_iff_pairwise.mp (by decide +kernel)

/-- In an ascending table, the stretch found for a code point is the one that holds it. -/
theorem find?_spans {stretches : List (Nat × Nat × Category)} (h : stretches.Pairwise Before)
    {stretch : Nat × Nat × Category} (hmem : stretch ∈ stretches) {code : Nat}
    (hcode : spans code stretch = true) : stretches.find? (spans code) = some stretch := by
  induction stretches with
  | nil => cases hmem
  | cons first rest ih =>
    obtain ⟨hfirst, hrest⟩ := List.pairwise_cons.mp h
    rcases List.mem_cons.mp hmem with rfl | hmem
    · exact List.find?_cons_of_pos hcode
    · have hbefore : first.2.1 < stretch.1 := (hfirst stretch hmem).2
      have hnot : ¬spans code first = true := by
        simp only [spans, Bool.and_eq_true, decide_eq_true_eq] at hcode ⊢
        omega
      rw [List.find?_cons_of_neg hnot]
      exact ih hrest hmem

/-- What is left of ascending ranges when their beginning is cut off as far as it goes from one
code point to another. -/
def trim (first last : Nat) : List (Nat × Nat) → List (Nat × Nat)
  | [] => []
  | range :: ranges =>
    if range.1 < first ∨ last < range.1 then range :: ranges
    else if range.2 ≤ last then trim first last ranges
    else (last + 1, range.2) :: ranges

/-- Whether a walk along the table, stretch after stretch, comes to the end of the ranges by
cutting off the stretches of some categories only. -/
def covers (categories : List Category) :
    List (Nat × Nat × Category) → List (Nat × Nat) → Bool
  | _, [] => true
  | [], _ :: _ => false
  | stretch :: stretches, range :: ranges =>
    if stretch.2.2 ∈ categories then
      covers categories stretches (trim stretch.1 stretch.2.1 (range :: ranges))
    else covers categories stretches (range :: ranges)

/-- What is cut off lies between the two code points. -/
theorem exists_mem_trim {first last code : Nat} {ranges : List (Nat × Nat)}
    (h : ∃ range ∈ ranges, range.1 ≤ code ∧ code ≤ range.2) :
    (first ≤ code ∧ code ≤ last) ∨
      ∃ range ∈ trim first last ranges, range.1 ≤ code ∧ code ≤ range.2 := by
  induction ranges with
  | nil => simp at h
  | cons range ranges ih =>
    rw [trim]
    split
    · exact .inr h
    · next hcut =>
      simp only [not_or, Nat.not_lt] at hcut
      rw [List.exists_mem_cons_iff] at h
      split
      · rcases h with h | h
        · exact .inl (by omega)
        · exact ih h
      · rw [List.exists_mem_cons_iff]
        rcases h with h | h
        · by_cases hlast : code ≤ last
          · exact .inl (by omega)
          · exact .inr (.inl (by simp only; omega))
        · exact .inr (.inr h)

/-- A walk that comes to the end has met, for every code point in the ranges, a stretch of one
of the categories that holds it. -/
theorem exists_stretch_of_covers {categories : List Category}
    {stretches : List (Nat × Nat × Category)} {ranges : List (Nat × Nat)}
    (h : covers categories stretches ranges = true) {code : Nat}
    (hcode : ∃ range ∈ ranges, range.1 ≤ code ∧ code ≤ range.2) :
    ∃ stretch ∈ stretches, spans code stretch = true ∧ stretch.2.2 ∈ categories := by
  induction stretches generalizing ranges with
  | nil =>
    cases ranges with
    | nil => simp at hcode
    | cons range ranges => simp [covers] at h
  | cons stretch stretches ih =>
    cases ranges with
    | nil => simp at hcode
    | cons range ranges =>
      rw [covers] at h
      split at h
      · next hcategory =>
        rcases exists_mem_trim hcode with hspan | hrest
        · exact ⟨stretch, List.mem_cons_self, by simpa [spans] using hspan, hcategory⟩
        · obtain ⟨other, hmem, hother⟩ := ih h hrest
          exact ⟨other, List.mem_cons_of_mem _ hmem, hother⟩
      · obtain ⟨other, hmem, hother⟩ := ih h hcode
        exact ⟨other, List.mem_cons_of_mem _ hmem, hother⟩

/-- The characters of a set have one of the categories with which the table covers the set. -/
theorem of?_mem_of_covers {set : CharSet} {categories : List Category}
    (h : covers categories table set.ranges = true) {c : Char} (hc : set.contains c = true) :
    ∃ category ∈ categories, of? c = some category := by
  obtain ⟨stretch, hmem, hspan, hcategory⟩ :=
    exists_stretch_of_covers h (CharSet.contains_iff.mp hc)
  exact ⟨stretch.2.2, hcategory, by rw [of?, find?_spans table_pairwise hmem hspan]; rfl⟩

/-- An alphabetic character is a letter, a letter number, a combining mark or a symbol. -/
theorem of?_of_alphabetic {c : Char} (hc : alphabetic.contains c = true) :
    ∃ category ∈ [letter, letterNumber, combiningMark, otherSymbol], of? c = some category :=
  of?_mem_of_covers (by decide +kernel) hc

/-- A numeric character is a number of one of the three kinds. -/
theorem of?_of_numeric {c : Char} (hc : numeric.contains c = true) :
    ∃ category ∈ [decimalNumber, letterNumber, otherNumber], of? c = some category :=
  of?_mem_of_covers (by decide +kernel) hc

end ToStringGen.Text.Category
