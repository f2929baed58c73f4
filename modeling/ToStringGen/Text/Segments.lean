/-!
# Texts cut at a separator

Qualified names are cut at dots and paths at slashes. `segments` cuts at every
separator, `lastCut?` at the last one only; both keep every other character in
its place, so that the text can be put together again.
-/

namespace ToStringGen.Text

/-- The maximal runs between separators, empty ones included; never an empty list. -/
def segments (separator : Char) : List Char → List (List Char)
  | [] => [[]]
  | c :: rest =>
      if c = separator then [] :: segments separator rest
      else
        match segments separator rest with
        | [] => [[c]]
        | segment :: more => (c :: segment) :: more

/-- What stands before and after the last separator. -/
def lastCut? (separator : Char) : List Char → Option (List Char × List Char)
  | [] => none
  | c :: rest =>
      match lastCut? separator rest with
      | some (before, after) => some (c :: before, after)
      | none => if c = separator then some ([], rest) else none

/-- Cutting yields at least one segment. -/
theorem segments_ne_nil (separator : Char) (text : List Char) : segments separator text ≠ [] := by
  cases text with
  | nil => simp [segments]
  | cons c rest =>
    rw [segments]
    split
    · simp
    · split <;> simp

/-- Putting the separators back gives the text. -/
theorem intercalate_segments (separator : Char) (text : List Char) :
    List.intercalate [separator] (segments separator text) = text := by
  induction text with
  | nil => rfl
  | cons c rest ih =>
    cases hcut : segments separator rest with
    | nil => exact absurd hcut (segments_ne_nil separator rest)
    | cons segment more =>
      rw [hcut] at ih
      by_cases hc : c = separator
      · rw [segments, if_pos hc, hcut, ← ih, hc]
        rfl
      · rw [segments, if_neg hc, hcut, ← ih]
        cases more <;> rfl

/-- No segment holds a separator. -/
theorem not_mem_of_mem_segments {separator : Char} {text segment : List Char}
    (hmem : segment ∈ segments separator text) : separator ∉ segment := by
  induction text generalizing segment with
  | nil => simp_all [segments]
  | cons c rest ih =>
    rw [segments] at hmem
    split at hmem
    · rcases List.mem_cons.1 hmem with rfl | hmem
      · simp
      · exact ih hmem
    · next hc =>
      split at hmem
      · simp_all [Ne.symm hc]
      · next first more hcut =>
        rcases List.mem_cons.1 hmem with rfl | hmem
        · have hfirst : separator ∉ first := ih (by simp [hcut])
          simp [hfirst, Ne.symm hc]
        · exact ih (by simp [hcut, hmem])

/-- A text without separators has no last cut, and conversely. -/
theorem lastCut?_eq_none_iff {separator : Char} {text : List Char} :
    lastCut? separator text = none ↔ separator ∉ text := by
  induction text with
  | nil => simp [lastCut?]
  | cons c rest ih =>
    rw [lastCut?]
    cases hrest : lastCut? separator rest with
    | some cut =>
      have hmem : separator ∈ rest := by
        by_cases h : separator ∈ rest
        · exact h
        · simp [ih.2 h] at hrest
      simp [hmem]
    | none =>
      have hmem := ih.1 hrest
      by_cases hc : c = separator
      · simp [hc]
      · simp [hc, hmem, Ne.symm hc]

/-- The last cut loses nothing but the separator, and no separator follows it. -/
theorem eq_of_lastCut? {separator : Char} {text before after : List Char}
    (hcut : lastCut? separator text = some (before, after)) :
    text = before ++ separator :: after ∧ separator ∉ after := by
  induction text generalizing before after with
  | nil => simp [lastCut?] at hcut
  | cons c rest ih =>
    rw [lastCut?] at hcut
    cases hrest : lastCut? separator rest with
    | some cut =>
      obtain ⟨before', after'⟩ := cut
      simp only [hrest, Option.some.injEq, Prod.mk.injEq] at hcut
      obtain ⟨rfl, rfl⟩ := hcut
      obtain ⟨heq, hafter⟩ := ih hrest
      exact ⟨by rw [heq]; rfl, hafter⟩
    | none =>
      simp only [hrest] at hcut
      split at hcut
      · next hc =>
        simp only [Option.some.injEq, Prod.mk.injEq] at hcut
        obtain ⟨rfl, rfl⟩ := hcut
        exact ⟨by simp [hc], lastCut?_eq_none_iff.1 hrest⟩
      · simp at hcut

end ToStringGen.Text
