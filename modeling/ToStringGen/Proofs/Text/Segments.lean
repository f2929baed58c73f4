import Mathlib.Data.List.Basic
import ToStringGen.Text.Segments

/-!
# Cutting and joining

Cutting a text at a separator is the library's `List.splitOn`, so that the cuts
of a joined text are known. The last cut is the one before the last segment; this
connects the two ways in which a qualified name is taken apart.
-/

namespace ToStringGen.Text

/-- Cutting at a separator is splitting at it. All further facts about segments rest on
the library's lemmas through this equation. -/
theorem segments_eq_splitOn (separator : Char) (text : List Char) :
    segments separator text = text.splitOn separator := by
  induction text with
  | nil => rfl
  | cons c rest ih =>
    rw [segments, List.splitOn_cons_eq_if_modifyHead, ih]
    by_cases hc : c = separator
    · simp [hc]
    · rw [if_neg hc, if_neg (by simpa using hc)]
      obtain ⟨segment, more, hcut⟩ :=
        List.exists_cons_of_ne_nil (List.splitOn_ne_nil separator rest)
      rw [hcut]
      rfl

/-- A text without separators is a single segment. -/
theorem segments_of_not_mem {separator : Char} {text : List Char} (h : separator ∉ text) :
    segments separator text = [text] := by
  rw [segments_eq_splitOn, List.splitOn_eq_singleton h]

/-- A separator cuts the segments before it from those after it. -/
theorem segments_append_cons (separator : Char) (before after : List Char) :
    segments separator (before ++ separator :: after) =
      segments separator before ++ segments separator after := by
  simp only [segments_eq_splitOn, List.splitOn_append_cons_self]

/-- Parts without separators are what their joined text is cut into. -/
theorem segments_intercalate {separator : Char} {parts : List (List Char)}
    (hparts : ∀ part ∈ parts, separator ∉ part) (hne : parts ≠ []) :
    segments separator (List.intercalate [separator] parts) = parts := by
  rw [segments_eq_splitOn, List.splitOn_intercalate separator hparts hne]

/-- Whatever a joined list holds comes from a part or from the separator. -/
theorem mem_intercalate {α : Type} {separator : List α} {parts : List (List α)} {a : α}
    (h : a ∈ List.intercalate separator parts) : a ∈ separator ∨ ∃ part ∈ parts, a ∈ part := by
  induction parts with
  | nil => simp at h
  | cons part parts ih =>
    cases parts with
    | nil => exact Or.inr ⟨part, by simp, by simpa using h⟩
    | cons next parts =>
      rw [List.intercalate_cons_cons, List.mem_append, List.mem_append] at h
      rcases h with (h | h) | h
      · exact Or.inr ⟨part, by simp, h⟩
      · exact Or.inl h
      · rcases ih h with h | ⟨other, hother, h⟩
        · exact Or.inl h
        · exact Or.inr ⟨other, by simp [hother], h⟩

/-- The last cut separates the last segment from the segments before it. -/
theorem segments_of_lastCut? {separator : Char} {text before after : List Char}
    (hcut : lastCut? separator text = some (before, after)) :
    segments separator text = segments separator before ++ [after] := by
  obtain ⟨rfl, hafter⟩ := eq_of_lastCut? hcut
  rw [segments_append_cons, segments_of_not_mem hafter]

/-- Lines that all end with a separator are what their joined text is cut into, and nothing is
left after the last of them. -/
theorem segments_flatMap_concat {separator : Char} {lines : List (List Char)}
    (h : ∀ line ∈ lines, separator ∉ line) :
    segments separator (lines.flatMap fun line => line ++ [separator]) = lines ++ [[]] := by
  induction lines with
  | nil => rfl
  | cons line lines ih =>
    have hline := segments_of_not_mem (h line (List.mem_cons_self ..))
    have hlines := ih fun other hmem => h other (List.mem_cons_of_mem _ hmem)
    rw [List.flatMap_cons, List.append_assoc, List.singleton_append, segments_append_cons,
      hline, hlines]
    rfl

end ToStringGen.Text
