import ToStringGen.Proofs.Disk.Locate

/-!
# The directories above a file

The directories above a path are found under paths put together from its first
components. Such a path is no longer than the path itself and starts at the same
place, and it asks for the same names to be followed, up to dots.
-/

namespace ToStringGen

namespace Text

/-- A joined list of parts contains the joined list of some of them. -/
theorem intercalate_sublist {α : Type} {separator : List α} {fewer parts : List (List α)}
    (h : fewer.Sublist parts) :
    (List.intercalate separator fewer).Sublist (List.intercalate separator parts) := by
  induction h with
  | slnil => exact .refl _
  | @cons fewer parts part hsub ih =>
    refine ih.trans ?_
    cases parts with
    | nil => simp
    | cons next parts =>
      rw [List.intercalate_cons_cons]
      exact List.sublist_append_right ..
  | @cons_cons fewer parts part hsub ih =>
    cases fewer with
    | nil =>
      cases parts with
      | nil => exact .refl _
      | cons next parts =>
        rw [List.intercalate_cons_cons, List.intercalate_singleton, List.append_assoc]
        exact List.sublist_append_left ..
    | cons first fewer =>
      obtain ⟨next, more, rfl⟩ := List.exists_cons_of_ne_nil (l := parts) fun heq => by
        rw [heq] at hsub
        exact absurd (List.sublist_nil.mp hsub) (List.cons_ne_nil _ _)
      rw [List.intercalate_cons_cons, List.intercalate_cons_cons]
      exact (List.Sublist.refl _).append ih

/-- A character adds its size to the size of a text. -/
theorem utf8ByteSize_ofList_cons (c : Char) (chars : List Char) :
    (String.ofList (c :: chars)).utf8ByteSize =
      c.utf8Size + (String.ofList chars).utf8ByteSize := by
  have hcons : String.ofList (c :: chars) = String.singleton c ++ String.ofList chars :=
    String.toList_inj.mp (by simp)
  rw [hcons, String.utf8ByteSize_append, String.utf8ByteSize_singleton]

/-- A text with some of the characters of another is no longer than it. -/
theorem utf8ByteSize_le_of_sublist {text other : String} (h : text.toList.Sublist other.toList) :
    text.utf8ByteSize ≤ other.utf8ByteSize := by
  rw [← String.ofList_toList (s := text), ← String.ofList_toList (s := other)]
  generalize text.toList = chars at h
  generalize other.toList = others at h
  induction h with
  | slnil => exact Nat.le_refl _
  | cons c _ ih =>
    rw [utf8ByteSize_ofList_cons]
    omega
  | cons_cons c _ ih =>
    rw [utf8ByteSize_ofList_cons, utf8ByteSize_ofList_cons]
    omega

end Text

namespace Path

variable {path : Path} {front : List Component}

/-- A path is absolute when its first component is the root. -/
theorem isAbsolute_iff (path : Path) :
    path.isAbsolute = true ↔ path.components.head? = some .root := by
  rw [isAbsolute_eq_true_iff, components_eq]
  cases hparts : path.parts with
  | nil => exact absurd hparts (Text.segments_ne_nil '/' _)
  | cons part rest =>
    have hroot : ∀ leading part, component? leading part ≠ some .root := by
      intro leading part
      unfold component?
      split <;> simp
    have hrest : (rest.filterMap (component? false)).head? ≠ some .root := by
      intro hhead
      obtain ⟨other, _, heq⟩ := List.mem_filterMap.mp (List.mem_of_mem_head? hhead)
      exact hroot false other heq
    rw [componentsOf]
    by_cases h : part = [] ∧ rest ≠ []
    · obtain ⟨rfl, hne⟩ := h
      obtain ⟨next, more, rfl⟩ := List.exists_cons_of_ne_nil hne
      simp
    · rw [if_neg h]
      refine iff_of_false ?_ ?_
      · rintro ⟨next, more, heq⟩
        obtain ⟨rfl, rfl⟩ := List.cons.inj heq
        exact h ⟨rfl, List.cons_ne_nil _ _⟩
      · cases hfirst : component? true part with
        | none => simpa using hrest
        | some component =>
          rw [Option.toList_some, List.singleton_append, List.head?_cons]
          intro heq
          rw [heq] at hfirst
          exact hroot true part hfirst

/-- The texts of the components are some of the parts. -/
theorem map_text_components_sublist (path : Path) :
    (path.components.map fun component => component.text.toList).Sublist path.parts := by
  have hrest : ∀ rest : List (List Char),
      ((rest.filterMap (component? false)).map fun component => component.text.toList).Sublist
        rest := by
    intro rest
    induction rest with
    | nil => exact .refl _
    | cons part rest ih =>
      cases hpart : component? false part with
      | none =>
        rw [List.filterMap_cons_none hpart]
        exact ih.cons part
      | some component =>
        rw [List.filterMap_cons_some hpart, List.map_cons, toList_text_of_component? hpart]
        exact ih.cons_cons part
  rw [components_eq]
  cases hparts : path.parts with
  | nil => exact .refl _
  | cons part rest =>
    rw [componentsOf]
    by_cases h : part = [] ∧ rest ≠ []
    · rw [if_pos h, h.1]
      exact (hrest rest).cons_cons []
    · rw [if_neg h]
      cases hpart : component? true part with
      | none => exact (hrest rest).cons part
      | some component =>
        rw [Option.toList_some, List.singleton_append, List.map_cons,
          toList_text_of_component? hpart]
        exact (hrest rest).cons_cons part

/-- The path of some directory above a path has some of its characters. -/
theorem toList_ofComponents_sublist (hfront : front <+: path.components) :
    (ofComponents front).text.toList.Sublist path.text.toList := by
  by_cases hroot : front = [.root]
  · subst hroot
    obtain ⟨rest, hrest⟩ := hfront
    have habsolute := (isAbsolute_iff path).mpr (by rw [← hrest]; rfl)
    rw [isAbsolute, beq_iff_eq] at habsolute
    obtain ⟨more, htext⟩ := List.head?_eq_some_iff.mp habsolute
    rw [htext]
    exact List.Sublist.cons_cons '/' (List.nil_sublist more)
  · have htext : (ofComponents front).text =
        String.intercalate "/" (front.map Component.text) := by
      unfold ofComponents
      split
      · next heq => exact absurd rfl hroot
      · rfl
    have hparts : path.text.toList = List.intercalate ['/'] path.parts :=
      (Text.intercalate_segments '/' path.text.toList).symm
    rw [htext, String.toList_intercalate, hparts, List.map_map]
    exact Text.intercalate_sublist
      ((hfront.sublist.map _).trans (map_text_components_sublist path))

/-- A path above an admissible one is admissible. -/
theorem IsAdmissible.ofComponents (h : path.IsAdmissible) (hfront : front <+: path.components)
    (hne : front ≠ []) : (ofComponents front).IsAdmissible where
  no_nul := fun hmem => h.no_nul ((toList_ofComponents_sublist hfront).subset hmem)
  ne_empty := by
    intro heq
    have hcomponents :=
      components_ofComponents ((isCanonical_components path).of_front hfront)
    have hempty : Path.ofComponents front = ⟨""⟩ := by
      cases hpath : Path.ofComponents front with
      | mk text =>
        rw [hpath] at heq
        rw [show text = "" from heq]
    rw [hempty] at hcomponents
    exact hne hcomponents.symm
  size_lt := Nat.lt_of_le_of_lt
    (Text.utf8ByteSize_le_of_sublist (toList_ofComponents_sublist hfront)) h.size_lt

end Path

end ToStringGen
