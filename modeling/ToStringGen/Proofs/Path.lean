import Mathlib.Data.List.Basic
import ToStringGen.Path
import ToStringGen.Proofs.Text.Segments

/-!
# Components of paths

A path is taken apart at its slashes. Appending names to a path appends them to its
components, whatever the path looks like, and components put together again with
single slashes are the components of the path that they make.
-/

namespace ToStringGen.Path

/-- A part between slashes that names something: it is neither empty nor one of the two parts
made of dots. -/
structure IsName (text : String) : Prop where
  ne_empty : text ≠ ""
  no_slash : '/' ∉ text.toList
  ne_here : text ≠ "."
  ne_up : text ≠ ".."

/-- A name stands for itself, wherever it is. -/
theorem component?_of_isName {text : String} (h : IsName text) (leading : Bool) :
    component? leading text.toList = some (.name text) := by
  have hnil : text.toList ≠ [] := fun heq => h.ne_empty (String.toList_eq_nil_iff.mp heq)
  have hhere : text.toList ≠ ['.'] := fun heq => h.ne_here (String.toList_inj.mp heq)
  have hup : text.toList ≠ ['.', '.'] := fun heq => h.ne_up (String.toList_inj.mp heq)
  unfold component?
  split
  · next heq => exact absurd heq hnil
  · next heq => exact absurd heq hhere
  · next heq => exact absurd heq hup
  · rw [String.ofList_toList]

/-- The parts of a path between its slashes. -/
def parts (path : Path) : List (List Char) :=
  Text.segments '/' path.text.toList

/-- The components that parts between slashes stand for. An empty part in front of others is the
root. -/
def componentsOf : List (List Char) → List Component
  | [] => []
  | part :: rest =>
      (if part = [] ∧ rest ≠ [] then [.root] else (component? true part).toList) ++
        rest.filterMap (component? false)

/-- A path is absolute when an empty part stands in front of others. -/
theorem isAbsolute_eq_true_iff {path : Path} :
    path.isAbsolute = true ↔ ∃ part rest, path.parts = [] :: part :: rest := by
  unfold isAbsolute parts
  cases htext : path.text.toList with
  | nil => simp [Text.segments]
  | cons c rest =>
    by_cases hc : c = '/'
    · obtain ⟨part, more, hcut⟩ := List.exists_cons_of_ne_nil (Text.segments_ne_nil '/' rest)
      simp [Text.segments, hc, hcut]
    · rw [Text.segments, if_neg hc]
      split <;> simp [hc]

/-- The components of a path are those of its parts. -/
theorem components_eq (path : Path) : path.components = componentsOf path.parts := by
  have habsolute := @isAbsolute_eq_true_iff path
  unfold components
  unfold parts at *
  cases hparts : Text.segments '/' path.text.toList with
  | nil => rfl
  | cons part rest =>
    rw [hparts] at habsolute
    by_cases h : path.isAbsolute = true
    · obtain ⟨next, more, heq⟩ := habsolute.mp h
      obtain ⟨rfl, rfl⟩ := List.cons.inj heq
      simp [h, componentsOf]
    · have hnot : ¬(part = [] ∧ rest ≠ []) := by
        rintro ⟨rfl, hrest⟩
        obtain ⟨next, more, rfl⟩ := List.exists_cons_of_ne_nil hrest
        exact h (habsolute.mpr ⟨next, more, rfl⟩)
      simp [h, componentsOf, hnot]

/-- The parts that stand before those of a part that is appended. -/
def front (path : Path) : List (List Char) :=
  if path.text.toList.getLast? = none ∨ path.text.toList.getLast? = some '/' then
    path.parts.dropLast
  else path.parts

/-- Appending a relative part appends its parts. -/
theorem parts_push (path : Path) {part : String} (h : part.toList.head? ≠ some '/') :
    (path.push part).parts = path.front ++ Text.segments '/' part.toList := by
  unfold push front parts
  rw [if_neg h]
  cases hlast : path.text.toList.getLast? with
  | none =>
    have hnil : path.text.toList = [] := List.getLast?_eq_none_iff.mp hlast
    simp [hnil, Text.segments]
  | some c =>
    by_cases hc : c = '/'
    · obtain ⟨before, hbefore⟩ := List.getLast?_eq_some_iff.mp hlast
      subst hc
      simp [hbefore, Text.segments_append_cons, Text.segments]
    · simp [hc, Text.segments_append_cons]

/-- Names are their own components. -/
theorem filterMap_component?_names {names : List String} (h : ∀ name ∈ names, IsName name) :
    (names.map String.toList).filterMap (component? false) = names.map .name := by
  induction names with
  | nil => rfl
  | cons name names ih =>
    rw [List.map_cons, List.filterMap_cons_some
      (component?_of_isName (h name (List.mem_cons_self ..)) false),
      ih fun other hmem => h other (List.mem_cons_of_mem _ hmem), List.map_cons]

/-- Names after the parts of a path are components after those of the path. -/
theorem componentsOf_front_append (path : Path) {names : List String}
    (h : ∀ name ∈ names, IsName name) (hne : names ≠ []) :
    componentsOf (path.front ++ names.map String.toList) =
      path.components ++ names.map .name := by
  have hnames := filterMap_component?_names h
  rw [components_eq]
  unfold front
  obtain ⟨part, rest, hparts⟩ := List.exists_cons_of_ne_nil
    (Text.segments_ne_nil '/' path.text.toList)
  change path.parts = part :: rest at hparts
  split
  · next hend =>
    rcases hend with hend | hend
    · -- The empty path has one part, and the first name is not an empty one.
      have hempty : path.parts = [[]] := by
        rw [parts, List.getLast?_eq_none_iff.mp hend]
        rfl
      obtain ⟨name, more, rfl⟩ := List.exists_cons_of_ne_nil hne
      have hname := h name (List.mem_cons_self ..)
      have hfirst : name.toList ≠ [] :=
        fun heq => hname.ne_empty (String.toList_eq_nil_iff.mp heq)
      have hrest := filterMap_component?_names
        fun other hmem => h other (List.mem_cons_of_mem _ hmem)
      have hnone : component? true [] = none := rfl
      rw [hempty]
      simp [componentsOf, hfirst, component?_of_isName hname, hnone, hrest]
    · -- The empty part after a slash at the end gives way to the names.
      obtain ⟨before, hbefore⟩ := List.getLast?_eq_some_iff.mp hend
      obtain ⟨first, more, hfirst⟩ := List.exists_cons_of_ne_nil
        (Text.segments_ne_nil '/' before)
      have hcut : path.parts = first :: (more ++ [[]]) := by
        rw [parts, hbefore, Text.segments_append_cons, hfirst]
        rfl
      have hdrop : path.parts.dropLast = first :: more := by
        rw [hcut, ← List.cons_append, List.dropLast_concat]
      rw [hdrop, hcut]
      simp [componentsOf, hne, hnames, component?]
  · next hend =>
    -- A single part of a path that does not end with a slash is not empty.
    have hsingle : rest = [] → part ≠ [] := by
      rintro rfl rfl
      have hjoin := Text.intercalate_segments '/' path.text.toList
      change List.intercalate ['/'] path.parts = _ at hjoin
      rw [hparts, List.intercalate_singleton] at hjoin
      exact hend (Or.inl (by rw [← hjoin]; rfl))
    rw [hparts]
    by_cases hpart : part = []
    · have hrest : rest ≠ [] := fun heq => hsingle heq hpart
      simp [componentsOf, hpart, hrest, hnames]
    · simp [componentsOf, hpart, hnames]

/-- The parts of names joined by slashes are the names. -/
theorem segments_intercalate_names {names : List String} (h : ∀ name ∈ names, IsName name)
    (hne : names ≠ []) :
    Text.segments '/' (String.intercalate "/" names).toList = names.map String.toList := by
  rw [String.toList_intercalate]
  refine Text.segments_intercalate ?_ (by simpa using hne)
  intro part hpart
  obtain ⟨name, hmem, rfl⟩ := List.mem_map.mp hpart
  exact (h name hmem).no_slash

/-- Names joined by slashes make a relative path. -/
theorem head?_intercalate_names {names : List String} (h : ∀ name ∈ names, IsName name)
    (hne : names ≠ []) : (String.intercalate "/" names).toList.head? ≠ some '/' := by
  have hsegments := segments_intercalate_names h hne
  intro hhead
  obtain ⟨rest, htext⟩ := List.head?_eq_some_iff.mp hhead
  obtain ⟨name, more, rfl⟩ := List.exists_cons_of_ne_nil hne
  rw [htext, Text.segments, if_pos rfl, List.map_cons] at hsegments
  exact (h name (List.mem_cons_self ..)).ne_empty
    (String.toList_eq_nil_iff.mp (List.cons.inj hsegments).1.symm)

/-- Appending names to a path, joined by slashes, appends them to its parts. -/
theorem parts_join (path : Path) {names : List String} (h : ∀ name ∈ names, IsName name)
    (hne : names ≠ []) :
    (path.join ⟨String.intercalate "/" names⟩).parts =
      path.front ++ names.map String.toList := by
  rw [join, parts_push path (head?_intercalate_names h hne), segments_intercalate_names h hne]

/-- Appending names to a path, joined by slashes, appends them to its components. -/
theorem components_join (path : Path) {names : List String} (h : ∀ name ∈ names, IsName name)
    (hne : names ≠ []) :
    (path.join ⟨String.intercalate "/" names⟩).components =
      path.components ++ names.map .name := by
  rw [components_eq, parts_join path h hne, componentsOf_front_append path h hne]

/-- A component that may stand anywhere in a path. -/
def Component.IsInner : Component → Prop
  | up => True
  | name text => IsName text
  | _ => False

/-- Components in an order in which they make a path: the root and the directory itself stand
only in front. -/
def IsCanonical : List Component → Prop
  | [] => True
  | first :: rest =>
      (first = .root ∨ first = .here ∨ first.IsInner) ∧ ∀ component ∈ rest, component.IsInner

/-- Components without the last ones are in order when all of them are. -/
theorem IsCanonical.of_append {front rest : List Component} (h : IsCanonical (front ++ rest)) :
    IsCanonical front := by
  cases front with
  | nil => trivial
  | cons first front =>
    exact ⟨h.1, fun component hmem => h.2 component (List.mem_append_left _ hmem)⟩

/-- The first of some components are in order when all of them are. -/
theorem IsCanonical.of_front {front components : List Component} (h : IsCanonical components)
    (hfront : front <+: components) : IsCanonical front := by
  obtain ⟨rest, rfl⟩ := hfront
  exact h.of_append

/-- What a part stands for has the text of the part. -/
theorem toList_text_of_component? {leading : Bool} {part : List Char} {component : Component}
    (h : component? leading part = some component) : component.text.toList = part := by
  unfold component? at h
  split at h
  · simp at h
  · split at h
    · rw [← Option.some.inj h]
      rfl
    · simp at h
  · rw [← Option.some.inj h]
    rfl
  · rw [← Option.some.inj h, Component.text, String.toList_ofList]

/-- What a part between slashes stands for may stand anywhere, unless the part is a dot in
front. -/
theorem isInner_of_component? {part : List Char} {component : Component} (hpart : '/' ∉ part)
    (h : component? false part = some component) : component.IsInner := by
  unfold component? at h
  split at h
  · simp at h
  · simp at h
  · rw [← Option.some.inj h]
    trivial
  · next hnil hhere hup =>
    rw [← Option.some.inj h]
    refine ⟨?_, by simpa using hpart, ?_, ?_⟩
    · exact fun heq => hnil (String.ofList_eq_empty_iff.mp heq)
    · exact fun heq => hhere (by simpa using congrArg String.toList heq)
    · exact fun heq => hup (by simpa using congrArg String.toList heq)

/-- Components that may stand anywhere are in order. -/
theorem isCanonical_of_isInner {components : List Component}
    (h : ∀ component ∈ components, component.IsInner) : IsCanonical components := by
  cases components with
  | nil => trivial
  | cons first rest =>
    obtain ⟨hfirst, hrest⟩ := List.forall_mem_cons.mp h
    exact ⟨Or.inr (Or.inr hfirst), hrest⟩

/-- The components of a path are in order. -/
theorem isCanonical_components (path : Path) : IsCanonical path.components := by
  have hslash : ∀ part ∈ path.parts, '/' ∉ part :=
    fun part hmem => Text.not_mem_of_mem_segments hmem
  rw [components_eq]
  cases hparts : path.parts with
  | nil => trivial
  | cons part rest =>
    rw [hparts, List.forall_mem_cons] at hslash
    obtain ⟨hpart, hslash⟩ := hslash
    have hrest : ∀ component ∈ rest.filterMap (component? false), component.IsInner := by
      intro component hmem
      obtain ⟨other, hother, hcomponent⟩ := List.mem_filterMap.mp hmem
      exact isInner_of_component? (hslash other hother) hcomponent
    rw [componentsOf]
    split
    · exact ⟨Or.inl rfl, hrest⟩
    · cases hfirst : component? true part with
      | none => exact isCanonical_of_isInner hrest
      | some component =>
        refine ⟨?_, hrest⟩
        by_cases hdot : part = ['.']
        · rw [hdot] at hfirst
          exact Or.inr (Or.inl (Option.some.inj hfirst).symm)
        · refine Or.inr (Or.inr (isInner_of_component? hpart ?_))
          rw [← hfirst]
          unfold component?
          split <;> simp_all

/-- A component that may stand anywhere is what its text stands for. -/
theorem component?_of_isInner {component : Component} (h : component.IsInner) (leading : Bool) :
    component? leading component.text.toList = some component := by
  cases component with
  | root => exact h.elim
  | here => exact h.elim
  | up => rfl
  | name text => exact component?_of_isName h leading

/-- The text of a component that may stand anywhere has no slash and is not empty. -/
theorem text_of_isInner {component : Component} (h : component.IsInner) :
    '/' ∉ component.text.toList ∧ component.text ≠ "" := by
  cases component with
  | root => exact h.elim
  | here => exact h.elim
  | up => exact ⟨by decide, by decide⟩
  | name text => exact ⟨h.no_slash, h.ne_empty⟩

/-- The parts of the path that components make are their texts; the root alone has a second empty
part. -/
theorem parts_ofComponents {components : List Component} (h : IsCanonical components)
    (hne : components ≠ []) (hroot : components ≠ [.root]) :
    (ofComponents components).parts = components.map fun component => component.text.toList := by
  have hslash : ∀ component ∈ components, '/' ∉ component.text.toList := by
    obtain ⟨first, rest, rfl⟩ := List.exists_cons_of_ne_nil hne
    obtain ⟨hfirst, hrest⟩ := h
    refine List.forall_mem_cons.mpr ⟨?_, fun component hmem => (text_of_isInner (hrest _ hmem)).1⟩
    rcases hfirst with rfl | rfl | hfirst
    · decide
    · decide
    · exact (text_of_isInner hfirst).1
  have htext : (ofComponents components).text =
      String.intercalate "/" (components.map Component.text) := by
    unfold ofComponents
    split
    · next heq => exact absurd rfl hroot
    · rfl
  rw [parts, htext, String.toList_intercalate]
  have hcut := @Text.segments_intercalate '/'
    ((components.map Component.text).map String.toList) ?_ (by simpa using hne)
  · rw [List.map_map] at hcut ⊢
    exact hcut
  · intro part hpart
    simp only [List.map_map, List.mem_map, Function.comp_apply] at hpart
    obtain ⟨component, hmem, rfl⟩ := hpart
    exact hslash component hmem

/-- Components make a path that has them. -/
theorem components_ofComponents {components : List Component} (h : IsCanonical components) :
    (ofComponents components).components = components := by
  by_cases hne : components = []
  · rw [hne]
    rfl
  · by_cases hroot : components = [.root]
    · rw [hroot]
      decide
    · rw [components_eq, parts_ofComponents h hne hroot]
      obtain ⟨first, rest, rfl⟩ := List.exists_cons_of_ne_nil hne
      obtain ⟨hfirst, hrest⟩ := h
      have hmap : (rest.map fun component => component.text.toList).filterMap
          (component? false) = rest := by
        rw [List.filterMap_map]
        refine (List.filterMap_congr fun component hmem => ?_).trans List.filterMap_some
        exact component?_of_isInner (hrest component hmem) false
      rw [List.map_cons, componentsOf, hmap]
      rcases hfirst with rfl | rfl | hfirst
      · have hmore : rest ≠ [] := fun heq => hroot (by rw [heq])
        simp [Component.text, hmore]
      · simp [Component.text, component?]
      · have hempty : first.text.toList ≠ [] := fun heq =>
          (text_of_isInner hfirst).2 (String.toList_eq_nil_iff.mp heq)
        simp [hempty, component?_of_isInner hfirst]

/-- The first components of a path make a path that has them. -/
theorem components_ofComponents_front {path : Path} {front : List Component}
    (h : front <+: path.components) : (ofComponents front).components = front :=
  components_ofComponents ((isCanonical_components path).of_front h)

/-- The parent of a path has its components but the last. -/
theorem components_parent? {path parent : Path} (h : path.parent? = some parent) :
    parent.components = path.components.dropLast := by
  have hcanonical := isCanonical_components path
  unfold parent? at h
  split at h
  · simp at h
  · simp at h
  · next hlast =>
    obtain ⟨front, hfront⟩ := List.getLast?_eq_some_iff.mp hlast
    rw [← Option.some.inj h]
    refine components_ofComponents ?_
    rw [hfront, List.dropLast_concat]
    rw [hfront] at hcanonical
    exact hcanonical.of_append

/-- A path has one component more than its parent. -/
theorem exists_components_eq_append {path parent : Path} (h : path.parent? = some parent) :
    ∃ last, path.components = parent.components ++ [last] := by
  have hparent := components_parent? h
  unfold parent? at h
  split at h
  · simp at h
  · simp at h
  · next last _ hlast =>
    obtain ⟨front, hfront⟩ := List.getLast?_eq_some_iff.mp hlast
    exact ⟨last, by rw [hparent, hfront, List.dropLast_concat]⟩

end ToStringGen.Path
