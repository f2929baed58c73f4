import ToStringGen.Proofs.Disk.Above

/-!
# Ways that differ in dots

A path put together from components has lost the dots and slashes of the path that
it came from. It leads to the same directory all the same, because a dot on the way
to a directory changes nothing.
-/

namespace ToStringGen

/-- The name that a component asks to be followed. The root and the directory itself ask for
none. -/
def Path.Component.step? : Path.Component → Option String
  | up => some ".."
  | name text => some text
  | _ => none

namespace Disk

open ToStringGen.Path

variable {disk : Disk} {last : Bool} {links : Nat} {location base : Location}
  {names : List String} {spot : Spot}

/-- A part asks for the name that its component asks for, unless it is a dot. -/
theorem filter_step_of_part (leading : Bool) (part : List Char) :
    (((if part.isEmpty then [] else [String.ofList part]).filter (· != "."))) =
      (component? leading part).toList.filterMap Component.step? := by
  by_cases hnil : part = []
  · subst hnil
    rfl
  by_cases hhere : part = ['.']
  · subst hhere
    cases leading <;> decide
  by_cases hup : part = ['.', '.']
  · subst hup
    decide +revert
  have hname : component? leading part = some (.name (String.ofList part)) := by
    unfold component?
    split <;> simp_all
  have hne : String.ofList part ≠ "." := fun heq =>
    hhere (by simpa using congrArg String.toList heq)
  simp [hname, hnil, hne, Component.step?]

/-- A part that is not empty is a name to be followed. -/
theorem map_ofList_filter_cons (part : List Char) (rest : List (List Char)) :
    ((part :: rest).filter (!·.isEmpty)).map String.ofList =
      (if part.isEmpty then [] else [String.ofList part]) ++
        (rest.filter (!·.isEmpty)).map String.ofList := by
  cases part <;> rfl

/-- Up to dots, the parts after the first ask for the names that their components ask for. -/
theorem filter_map_ofList_filter (parts : List (List Char)) :
    ((parts.filter (!·.isEmpty)).map String.ofList).filter (· != ".") =
      (parts.filterMap (component? false)).filterMap Component.step? := by
  induction parts with
  | nil => rfl
  | cons part parts ih =>
    rw [map_ofList_filter_cons, List.filter_append, filter_step_of_part false, ih,
      ← List.filterMap_append]
    cases hcomponent : component? false part with
    | none => rw [List.filterMap_cons_none hcomponent, Option.toList_none, List.nil_append]
    | some component =>
      rw [List.filterMap_cons_some hcomponent, Option.toList_some, List.singleton_append]

/-- Up to dots, a path asks for the names that its components ask for. -/
theorem filter_steps (path : Path) :
    (steps path.text).filter (· != ".") = path.components.filterMap Component.step? := by
  have hslash : (if path.text.toList.getLast? = some '/' then ["."] else []).filter
      (· != ".") = ([] : List String) := by
    split <;> decide
  rw [steps_eq, List.filter_append, hslash, List.append_nil, components_eq]
  cases hparts : path.parts with
  | nil => rfl
  | cons part rest =>
    rw [map_ofList_filter_cons, List.filter_append, filter_map_ofList_filter,
      filter_step_of_part true, componentsOf, List.filterMap_append]
    congr 1
    split
    · next h =>
      rw [h.1]
      rfl
    · rfl

/-- A path put together from components asks in the end for the names that they end with. -/
theorem exists_steps_ofComponents {components : List Component}
    (hcanonical : IsCanonical (components ++ names.map .name))
    (hnames : ∀ name ∈ names, IsName name) (hne : names ≠ []) :
    ∃ front, steps (ofComponents (components ++ names.map .name)).text = front ++ names := by
  obtain ⟨init, last, rfl⟩ := (List.eq_nil_or_concat names).resolve_left hne
  rw [List.concat_eq_append] at *
  have htexts : ((init ++ [last]).map Component.name).map
      (fun component => component.text.toList) = (init ++ [last]).map String.toList := by
    rw [List.map_map]
    rfl
  have hroot : components ++ (init ++ [last]).map .name ≠ [.root] := by
    intro heq
    have hlast := congrArg List.getLast? heq
    simp at hlast
  have hparts : (ofComponents (components ++ (init ++ [last]).map .name)).parts =
      components.map (fun component => component.text.toList) ++
        (init ++ [last]).map String.toList := by
    rw [parts_ofComponents hcanonical (by simp) hroot, ← htexts, ← List.map_append]
  have hslash : (ofComponents (components ++
      (init ++ [last]).map .name)).text.toList.getLast? ≠ some '/' := by
    intro hslash
    have hend := getLast?_parts_of_slash hslash
    have hend : last.toList = [] := by
      rw [hparts] at hend
      simpa using hend
    exact (hnames last (by simp)).ne_empty (String.toList_eq_nil_iff.mp hend)
  have hkept : ((init ++ [last]).map String.toList).filter (!·.isEmpty) =
      (init ++ [last]).map String.toList := by
    refine List.filter_eq_self.mpr fun part hpart => ?_
    obtain ⟨name, hmem, rfl⟩ := List.mem_map.mp hpart
    simpa using (hnames name hmem).ne_empty
  have hback : ((init ++ [last]).map String.toList).map String.ofList = init ++ [last] := by
    rw [List.map_map]
    simp
  rw [steps_eq, if_neg hslash, hparts, List.filter_append, hkept, List.map_append, hback,
    List.append_nil]
  exact ⟨_, rfl⟩

/-- Where a path starts is told by its components. -/
theorem start_eq (path : Path) (current : Location) :
    start path.text current = if path.components.head? = some .root then [] else current := by
  have habsolute := isAbsolute_iff path
  unfold start
  rw [isAbsolute, beq_iff_eq] at habsolute
  simp only [habsolute]

namespace Walk

/-- Dots may be put before names that are followed from a directory. -/
theorem dots {dots : List String} (hdots : ∀ dot ∈ dots, dot = ".")
    (hlocation : disk.entry? location = some .directory)
    (h : Walk disk last links location names spot) :
    Walk disk last links location (dots ++ names) spot := by
  induction dots with
  | nil => exact h
  | cons dot dots ih =>
    obtain ⟨rfl, hrest⟩ := List.forall_mem_cons.mp hdots
    exact .stay hlocation (ih hrest)

/-- Names that differ in dots only lead to the same directory. -/
theorem of_filter_eq (h : Walk disk true links location names (.occupied base .directory))
    {others : List String} (hsame : others.filter (· != ".") = names.filter (· != ".")) :
    Walk disk true links location others (.occupied base .directory) := by
  generalize hspot : Spot.occupied base .directory = spot at h
  induction h generalizing others with
  | @arrive links _ _ hentry =>
    cases hspot
    have hdots : ∀ dot ∈ others, dot = "." := by simpa using hsame
    have harrive : Walk disk true links base [] (.occupied base .directory) :=
      .arrive hentry
    rw [← List.append_nil others]
    exact dots hdots hentry harrive
  | stay _ _ ih => exact ih hsame hspot
  | @rise _ location rest _ hdirectory _ ih =>
    rw [List.filter_cons_of_pos (by decide)] at hsame
    obtain ⟨front, more, rfl, hfront, _, hmore⟩ := List.filter_eq_cons_iff.mp hsame
    exact dots (by simpa using hfront) hdirectory (.rise hdirectory (ih hmore hspot))
  | free => cases hspot
  | halt _ _ _ hlast => exact Bool.noConfusion hlast
  | @turn _ location name target rest _ hdirectory hname hlink _ _ ih =>
    rw [List.filter_cons_of_pos (by simpa using hname.ne_here)] at hsame
    obtain ⟨front, more, rfl, hfront, _, hmore⟩ := List.filter_eq_cons_iff.mp hsame
    refine dots (by simpa using hfront) hdirectory
      (.turn hdirectory hname hlink (Or.inr rfl) (ih ?_ hspot))
    rw [List.filter_append, List.filter_append, hmore]
  | @descend _ location name entry rest _ hdirectory hname hentry hlink _ ih =>
    rw [List.filter_cons_of_pos (by simpa using hname.ne_here)] at hsame
    obtain ⟨front, more, rfl, hfront, _, hmore⟩ := List.filter_eq_cons_iff.mp hsame
    exact dots (by simpa using hfront) hdirectory
      (.descend hdirectory hname hentry hlink (ih hmore hspot))

/-- Something is found on the way to a directory when a link at its end is not followed. -/
theorem unfollowed (h : Walk disk true links location names (.occupied base .directory)) :
    ∃ place entry, Walk disk false links location names (.occupied place entry) := by
  generalize hspot : Spot.occupied base .directory = spot at h
  induction h with
  | arrive hentry => exact ⟨_, _, .arrive hentry⟩
  | stay hdirectory _ ih =>
    obtain ⟨place, entry, hwalk⟩ := ih hspot
    exact ⟨place, entry, .stay hdirectory hwalk⟩
  | rise hdirectory _ ih =>
    obtain ⟨place, entry, hwalk⟩ := ih hspot
    exact ⟨place, entry, .rise hdirectory hwalk⟩
  | free => cases hspot
  | halt _ _ _ hlast => exact Bool.noConfusion hlast
  | @turn _ location name target rest _ hdirectory hname hlink _ _ ih =>
    by_cases hrest : rest = []
    · subst hrest
      exact ⟨_, _, .halt hdirectory hname hlink rfl⟩
    · obtain ⟨place, entry, hwalk⟩ := ih hspot
      exact ⟨place, entry, .turn hdirectory hname hlink (Or.inl hrest) hwalk⟩
  | descend hdirectory hname hentry hlink _ ih =>
    obtain ⟨place, entry, hwalk⟩ := ih hspot
    exact ⟨place, entry, .descend hdirectory hname hentry hlink hwalk⟩

/-- A way leads to the same place on every disk that has the same entries and maybe more. -/
theorem of_entries {more : Disk} {place : Location} {entry : Entry}
    (h : Walk disk last links location names (.occupied place entry))
    (hentries : ∀ location entry, disk.entry? location = some entry →
      more.entry? location = some entry) :
    Walk more last links location names (.occupied place entry) := by
  generalize hspot : Spot.occupied place entry = spot at h
  induction h with
  | arrive hentry => exact .arrive (hentries _ _ hentry)
  | stay hdirectory _ ih => exact .stay (hentries _ _ hdirectory) (ih hspot)
  | rise hdirectory _ ih => exact .rise (hentries _ _ hdirectory) (ih hspot)
  | free => cases hspot
  | halt hdirectory hname hlink hlast =>
    exact .halt (hentries _ _ hdirectory) hname (hentries _ _ hlink) hlast
  | turn hdirectory hname hlink hfollowed _ ih =>
    exact .turn (hentries _ _ hdirectory) hname (hentries _ _ hlink) hfollowed (ih hspot)
  | descend hdirectory hname hentry hlink _ ih =>
    exact .descend (hentries _ _ hdirectory) hname (hentries _ _ hentry) hlink (ih hspot)

end Walk

end Disk

end ToStringGen
