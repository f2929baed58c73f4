import Mathlib.Data.List.Basic
import ToStringGen.Discovery

/-!
# What a pool hands out

A pool hands out the first annotated declaration of each name that is new. What
it has handed out it does not hand out again, so that a second call for the same
marker finds nothing.
-/

namespace ToStringGen.Pool

/-- The annotated declarations of a list, of each name only the first. -/
def firstOfEachName (marker : String) : List TypeDeclaration → List TypeDeclaration
  | [] => []
  | declaration :: rest =>
      if declaration.isAnnotatedWith marker then
        declaration :: (firstOfEachName marker rest).filter fun other =>
          other.qualifiedName != declaration.qualifiedName
      else firstOfEachName marker rest

/-- The order of the list is kept and nothing is added. -/
theorem firstOfEachName_sublist (marker : String) (declarations : List TypeDeclaration) :
    (firstOfEachName marker declarations).Sublist declarations := by
  induction declarations with
  | nil => exact List.Sublist.slnil
  | cons declaration rest ih =>
    rw [firstOfEachName]
    split
    · exact (List.filter_sublist.trans ih).cons_cons declaration
    · exact ih.cons declaration

/-- Only annotated declarations are kept. -/
theorem isAnnotatedWith_of_mem_firstOfEachName {marker : String}
    {declarations : List TypeDeclaration} {declaration : TypeDeclaration}
    (h : declaration ∈ firstOfEachName marker declarations) :
    declaration.isAnnotatedWith marker = true := by
  induction declarations with
  | nil => simp [firstOfEachName] at h
  | cons first rest ih =>
    rw [firstOfEachName] at h
    split at h
    · next hfirst =>
      rcases List.mem_cons.mp h with rfl | h
      · exact hfirst
      · exact ih (List.mem_of_mem_filter h)
    · exact ih h

/-- No name is kept twice. -/
theorem nodup_names_firstOfEachName (marker : String) (declarations : List TypeDeclaration) :
    ((firstOfEachName marker declarations).map TypeDeclaration.qualifiedName).Nodup := by
  induction declarations with
  | nil => simp [firstOfEachName]
  | cons declaration rest ih =>
    rw [firstOfEachName]
    split
    · rw [List.map_cons, List.nodup_cons]
      refine ⟨?_, ih.sublist (List.filter_sublist.map _)⟩
      intro hmem
      obtain ⟨other, hother, hname⟩ := List.mem_map.mp hmem
      have := (List.mem_filter.mp hother).2
      simp [hname] at this
    · exact ih

/-- When no name occurs twice, all annotated declarations are kept. -/
theorem firstOfEachName_of_nodup {marker : String} {declarations : List TypeDeclaration}
    (h : (declarations.map TypeDeclaration.qualifiedName).Nodup) :
    firstOfEachName marker declarations =
      declarations.filter fun declaration => declaration.isAnnotatedWith marker := by
  induction declarations with
  | nil => rfl
  | cons declaration rest ih =>
    rw [List.map_cons, List.nodup_cons] at h
    obtain ⟨hnew, hrest⟩ := h
    have hkeep : (firstOfEachName marker rest).filter (fun other =>
        other.qualifiedName != declaration.qualifiedName) = firstOfEachName marker rest := by
      refine List.filter_eq_self.mpr fun other hother => ?_
      have hmem := (firstOfEachName_sublist marker rest).subset hother
      have hne : other.qualifiedName ≠ declaration.qualifiedName := by
        intro heq
        exact hnew (heq ▸ List.mem_map_of_mem hmem)
      simpa using hne
    rw [firstOfEachName, hkeep, ih hrest, List.filter_cons]

/-- One scan hands out the first annotated declaration of each name not delivered before. -/
theorem select_fst (marker : String) (declarations : List TypeDeclaration)
    (delivered : List String) :
    (select marker declarations delivered).1 =
      (firstOfEachName marker declarations).filter fun declaration =>
        !delivered.contains declaration.qualifiedName := by
  induction declarations generalizing delivered with
  | nil => rfl
  | cons declaration rest ih =>
    by_cases hannotated : declaration.isAnnotatedWith marker = true
    · by_cases hold : declaration.qualifiedName ∈ delivered
      · rw [select, if_neg (by simp [hannotated, hold]), ih, firstOfEachName, if_pos hannotated,
          List.filter_cons_of_neg (by simp [hold]), List.filter_filter]
        refine List.filter_congr fun other _ => ?_
        by_cases hother : other.qualifiedName ∈ delivered
        · simp [hother]
        · have hne : other.qualifiedName ≠ declaration.qualifiedName := fun heq =>
            hother (heq ▸ hold)
          simp [hne]
      · rw [select, if_pos (by simp [hannotated, hold]), firstOfEachName, if_pos hannotated,
          List.filter_cons_of_pos (by simp [hold]), List.filter_filter]
        simp only [ih]
        congr 1
        refine List.filter_congr fun other _ => ?_
        rw [List.contains_cons, Bool.not_or, bne, Bool.and_comm]
    · rw [select, if_neg (by simp [hannotated]), ih, firstOfEachName, if_neg hannotated]

/-- After a scan every annotated declaration of the list is delivered. -/
theorem mem_select_snd {marker : String} {declarations : List TypeDeclaration}
    {delivered : List String} {name : String} :
    name ∈ (select marker declarations delivered).2 ↔ name ∈ delivered ∨
      ∃ declaration ∈ declarations, declaration.isAnnotatedWith marker = true ∧
        declaration.qualifiedName = name := by
  induction declarations generalizing delivered with
  | nil => simp [select]
  | cons declaration rest ih =>
    rw [select]
    split
    · next hnew =>
      simp only [ih, List.mem_cons, exists_eq_or_imp]
      have hannotated : declaration.isAnnotatedWith marker = true := by simp_all
      simp only [hannotated, true_and]
      tauto
    · next hold =>
      simp only [ih, List.mem_cons, exists_eq_or_imp]
      constructor
      · tauto
      · rintro (hmem | ⟨hannotated, rfl⟩ | hmem)
        · exact Or.inl hmem
        · exact Or.inl (by simpa [hannotated] using hold)
        · exact Or.inr hmem

/-- A fresh pool hands out the first annotated declaration of each name. -/
theorem find_ofList (marker : String) (declarations : List TypeDeclaration) :
    ((ofList declarations).find marker).1 = firstOfEachName marker declarations := by
  have h := select_fst marker declarations []
  simpa [find, ofList] using h

/-- A scan changes nothing when every annotated declaration is delivered already. -/
theorem select_of_delivered {marker : String} {declarations : List TypeDeclaration}
    {delivered : List String}
    (h : ∀ declaration ∈ declarations, declaration.isAnnotatedWith marker = true →
      declaration.qualifiedName ∈ delivered) :
    select marker declarations delivered = ([], delivered) := by
  induction declarations with
  | nil => rfl
  | cons declaration rest ih =>
    have hold := h declaration (List.mem_cons_self ..)
    rw [select, if_neg (by simpa using hold)]
    exact ih fun other hmem => h other (List.mem_cons_of_mem _ hmem)

/-- Nothing is pending when every annotated declaration is handed out already. -/
theorem hasPending_eq_false_iff {pool : Pool} {marker : String} :
    pool.hasPending marker = false ↔
      ∀ declaration ∈ pool.declarations, declaration.isAnnotatedWith marker = true →
        declaration.qualifiedName ∈ pool.delivered := by
  simp only [hasPending, List.any_eq_false, Bool.and_eq_true, Bool.not_eq_true', not_and,
    Bool.not_eq_false, List.contains_iff_mem]

/-- Nothing is pending for a marker that has just been asked for. -/
theorem hasPending_find (pool : Pool) (marker : String) :
    (pool.find marker).2.hasPending marker = false :=
  hasPending_eq_false_iff.mpr fun declaration hmem hannotated =>
    mem_select_snd.mpr (Or.inr ⟨declaration, hmem, hannotated, rfl⟩)

/-- When nothing is pending, a call finds nothing and changes nothing. -/
theorem find_of_hasPending_eq_false {pool : Pool} {marker : String}
    (h : pool.hasPending marker = false) : pool.find marker = ([], pool) := by
  rw [find, select_of_delivered (hasPending_eq_false_iff.mp h)]

/-- A second call for the same marker finds nothing and changes nothing. -/
theorem find_find (pool : Pool) (marker : String) :
    (pool.find marker).2.find marker = ([], (pool.find marker).2) :=
  find_of_hasPending_eq_false (hasPending_find pool marker)

end ToStringGen.Pool
