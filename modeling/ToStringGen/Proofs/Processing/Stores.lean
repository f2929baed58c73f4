import ToStringGen.Proofs.Processing.Course
import ToStringGen.Proofs.Processing.Independence

/-!
# Filers that store every class

When no class fails to be written, what becomes of a declaration is decided by the
declaration alone, and what is stored is what memory holds after the classes were put
there one after the other: of the classes with one name the last one stays.
-/

namespace ToStringGen

namespace TypeDeclaration

/-- A class is generated for the declaration. -/
def Generates (declaration : TypeDeclaration) : Prop :=
  declaration.overridesToString = false ∧ declaration.eligibleFields ≠ []

instance (declaration : TypeDeclaration) : Decidable declaration.Generates :=
  inferInstanceAs (Decidable (_ ∧ _))

/-- The treatment of a declaration for which nothing goes wrong. -/
def treatment (declaration : TypeDeclaration) : Treatment where
  declaration
  outcome :=
    if declaration.overridesToString then .overridden declaration.qualifiedName
    else if declaration.eligibleFields = [] then .withoutFields declaration.qualifiedName
    else .ofWriting declaration.qualifiedName declaration.className (.ok ())

end TypeDeclaration

namespace Memory

variable {declaration : TypeDeclaration} {declarations : List TypeDeclaration} {name : String}

/-- Takes in the class of a declaration, if one is generated. -/
def put (memory : Memory) (declaration : TypeDeclaration) : Memory :=
  if declaration.Generates then
    { files := memory.files.insert declaration.className
        (Text.Utf8.encode declaration.classArtifact.body)
      current := none }
  else memory

/-- Takes in the classes of declarations, one after the other. -/
def putAll (memory : Memory) (declarations : List TypeDeclaration) : Memory :=
  declarations.foldl put memory

/-- A class is found under its name, and what is there under other names stays. -/
theorem entry_put (memory : Memory) (declaration : TypeDeclaration) (name : String) :
    entry name (memory.put declaration) =
      if declaration.Generates ∧ declaration.className = name then
        some (Text.Utf8.encode declaration.classArtifact.body)
      else entry name memory := by
  rw [put]
  by_cases hgenerates : declaration.Generates
  · rw [if_pos hgenerates]
    simp only [hgenerates, true_and, entry, Std.ExtTreeMap.getElem?_insert, Std.compare_eq_iff_eq]
  · rw [if_neg hgenerates, if_neg fun h => hgenerates h.1]

/-- What no declaration generates stays as it was. -/
theorem entry_putAll_of_other
    (h : ∀ declaration ∈ declarations, declaration.Generates → declaration.className ≠ name)
    (memory : Memory) : entry name (memory.putAll declarations) = entry name memory := by
  induction declarations generalizing memory with
  | nil => rfl
  | cons declaration rest ih =>
    obtain ⟨hfirst, hrest⟩ := List.forall_mem_cons.mp h
    have hsame : entry name (memory.put declaration) = entry name memory := by
      rw [entry_put, if_neg]
      rintro ⟨hgenerates, heq⟩
      exact hfirst hgenerates heq
    exact (ih hrest (memory.put declaration)).trans hsame

/-- Of the classes with one name the last one stays. -/
theorem entry_putAll_of_last {earlier later : List TypeDeclaration}
    (hgenerates : declaration.Generates)
    (hlast : ∀ other ∈ later, other.Generates → other.className ≠ declaration.className)
    (memory : Memory) :
    entry declaration.className (memory.putAll (earlier ++ declaration :: later)) =
      some (Text.Utf8.encode declaration.classArtifact.body) := by
  rw [putAll, List.foldl_append, List.foldl_cons]
  have hstays := entry_putAll_of_other hlast ((earlier.foldl put memory).put declaration)
  rw [entry_put, if_pos ⟨hgenerates, rfl⟩] at hstays
  exact hstays

end Memory

variable {σ : Type} {filer : Filer (StateM σ)} {holds : Memory → σ → Prop}
  {declarations : List TypeDeclaration} {memory : Memory} {s t : σ}

/-- A filer stores the classes of declarations as memory does. From a state that corresponds to a
memory each of them is written without failure, and the state afterwards corresponds to the memory
with this class. -/
def Stores (filer : Filer (StateM σ)) (holds : Memory → σ → Prop)
    (declarations : List TypeDeclaration) : Prop :=
  ∀ declaration ∈ declarations, declaration.Generates → ∀ memory s, holds memory s →
    ∃ filed t,
      (filer.writeArtifact declaration.classArtifact).run s = ((.ok (), filed), t) ∧
        holds (memory.put declaration) t

/-- Memory stores all classes. -/
theorem Memory.stores (declarations : List TypeDeclaration) :
    Stores Memory.filer Eq declarations := by
  rintro declaration _ hgenerates memory _ rfl
  refine ⟨_, _, run_writeArtifact memory declaration.classArtifact, ?_⟩
  rw [put, if_pos hgenerates]
  rfl

namespace Stores

/-- A declaration is treated in the way that it decides itself. -/
theorem eq_of_treats (hstores : Stores filer holds declarations) {treatment : Treatment}
    (h : Treats filer s treatment t) (hmem : treatment.declaration ∈ declarations)
    (hs : holds memory s) :
    treatment = treatment.declaration.treatment ∧
      holds (memory.put treatment.declaration) t := by
  cases h with
  | overridden _ hoverrides =>
    constructor
    · simp only [TypeDeclaration.treatment, if_pos hoverrides]
    · rw [Memory.put, if_neg]
      · exact hs
      · rintro ⟨hplain, _⟩
        exact Bool.noConfusion (hoverrides.symm.trans hplain)
  | withoutFields _ hplain hfields =>
    constructor
    · simp only [TypeDeclaration.treatment, hplain, hfields, Bool.false_eq_true, if_false, if_true]
    · rw [Memory.put, if_neg]
      · exact hs
      · rintro ⟨_, hsome⟩
        exact hsome hfields
  | generated hplain hfields hwrite =>
    obtain ⟨filed, u, hrun, hu⟩ := hstores _ hmem ⟨hplain, hfields⟩ memory s hs
    rw [hrun] at hwrite
    constructor
    · simp only [TypeDeclaration.treatment, hplain, hfields, Bool.false_eq_true, if_false]
      rfl
    · rw [← (Prod.mk.inj hwrite).2]
      exact hu
  | failed hplain hfields hwrite =>
    obtain ⟨filed, u, hrun, _⟩ := hstores _ hmem ⟨hplain, hfields⟩ memory s hs
    rw [hrun] at hwrite
    cases hwrite

/-- So are declarations that are treated one after the other. -/
theorem eq_of_course (hstores : Stores filer holds declarations) {treatments : List Treatment}
    (h : Course filer s treatments t)
    (hmem : ∀ treatment ∈ treatments, treatment.declaration ∈ declarations)
    (hs : holds memory s) :
    treatments = (treatments.map Treatment.declaration).map TypeDeclaration.treatment ∧
      holds (memory.putAll (treatments.map Treatment.declaration)) t := by
  induction h generalizing memory with
  | nil => exact ⟨rfl, hs⟩
  | cons first _ ih =>
    obtain ⟨hfirst, hrest⟩ := List.forall_mem_cons.mp hmem
    obtain ⟨htreatment, hu⟩ := hstores.eq_of_treats first hfirst hs
    obtain ⟨htreatments, ht⟩ := ih hrest hu
    constructor
    · rw [List.map_cons, List.map_cons, ← htreatment, ← htreatments]
    · exact ht

/-- What follows from declarations is decided by the declarations. -/
theorem eq_of_follows (hstores : Stores filer holds declarations) {treatments : List Treatment}
    {outcomes : List Outcome} {diagnostics : List Diagnostic}
    (h : Follows filer s treatments declarations outcomes diagnostics t) (hs : holds memory s) :
    outcomes = declarations.map (fun declaration => declaration.treatment.outcome) ∧
      diagnostics = declarations.flatMap (fun declaration => declaration.treatment.due) ∧
      holds (memory.putAll declarations) t := by
  have hmem : ∀ treatment ∈ treatments, treatment.declaration ∈ declarations := by
    intro treatment htreatment
    rw [← h.declarations_eq]
    exact List.mem_map_of_mem htreatment
  obtain ⟨htreatments, hput⟩ := hstores.eq_of_course h.course hmem hs
  rw [h.declarations_eq] at htreatments hput
  have houtcomes := h.outcomes_eq
  have hdiagnostics := h.diagnostics_eq
  rw [htreatments, List.map_map] at houtcomes
  rw [htreatments, List.flatMap_map] at hdiagnostics
  exact ⟨houtcomes, hdiagnostics, hput⟩

/-- Declarations that are processed one after the other come to what they decide. -/
theorem run_processAll (hstores : Stores filer holds declarations) (hs : holds memory s) :
    ∃ events t, (Processor.processAll filer declarations).run s =
        ((declarations.map fun declaration => declaration.treatment.outcome, events), t) ∧
      diagnosticsOf events =
        declarations.flatMap (fun declaration => declaration.treatment.due) ∧
      holds (memory.putAll declarations) t := by
  rcases hrun : (Processor.processAll filer declarations).run s with ⟨⟨outcomes, events⟩, t⟩
  obtain ⟨treatments, hfollows⟩ := Processor.processAll_follows filer declarations s
  rw [hrun] at hfollows
  obtain ⟨houtcomes, hdiagnostics, ht⟩ := hstores.eq_of_follows hfollows hs
  exact ⟨events, t, by rw [← houtcomes], hdiagnostics, ht⟩

end Stores

end ToStringGen
