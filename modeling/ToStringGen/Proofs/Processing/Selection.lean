import ToStringGen.Filer.Scripted
import ToStringGen.Proofs.Filer.Exchanges
import ToStringGen.Proofs.Processing.Run

/-!
# Hidden fields leave no trace

A generated class shows the fields of its type that every object has and that are not
private. All that processing a declaration depends on is the name of the type, whether it
has the method itself, and the names of these fields in their order. Declarations that
look alike in this are processed alike, down to each byte that is offered to the filer.
-/

namespace ToStringGen

variable {σ : Type}

namespace FieldDeclaration

/-- Whether a field is to be seen: every object has it, and it is not private. -/
def IsVisible (field : FieldDeclaration) : Prop :=
  field.storage = .perInstance ∧ field.visibility ≠ .privateAccess

instance (field : FieldDeclaration) : Decidable field.IsVisible :=
  inferInstanceAs (Decidable (_ ∧ _))

/-- The visible fields are those eligible to be shown. -/
theorem isEligible_eq (field : FieldDeclaration) : field.isEligible = decide field.IsVisible := by
  rw [Bool.eq_iff_iff, decide_eq_true_iff, isEligible, Bool.and_eq_true, beq_iff_eq, bne_iff_ne,
    IsVisible]

end FieldDeclaration

/-- The fields chosen from a list are the visible ones: each of them as often as the list has it, in
the order of the list, and no other. -/
structure PicksVisible (fields chosen : List FieldDeclaration) : Prop where
  sublist : chosen.Sublist fields
  count_eq : ∀ field, chosen.count field = if field.IsVisible then fields.count field else 0

namespace TypeDeclaration

/-- The names of the visible fields, in the order of declaration. -/
def visibleNames (declaration : TypeDeclaration) : List String :=
  (declaration.fields.filter (·.IsVisible)).map FieldDeclaration.name

/-- Two declarations of a type that differ in what is hidden at most. -/
structure LooksLike (first second : TypeDeclaration) : Prop where
  qualifiedName_eq : first.qualifiedName = second.qualifiedName
  mem_methods_iff : "toString" ∈ first.methods ↔ "toString" ∈ second.methods
  visibleNames_eq : first.visibleNames = second.visibleNames

variable {declaration first second : TypeDeclaration}

/-- A type is left alone when it has a method of this name. -/
theorem overridesToString_iff :
    declaration.overridesToString = true ↔ "toString" ∈ declaration.methods :=
  List.contains_iff_mem

/-- The eligible fields are the visible ones. -/
theorem eligibleFields_eq (declaration : TypeDeclaration) :
    declaration.eligibleFields = declaration.fields.filter (·.IsVisible) :=
  List.filter_congr fun field _ => field.isEligible_eq

/-- The eligible fields have the visible names. -/
theorem map_name_eligibleFields (declaration : TypeDeclaration) :
    declaration.eligibleFields.map FieldDeclaration.name = declaration.visibleNames := by
  rw [eligibleFields_eq, visibleNames]

/-- Nothing is eligible when no name is visible. -/
theorem eligibleFields_eq_nil_iff :
    declaration.eligibleFields = [] ↔ declaration.visibleNames = [] := by
  rw [← map_name_eligibleFields, List.map_eq_nil_iff]

/-- The eligible fields are picked as the visible ones. -/
theorem picksVisible (declaration : TypeDeclaration) :
    PicksVisible declaration.fields declaration.eligibleFields where
  sublist := List.filter_sublist
  count_eq field := by
    rw [eligibleFields_eq]
    by_cases hvisible : field.IsVisible
    · rw [if_pos hvisible]
      exact List.count_filter (decide_eq_true hvisible)
    · rw [if_neg hvisible, List.count_eq_zero]
      exact fun hmem => hvisible (of_decide_eq_true (List.mem_filter.mp hmem).2)

/-- The class that is generated for a declaration has the name of the type and its visible
names. -/
theorem classArtifact_eq (declaration : TypeDeclaration) :
    declaration.classArtifact =
      { qualifiedName := declaration.qualifiedName ++ "WithToString"
        body := Java.Subclass.render declaration.qualifiedName declaration.visibleNames } := by
  rw [classArtifact, map_name_eligibleFields]
  rfl

/-- Declarations that look alike have the same class. -/
theorem LooksLike.classArtifact_eq (h : first.LooksLike second) :
    first.classArtifact = second.classArtifact := by
  rw [TypeDeclaration.classArtifact_eq, TypeDeclaration.classArtifact_eq, h.qualifiedName_eq,
    h.visibleNames_eq]

/-- Declarations that look alike are both left alone or both not. -/
theorem LooksLike.overridesToString_eq (h : first.LooksLike second) :
    first.overridesToString = second.overridesToString := by
  rw [Bool.eq_iff_iff, overridesToString_iff, overridesToString_iff, h.mem_methods_iff]

/-- Declarations that look alike both have nothing to show or both have something. -/
theorem LooksLike.eligibleFields_eq_nil_iff (h : first.LooksLike second) :
    first.eligibleFields = [] ↔ second.eligibleFields = [] := by
  rw [TypeDeclaration.eligibleFields_eq_nil_iff, TypeDeclaration.eligibleFields_eq_nil_iff,
    h.visibleNames_eq]

end TypeDeclaration

namespace Processor

open TypeDeclaration

/-- Declarations that look alike are processed by the same actions, with any filer. -/
theorem processType_eq_of_looksLike {m : Type → Type} [Monad m] [LawfulMonad m]
    {first second : TypeDeclaration} (h : first.LooksLike second) (filer : Filer m) :
    processType filer first = processType filer second := by
  cases hoverrides : first.overridesToString with
  | true =>
    rw [processType_of_overrides filer hoverrides,
      processType_of_overrides filer (h.overridesToString_eq ▸ hoverrides), h.qualifiedName_eq]
  | false =>
    have hoverrides' : second.overridesToString = false := h.overridesToString_eq ▸ hoverrides
    by_cases hfields : first.eligibleFields = []
    · have hfields' := h.eligibleFields_eq_nil_iff.mp hfields
      rw [processType_of_request?_eq_none filer hoverrides (request?_eq_none_iff.mpr hfields),
        processType_of_request?_eq_none filer hoverrides' (request?_eq_none_iff.mpr hfields'),
        h.qualifiedName_eq]
    · have hfields' := mt h.eligibleFields_eq_nil_iff.mpr hfields
      rw [processType_of_eligibleFields filer hoverrides hfields,
        processType_of_eligibleFields filer hoverrides' hfields', h.qualifiedName_eq,
        h.classArtifact_eq]

/-- Processing a declaration goes as without noting the exchanges with the filer, of which there
are none, unless the class is written. -/
theorem run_processType_observed (filer : Filer (StateM σ)) (declaration : TypeDeclaration)
    (s : σ) :
    ∃ outcome events t calls,
      (processType filer declaration).run s = ((outcome, events), t) ∧
      (processType filer.observed declaration).run (s, []) = ((outcome, events), t, calls) ∧
      (calls = [] ↔ declaration.overridesToString = true ∨ declaration.eligibleFields = []) ∧
      (calls ≠ [] → ∃ result, Filing declaration.classArtifact calls result) := by
  cases hoverrides : declaration.overridesToString with
  | true =>
    rw [processType_of_overrides filer hoverrides,
      processType_of_overrides filer.observed hoverrides]
    exact ⟨_, _, s, [], rfl, rfl, by simp, by simp⟩
  | false =>
    by_cases hfields : declaration.eligibleFields = []
    · have hrequest := request?_eq_none_iff.mpr hfields
      rw [processType_of_request?_eq_none filer hoverrides hrequest,
        processType_of_request?_eq_none filer.observed hoverrides hrequest]
      exact ⟨_, _, s, [], rfl, rfl, by simp [hfields], by simp⟩
    · obtain ⟨result, filed, t, calls, hrun, hobserved, hfiling⟩ :=
        filer.run_writeArtifact_observed declaration.classArtifact s []
      rw [List.nil_append] at hobserved
      have hne : calls ≠ [] := by
        obtain ⟨answer, rest, rfl, _⟩ := hfiling.opened
        exact List.cons_ne_nil _ _
      rw [processType_of_eligibleFields filer hoverrides hfields,
        processType_of_eligibleFields filer.observed hoverrides hfields]
      simp only [run_map, hrun, hobserved]
      exact ⟨_, _, t, calls, rfl, rfl, by simp [hne, hfields], fun _ => ⟨result, hfiling⟩⟩

/-- What is chosen from a declaration, and the exchanges with the filer in which its class is
written. -/
structure ShowsVisible (declaration : TypeDeclaration) (calls : List Exchange) : Prop where
  /-- There is a request unless nothing is visible. -/
  request?_eq_none_iff : declaration.request? = none ↔ declaration.visibleNames = []
  /-- The fields requested are the visible ones. -/
  request : ∀ request, declaration.request? = some request →
    PicksVisible declaration.fields request.fields ∧
      request.fieldNames = declaration.visibleNames
  /-- The filer is asked for nothing if and only if the type has the method itself or nothing is
  visible. -/
  unattempted_iff : calls = [] ↔
    "toString" ∈ declaration.methods ∨ declaration.visibleNames = []
  /-- Otherwise it is asked to write the class that shows what is visible. -/
  attempted : calls ≠ [] → ∃ result, Filing
    { qualifiedName := declaration.qualifiedName ++ "WithToString"
      body := Java.Subclass.render declaration.qualifiedName declaration.visibleNames }
    calls result

/-- A declaration shows its visible fields, each of them as often as it is declared and in order,
and whatever else it holds leaves no trace. With any filer in any state, every declaration that
looks like it comes to the same outcome with the same events, diagnostics among them, by the same
exchanges with the filer, and leaves the filer in the same state. -/
theorem hidden_fields_leave_no_trace (filer : Filer (StateM σ)) (declaration : TypeDeclaration)
    (s : σ) :
    ∃ outcome events t calls,
      (processType filer declaration).run s = ((outcome, events), t) ∧
      (processType filer.observed declaration).run (s, []) = ((outcome, events), t, calls) ∧
      ShowsVisible declaration calls ∧
      ∀ other : TypeDeclaration, declaration.LooksLike other →
        (processType filer other).run s = ((outcome, events), t) ∧
        (processType filer.observed other).run (s, []) = ((outcome, events), t, calls) := by
  obtain ⟨outcome, events, t, calls, hrun, hobserved, hnone, hfiling⟩ :=
    run_processType_observed filer declaration s
  rw [overridesToString_iff, eligibleFields_eq_nil_iff] at hnone
  rw [classArtifact_eq] at hfiling
  refine ⟨outcome, events, t, calls, hrun, hobserved, ⟨?_, ?_, hnone, hfiling⟩, ?_⟩
  · rw [TypeDeclaration.request?_eq_none_iff, eligibleFields_eq_nil_iff]
  · intro request hrequest
    have hfields := (eq_of_request?_eq_some hrequest).2
    rw [GenerationRequest.fieldNames, hfields, map_name_eligibleFields]
    exact ⟨declaration.picksVisible, rfl⟩
  · intro other hlike
    rw [← processType_eq_of_looksLike hlike, ← processType_eq_of_looksLike hlike]
    exact ⟨hrun, hobserved⟩

/-- A class in which the visible fields stand among hidden ones. -/
def pointWithSecrets : TypeDeclaration where
  qualifiedName := "geo.Point"
  annotations := [defaultMarker]
  fields :=
    [{ name := "x", visibility := .publicAccess },
     { name := "key", visibility := .privateAccess },
     { name := "y" },
     { name := "x", storage := .static }]
  methods := ["hashCode"]

/-- The same class with its visible fields only, of other visibilities. -/
def pointInSight : TypeDeclaration where
  qualifiedName := "geo.Point"
  fields := [{ name := "x" }, { name := "y", visibility := .protectedAccess }]

/-- With a filer that breaks off while the class is written, the hidden fields of a class leave no
trace. -/
theorem hidden_fields_leave_no_trace_of_point :
    let attempts : List ScriptedWrite := [.accept 3, .interrupt, .fail "full"]
    let broken : Scripted :=
      { script := { writes := [("geo.PointWithToString", { attempts })] } }
    pointWithSecrets.LooksLike pointInSight ∧ pointWithSecrets.visibleNames = ["x", "y"] ∧
      (processType Scripted.filer pointInSight).run broken =
        (processType Scripted.filer pointWithSecrets).run broken ∧
      (processType Scripted.filer.observed pointInSight).run (broken, []) =
        (processType Scripted.filer.observed pointWithSecrets).run (broken, []) ∧
      ShowsVisible pointWithSecrets
        ((processType Scripted.filer.observed pointWithSecrets).run (broken, [])).2.2 := by
  intro attempts broken
  have hlike : pointWithSecrets.LooksLike pointInSight := ⟨rfl, by decide, by decide⟩
  obtain ⟨outcome, events, t, calls, hrun, hobserved, hshows, hothers⟩ :=
    hidden_fields_leave_no_trace Scripted.filer pointWithSecrets broken
  obtain ⟨hrun', hobserved'⟩ := hothers pointInSight hlike
  rw [hrun, hobserved, hrun', hobserved']
  exact ⟨hlike, by decide, rfl, rfl, hshows⟩

end Processor

end ToStringGen
