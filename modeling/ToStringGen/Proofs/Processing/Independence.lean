import ToStringGen.Proofs.Filer.Locality
import ToStringGen.Proofs.Java.Name
import ToStringGen.Proofs.Processing.Run

/-!
# Declarations are processed independently

All declarations of a pass share one filer. If the filer is local, each of them still
fares as if it were alone: the others, their order and their failures make no difference
to its outcome, to what is reported about it and to what is stored for its class.
-/

namespace ToStringGen

open Log (Event)

variable {σ E S : Type}

/-- The name of the class that is generated for a declaration. -/
def TypeDeclaration.className (declaration : TypeDeclaration) : String :=
  Java.Subclass.nameOf declaration.qualifiedName

/-- What becomes of a declaration. -/
structure Fate (E : Type) where
  outcome : Outcome
  /-- What is reported about it, in order. -/
  diagnostics : List Diagnostic
  /-- What is stored for its class in the end. -/
  entry : E
  deriving DecidableEq, Repr

/-- What a pass over the declarations of a source comes to. -/
structure Pass (σ : Type) where
  report : PassReport
  /-- What is reported on the way, in order. -/
  diagnostics : List Diagnostic
  /-- The state that it leaves. -/
  final : σ

namespace Processor

/-- The fate of a declaration that is processed alone. -/
def fate (filer : Filer (StateM σ)) (entry : String → σ → E) (s : σ)
    (declaration : TypeDeclaration) : Fate E :=
  let processed := (processType filer declaration).run s
  { outcome := processed.1.1
    diagnostics := diagnosticsOf processed.1.2
    entry := entry declaration.className processed.2 }

/-- The declarations that a source hands out to a pass. -/
def handedOut [Discovery S] (processor : Processor) (source : S) : List TypeDeclaration :=
  (Discovery.find source processor.marker).1

/-- A pass from a state. -/
def pass [Discovery S] (processor : Processor) (filer : Filer (StateM σ)) (source : S) (s : σ) :
    Pass σ :=
  let passed := (processor.processPass filer source).run s
  { report := passed.1.1, diagnostics := diagnosticsOf passed.1.2.1, final := passed.2 }

/-- What processing declarations one after the other comes to. -/
def passOf (processed : (List Outcome × List Event) × σ) : Pass σ where
  report := { outcomes := processed.1.1 }
  diagnostics := diagnosticsOf processed.1.2
  final := processed.2

/-- Every declaration of a pass has the fate that it has alone, and nothing else is stored. -/
structure Separately (filer : Filer (StateM σ)) (entry : String → σ → E)
    (declarations : List TypeDeclaration) (s : σ) (pass : Pass σ) : Prop where
  outcomes_eq : pass.report.outcomes =
    declarations.map fun declaration => (fate filer entry s declaration).outcome
  diagnostics_eq : pass.diagnostics =
    declarations.flatMap fun declaration => (fate filer entry s declaration).diagnostics
  entry_eq : ∀ declaration ∈ declarations,
    entry declaration.className pass.final = (fate filer entry s declaration).entry
  untouched : ∀ typeName, (∀ declaration ∈ declarations, declaration.className ≠ typeName) →
    entry typeName pass.final = entry typeName s

variable {filer : Filer (StateM σ)} {entry : String → σ → E} {alike : String → σ → σ → Prop}
variable {declaration : TypeDeclaration} {declarations : List TypeDeclaration} {s t : σ}

/-- With a local filer, processing a declaration depends on what is stored for its class, and
changes nothing else. -/
theorem processType_localTo (hlocal : filer.IsLocal entry alike) (declaration : TypeDeclaration) :
    LocalTo entry declaration.className (SameEntry entry declaration.className)
      (fun _ => SameEntry entry declaration.className) (processType filer declaration) := by
  refine processType_cases filer declaration (fun _ => ?_) (fun _ _ => ?_) fun _ _ => ?_
  · exact .pure fun _ _ hsame => hsame
  · exact .pure fun _ _ hsame => hsame
  · exact (hlocal.writeArtifact declaration.classArtifact).bind fun _ =>
      .pure fun _ _ hsame => hsame

/-- The fate of a declaration depends on what is stored for its class. -/
theorem fate_congr (hlocal : filer.IsLocal entry alike)
    (hsame : entry declaration.className s = entry declaration.className t) :
    fate filer entry s declaration = fate filer entry t declaration := by
  obtain ⟨hresult, hentry, _⟩ := processType_localTo hlocal declaration s t hsame
  simp only [fate, hresult, Fate.mk.injEq, true_and]
  exact hentry

/-- The outcome of a declaration names it. -/
theorem typeName_fate (filer : Filer (StateM σ)) (entry : String → σ → E) (s : σ)
    (declaration : TypeDeclaration) :
    (fate filer entry s declaration).outcome.typeName = declaration.qualifiedName := by
  refine processType_cases filer declaration
    (motive := fun action => (action.run s).1.1.typeName = declaration.qualifiedName)
    (fun _ => rfl) (fun _ _ => rfl) fun _ _ => ?_
  rw [run_bind]
  rcases ((filer.writeArtifact declaration.classArtifact).run s).1 with ⟨_ | _, _⟩ <;> rfl

/-- Declarations of different names that are processed one after the other have the fates that
they have alone. -/
theorem processAll_separately (hlocal : filer.IsLocal entry alike)
    (hnames : (declarations.map TypeDeclaration.qualifiedName).Nodup) (s : σ) :
    Separately filer entry declarations s
      (passOf ((processAll filer declarations).run s)) := by
  induction declarations generalizing s with
  | nil => exact ⟨rfl, rfl, by simp, fun _ _ => rfl⟩
  | cons declaration rest ih =>
    rw [List.map_cons, List.nodup_cons] at hnames
    obtain ⟨hnew, hnames⟩ := hnames
    have hdiffers : ∀ other ∈ rest, other.className ≠ declaration.className := by
      intro other hmem hclass
      have hname := Java.Subclass.nameOf_injective hclass
      exact hnew (hname ▸ List.mem_map_of_mem hmem)
    -- The first declaration leaves what is stored for the classes of the others as it was.
    set u := ((processType filer declaration).run s).2
    obtain ⟨_, _, hothers⟩ := processType_localTo hlocal declaration s s rfl
    have hfates : ∀ other ∈ rest, fate filer entry u other = fate filer entry s other :=
      fun other hmem => fate_congr hlocal (hothers _ (hdiffers other hmem))
    obtain ⟨houtcomes, hdiagnostics, hentries, huntouched⟩ := ih hnames u
    rw [processAll]
    simp only [run_bind, run_pure]
    refine ⟨?_, ?_, fun other hmem => ?_, fun typeName hne => ?_⟩
    · have hrest : ((processAll filer rest).run u).1.1 =
          rest.map fun other => (fate filer entry s other).outcome :=
        houtcomes.trans
          (List.map_congr_left fun other hmem => congrArg Fate.outcome (hfates other hmem))
      rw [List.map_cons, ← hrest]
      rfl
    · have hrest : diagnosticsOf ((processAll filer rest).run u).1.2 =
          rest.flatMap fun other => (fate filer entry s other).diagnostics :=
        hdiagnostics.trans
          (List.flatMap_congr fun other hmem => congrArg Fate.diagnostics (hfates other hmem))
      rw [List.flatMap_cons, ← hrest]
      exact diagnosticsOf_append ..
    · rcases List.mem_cons.mp hmem with rfl | hmem
      · exact huntouched _ hdiffers
      · exact (hentries other hmem).trans (congrArg Fate.entry (hfates other hmem))
    · obtain ⟨hfirst, hrest⟩ := List.forall_mem_cons.mp hne
      exact (huntouched typeName hrest).trans (hothers typeName (Ne.symm hfirst))

/-- A pass does to the declarations handed out what is done to them one after the other. -/
theorem pass_eq [Discovery S] (processor : Processor) (filer : Filer (StateM σ)) (source : S)
    (s : σ) :
    processor.pass filer source s =
      passOf ((processAll filer (processor.handedOut source)).run s) := by
  simp only [pass, processPass, run_bind, run_pure, handedOut]
  rw [diagnosticsOf_append, diagnosticsOf_closing, List.append_nil]
  rfl

/-- Among declarations of different names each is found by its own. -/
theorem find?_name_eq_some (hnames : (declarations.map TypeDeclaration.qualifiedName).Nodup)
    (hmem : declaration ∈ declarations) :
    declarations.find? (fun other => other.qualifiedName == declaration.qualifiedName) =
      some declaration := by
  induction declarations with
  | nil => cases hmem
  | cons first rest ih =>
    rw [List.map_cons, List.nodup_cons] at hnames
    obtain ⟨hnew, hnames⟩ := hnames
    rcases List.mem_cons.mp hmem with rfl | hmem
    · exact List.find?_cons_of_pos (beq_self_eq_true _)
    · have hne : first.qualifiedName ≠ declaration.qualifiedName := fun heq =>
        hnew (heq ▸ List.mem_map_of_mem hmem)
      rw [List.find?_cons_of_neg (by simpa using hne)]
      exact ih hnames hmem

/-- The outcome that a report has for a declaration of a pass is that of the declaration. -/
theorem Separately.outcome?_eq {pass : Pass σ} (h : Separately filer entry declarations s pass)
    (hnames : (declarations.map TypeDeclaration.qualifiedName).Nodup)
    (hmem : declaration ∈ declarations) :
    pass.report.outcome? declaration.qualifiedName =
      some (fate filer entry s declaration).outcome := by
  rw [PassReport.outcome?, h.outcomes_eq, List.find?_map]
  have hfind : declarations.find? ((fun outcome => outcome.typeName == declaration.qualifiedName) ∘
      fun declaration => (fate filer entry s declaration).outcome) = some declaration := by
    simp only [Function.comp_def, typeName_fate]
    exact find?_name_eq_some hnames hmem
  rw [hfind, Option.map_some]

/-- A declaration fares in two passes alike: whatever else they process, the same becomes of it,
is reported about it and is stored for its class. -/
structure FaresAlike (filer : Filer (StateM σ)) (entry : String → σ → E)
    (declaration : TypeDeclaration) (s : σ) (pass : Pass σ) (t : σ) (other : Pass σ) : Prop where
  fate_eq : fate filer entry s declaration = fate filer entry t declaration
  outcome_eq : pass.report.outcome? declaration.qualifiedName =
    other.report.outcome? declaration.qualifiedName
  outcome_isSome : (pass.report.outcome? declaration.qualifiedName).isSome = true
  entry_eq : entry declaration.className pass.final = entry declaration.className other.final

/-- Two passes differ in their order at most. -/
structure AlikeUpToOrder (entry : String → σ → E) (pass other : Pass σ) : Prop where
  outcomes_perm : pass.report.outcomes.Perm other.report.outcomes
  diagnostics_perm : pass.diagnostics.Perm other.diagnostics
  entry_eq : ∀ typeName, entry typeName pass.final = entry typeName other.final

/-- A declaration of two passes fares in them alike if the same was stored for its class. -/
theorem Separately.faresAlike {pass other : Pass σ} {others : List TypeDeclaration}
    (hlocal : filer.IsLocal entry alike)
    (h : Separately filer entry declarations s pass)
    (hnames : (declarations.map TypeDeclaration.qualifiedName).Nodup)
    (hmem : declaration ∈ declarations)
    (hother : Separately filer entry others t other)
    (hothers : (others.map TypeDeclaration.qualifiedName).Nodup) (hmem' : declaration ∈ others)
    (hsame : entry declaration.className s = entry declaration.className t) :
    FaresAlike filer entry declaration s pass t other := by
  have hfate : fate filer entry s declaration = fate filer entry t declaration :=
    fate_congr hlocal hsame
  have houtcome := h.outcome?_eq hnames hmem
  refine ⟨hfate, ?_, ?_, ?_⟩
  · rw [houtcome, hother.outcome?_eq hothers hmem', hfate]
  · rw [houtcome, Option.isSome_some]
  · rw [h.entry_eq declaration hmem, hother.entry_eq declaration hmem', hfate]

/-- The order of the declarations is only that of the outcomes and of the diagnostics. -/
theorem Separately.alikeUpToOrder {pass other : Pass σ} {others : List TypeDeclaration}
    (h : Separately filer entry declarations s pass)
    (hother : Separately filer entry others s other) (hperm : declarations.Perm others) :
    AlikeUpToOrder entry pass other := by
  refine ⟨?_, ?_, fun typeName => ?_⟩
  · rw [h.outcomes_eq, hother.outcomes_eq]
    exact hperm.map _
  · rw [h.diagnostics_eq, hother.diagnostics_eq]
    exact hperm.flatMap_right _
  · by_cases hclass : ∃ declaration ∈ declarations, declaration.className = typeName
    · obtain ⟨declaration, hmem, rfl⟩ := hclass
      rw [h.entry_eq declaration hmem, hother.entry_eq declaration (hperm.mem_iff.mp hmem)]
    · simp only [not_exists, not_and] at hclass
      rw [h.untouched typeName hclass,
        hother.untouched typeName fun declaration hmem =>
          hclass declaration (hperm.mem_iff.mpr hmem)]

/-- Declarations are processed independently of each other and of their order, whichever of them
are refused, fail or are left out. In a pass over declarations of different names every one has
the fate that it has alone. It fares alike in any other pass that it is part of, as long as the
same was stored for its class before. In another order the same pass leaves the same files, and
its outcomes and diagnostics in that order. -/
theorem pass_isIndependent [Discovery S] (processor : Processor)
    (hlocal : filer.IsLocal entry alike) (source : S)
    (hnames : ((processor.handedOut source).map TypeDeclaration.qualifiedName).Nodup) (s : σ) :
    Separately filer entry (processor.handedOut source) s (processor.pass filer source s) ∧
    (∀ (other : S) (t : σ),
      ((processor.handedOut other).map TypeDeclaration.qualifiedName).Nodup →
      ∀ declaration ∈ processor.handedOut source, declaration ∈ processor.handedOut other →
        entry declaration.className s = entry declaration.className t →
          FaresAlike filer entry declaration s (processor.pass filer source s)
            t (processor.pass filer other t)) ∧
    (∀ other : S, (processor.handedOut source).Perm (processor.handedOut other) →
      Separately filer entry (processor.handedOut other) s (processor.pass filer other s) ∧
      AlikeUpToOrder entry (processor.pass filer source s) (processor.pass filer other s)) := by
  have hpass : ∀ (source : S) (s : σ),
      ((processor.handedOut source).map TypeDeclaration.qualifiedName).Nodup →
        Separately filer entry (processor.handedOut source) s (processor.pass filer source s) := by
    intro source s hnames
    rw [pass_eq]
    exact processAll_separately hlocal hnames s
  refine ⟨hpass source s hnames, fun other t hothers declaration hmem hmem' hsame => ?_,
    fun other hperm => ?_⟩
  · exact (hpass source s hnames).faresAlike hlocal hnames hmem (hpass other t hothers) hothers
      hmem' hsame
  · have hothers := (hperm.map TypeDeclaration.qualifiedName).nodup_iff.mp hnames
    exact ⟨hpass other s hothers, (hpass source s hnames).alikeUpToOrder (hpass other s hothers)
      hperm⟩

/-- A class with a field to show. -/
def circle : TypeDeclaration :=
  { qualifiedName := "geo.Circle", annotations := [defaultMarker], fields := [{ name := "r" }] }

/-- Classes that fare differently with `brokenTwice`. -/
def shapes : List TypeDeclaration :=
  [{ qualifiedName := "geo.Point", annotations := [defaultMarker], fields := [{ name := "x" }] },
   circle,
   { qualifiedName := "geo.Line", annotations := [defaultMarker], fields := [{ name := "to" }] },
   { qualifiedName := "geo.Shape", annotations := [defaultMarker], methods := ["toString"] }]

/-- One class cannot be written beyond its third byte, and the file of another is refused. -/
def brokenTwice : Scripted where
  script :=
    { refused := [("geo.LineWithToString", "read-only")]
      writes := [("geo.PointWithToString", { attempts := [.accept 3, .interrupt, .fail "full"] })] }

/-- A class between others that cannot be written fares as it does alone where all is well, and
the classes may as well come in the reverse order. -/
theorem pass_isIndependent_brokenTwice :
    let processor : Processor := {}
    let pool := Pool.ofList shapes
    let alone := Pool.ofList [circle]
    let reversed := Pool.ofList shapes.reverse
    ((processor.handedOut pool).map TypeDeclaration.qualifiedName).Nodup ∧
      ((processor.handedOut alone).map TypeDeclaration.qualifiedName).Nodup ∧
      circle ∈ processor.handedOut pool ∧ circle ∈ processor.handedOut alone ∧
      Scripted.share circle.className brokenTwice = Scripted.share circle.className {} ∧
      (processor.handedOut pool).Perm (processor.handedOut reversed) ∧
      Separately Scripted.filer Scripted.share (processor.handedOut pool) brokenTwice
        (processor.pass Scripted.filer pool brokenTwice) ∧
      FaresAlike Scripted.filer Scripted.share circle
        brokenTwice (processor.pass Scripted.filer pool brokenTwice)
        {} (processor.pass Scripted.filer alone {}) ∧
      AlikeUpToOrder Scripted.share (processor.pass Scripted.filer pool brokenTwice)
        (processor.pass Scripted.filer reversed brokenTwice) ∧
      Separately Memory.filer Memory.entry (processor.handedOut pool) {}
        (processor.pass Memory.filer pool {}) := by
  intro processor pool alone reversed
  have hpool : processor.handedOut pool = shapes := by decide +kernel
  have halone : processor.handedOut alone = [circle] := by decide +kernel
  have hreversed : processor.handedOut reversed = shapes.reverse := by decide +kernel
  have hnames : ((processor.handedOut pool).map TypeDeclaration.qualifiedName).Nodup := by
    rw [hpool]
    decide +kernel
  have hnamesAlone : ((processor.handedOut alone).map TypeDeclaration.qualifiedName).Nodup := by
    rw [halone]
    decide +kernel
  have hmem : circle ∈ processor.handedOut pool := by simp [hpool, shapes]
  have hmemAlone : circle ∈ processor.handedOut alone := by simp [halone]
  have hshare : Scripted.share circle.className brokenTwice =
      Scripted.share circle.className {} := by decide +kernel
  have hperm : (processor.handedOut pool).Perm (processor.handedOut reversed) := by
    rw [hpool, hreversed]
    exact (List.reverse_perm shapes).symm
  obtain ⟨hseparately, hfares, horder⟩ :=
    pass_isIndependent processor Scripted.isLocal pool hnames brokenTwice
  exact ⟨hnames, hnamesAlone, hmem, hmemAlone, hshare, hperm, hseparately,
    hfares alone {} hnamesAlone circle hmem hmemAlone hshare, (horder reversed hperm).2,
    (pass_isIndependent processor Memory.isLocal pool hnames {}).1⟩

end Processor

end ToStringGen
