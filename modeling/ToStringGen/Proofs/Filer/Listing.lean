import ToStringGen.Proofs.Filer.Filing
import ToStringGen.Proofs.Filer.Register

/-!
# What the list of written files tells

An output directory is asked to write artifacts and to discard files, under any names
and with anything going wrong. A path is put on the list of written files when the file
is created, before its body is written, and is taken off by every discarding. After any
requests the list has the paths that were written whole and not dropped since, each
once, in the order of their first creation.
-/

namespace ToStringGen

open Java.QualifiedName
open Log (FilingEvent)
open OnDisk

/-- What an output directory can be asked for. -/
inductive Request where
  | write (artifact : Artifact)
  | discard (typeName : String)
  deriving DecidableEq, Repr

/-- What was done at a request, and what came of it. -/
inductive Deed where
  | wrote (artifact : Artifact) (result : Except GenerationError Unit)
  | discarded (typeName : String) (events : List FilingEvent)

namespace Deed

/-- The type whose file a deed is about. -/
def typeName : Deed → String
  | wrote artifact _ => artifact.qualifiedName
  | discarded typeName _ => typeName

/-- The path that a deed is about. -/
def path (root : Path) (deed : Deed) : Path :=
  root.join (sourcePath deed.typeName)

/-- Whether the file could not even be created. -/
def refused : Deed → Bool
  | wrote _ (.error (.create _ _)) => true
  | _ => false

/-- Whether the file was written whole. -/
def succeeded : Deed → Bool
  | wrote _ (.ok ()) => true
  | _ => false

/-- The deeds that were not refused, the latest of them first. -/
def latestFirst (deeds : List Deed) : List Deed :=
  (deeds.filter fun deed => !deed.refused).reverse

/-- Deeds make entries under the components of their paths. One that was not refused strikes its
entry out, unless the file was written whole. -/
def register (root : Path) : Register Deed (List Path.Component) where
  key deed := (deed.path root).components
  strikes deed := !deed.succeeded

/-- The key of a deed. -/
theorem register_key (root : Path) (deed : Deed) :
    (register root).key deed = (deed.path root).components := by
  simp only [register]

/-- A write is about the path of its artifact. -/
theorem path_wrote (root : Path) (artifact : Artifact) (result : Except GenerationError Unit) :
    (wrote artifact result).path root = root.join (sourcePath artifact.qualifiedName) := rfl

/-- A discarding is about the path of its type. -/
theorem path_discarded (root : Path) (typeName : String) (events : List FilingEvent) :
    (discarded typeName events).path root = root.join (sourcePath typeName) := rfl

end Deed

namespace Directory

section Serving

variable {m : Type → Type} [Monad m] {Handle : Type} [Volume Handle m]
  [MonadStateOf (Directory Handle) m]

/-- Does what is requested. -/
def serve : Request → m Deed
  | .write artifact => do
      let (result, _) ← filer.writeArtifact artifact
      return .wrote artifact result
  | .discard typeName => do
      let events ← filer.discard typeName
      return .discarded typeName events

/-- Serves one request after the other, whatever comes of them. -/
def serveAll : List Request → m (List Deed)
  | [] => return []
  | request :: rest => do
      let deed ← serve request
      let deeds ← serveAll rest
      return deed :: deeds

/-- Serves requests below a root, with nothing written at first. -/
def serveBelow (root : Path) (requests : List Request) : m (List Deed) := do
  set ({ root } : Directory Handle)
  serveAll requests

end Serving

/-- The list of written files tells what deeds have left below a root. Paths with the same
components are the same file. -/
structure IsAccurate (root : Path) (deeds : List Deed) (listed : List Path) : Prop where
  distinct : listed.Pairwise fun path other => path.components ≠ other.components
  /-- A path is listed if the last deed about it that was not refused wrote it whole. -/
  listed_iff : ∀ path : Path, (∃ other ∈ listed, other.components = path.components) ↔
    ∃ artifact, (Deed.latestFirst deeds).find?
        (fun deed => (deed.path root).components = path.components) =
      some (.wrote artifact (.ok ()))
  /-- Of two listed paths, the one that was created first since it was last dropped comes
  first. -/
  ordered : listed.Pairwise fun path other =>
    (Deed.register root).EnteredBefore (Deed.latestFirst deeds) path.components other.components

/-- What one more deed does to the list of written files: nothing when it was refused, and when it
discards a path, this path is taken off, however the removal of the file came out. -/
structure Relists (root : Path) (deed : Deed) (before after : List Path) : Prop where
  of_refused : deed.refused = true → after = before
  of_discarded : ∀ typeName events, deed = .discarded typeName events →
    after = before.filter fun path =>
      path.components ≠ (root.join (sourcePath typeName)).components

/-- The four ways in which a deed can change the list of written files. -/
inductive Change (root : Path) (listed : List Path) : Deed → List Path → Prop
  | notCreated (artifact : Artifact) (fault : Fault) :
      Change root listed
        (.wrote artifact (.error (.create artifact.qualifiedName fault))) listed
  | written (artifact : Artifact) :
      Change root listed (.wrote artifact (.ok ()))
        (record (root.join (sourcePath artifact.qualifiedName)) listed)
  | dropped (artifact : Artifact) (file : String) (fault : Fault) :
      Change root listed (.wrote artifact (.error (.write file fault)))
        (forget (root.join (sourcePath artifact.qualifiedName)) listed)
  | discarded (typeName : String) (events : List FilingEvent) :
      Change root listed (.discarded typeName events)
        (forget (root.join (sourcePath typeName)) listed)

section Lists

variable {root path : Path} {listed after : List Path} {deeds : List Deed} {deed : Deed}

/-- To record a path that is there already changes nothing. -/
theorem record_of_mem (h : path.components ∈ listed.map Path.components) :
    record path listed = listed := by
  obtain ⟨other, hmem, heq⟩ := List.mem_map.mp h
  rw [record, if_pos]
  exact List.any_eq_true.mpr ⟨other, hmem, beq_iff_eq.mpr heq⟩

/-- A path that is not there is recorded at the end. -/
theorem record_of_not_mem (h : path.components ∉ listed.map Path.components) :
    record path listed = listed ++ [path] := by
  rw [record, if_neg]
  intro hany
  obtain ⟨other, hmem, heq⟩ := List.any_eq_true.mp hany
  exact h (List.mem_map.mpr ⟨other, hmem, beq_iff_eq.mp heq⟩)

/-- A path that is forgotten takes its components with it. -/
theorem map_components_forget (path : Path) (listed : List Path) :
    (forget path listed).map Path.components =
      (listed.map Path.components).filter fun components =>
        !decide (components = path.components) := by
  rw [forget, List.filter_map]
  refine congrArg (List.map _) (List.filter_congr fun other _ => ?_)
  rw [Bool.eq_iff_iff, bne_iff_ne]
  simp

/-- To record a path and to forget it leaves it forgotten. -/
theorem forget_record (path : Path) (listed : List Path) :
    forget path (record path listed) = forget path listed := by
  rw [record]
  split
  · rfl
  · rw [forget, List.filter_append]
    simp [forget]

/-- A refused deed adds nothing to the history. -/
theorem latestFirst_concat_of_refused (h : deed.refused = true) :
    Deed.latestFirst (deeds ++ [deed]) = Deed.latestFirst deeds := by
  rw [Deed.latestFirst, List.filter_append]
  simp [h, Deed.latestFirst]

/-- A deed that was not refused is the latest of the history. -/
theorem latestFirst_concat (h : deed.refused = false) :
    Deed.latestFirst (deeds ++ [deed]) = deed :: Deed.latestFirst deeds := by
  rw [Deed.latestFirst, List.filter_append]
  simp [h, Deed.latestFirst]

namespace Change

/-- The components of the listed paths are the entries of a register. -/
theorem lists (h : Change root listed deed after)
    (hlists : (Deed.register root).Lists (Deed.latestFirst deeds) (listed.map Path.components)) :
    (Deed.register root).Lists (Deed.latestFirst (deeds ++ [deed]))
      (after.map Path.components) := by
  cases h with
  | notCreated artifact fault =>
    rw [latestFirst_concat_of_refused rfl]
    exact hlists
  | written artifact =>
    have hkept : (Deed.register root).strikes (.wrote artifact (.ok ())) = false := rfl
    rw [latestFirst_concat rfl]
    by_cases hmem : (Deed.register root).key (.wrote artifact (.ok ())) ∈
      listed.map Path.components
    · have hsame := hlists.enter_of_mem hkept hmem
      rw [Deed.register_key, Deed.path_wrote] at hmem
      rw [record_of_mem hmem]
      exact hsame
    · have hmore := hlists.enter_of_not_mem hkept hmem
      rw [Deed.register_key, Deed.path_wrote] at hmem hmore
      rw [record_of_not_mem hmem, List.map_append]
      exact hmore
  | dropped artifact file fault =>
    have hstruck : (Deed.register root).strikes
      (.wrote artifact (.error (.write file fault))) = true := rfl
    have hless := hlists.strike hstruck
    rw [Deed.register_key, Deed.path_wrote] at hless
    rw [latestFirst_concat rfl, map_components_forget]
    exact hless
  | discarded typeName events =>
    have hstruck : (Deed.register root).strikes (.discarded typeName events) = true := rfl
    have hless := hlists.strike hstruck
    rw [Deed.register_key, Deed.path_discarded] at hless
    rw [latestFirst_concat rfl, map_components_forget]
    exact hless

/-- A refused deed leaves the list as it was, and a discarding takes its path off. -/
theorem relists (h : Change root listed deed after) : Relists root deed listed after := by
  constructor
  · intro hrefused
    cases h with
    | notCreated artifact fault => rfl
    | written artifact => exact absurd hrefused Bool.false_ne_true
    | dropped artifact file fault => exact absurd hrefused Bool.false_ne_true
    | discarded typeName events => exact absurd hrefused Bool.false_ne_true
  · rintro typeName events rfl
    cases h with
    | discarded =>
      refine List.filter_congr fun path _ => ?_
      rw [Bool.eq_iff_iff, bne_iff_ne, decide_eq_true_iff]

end Change

/-- A list whose paths are the entries of the register is accurate. -/
theorem isAccurate_of_lists
    (h : (Deed.register root).Lists (Deed.latestFirst deeds) (listed.map Path.components)) :
    IsAccurate root deeds listed := by
  constructor
  · exact List.pairwise_map.mp h.nodup
  · intro path
    have hmem := h.mem_iff path.components
    rw [List.mem_map, Register.enteredAt_ne_none_iff] at hmem
    simp only [Deed.register_key] at hmem
    rw [hmem]
    constructor
    · rintro ⟨deed, hfind, hstrikes⟩
      -- Of all deeds only a write that succeeded strikes nothing out.
      cases deed with
      | wrote artifact result =>
        cases result with
        | ok => exact ⟨artifact, hfind⟩
        | error failure => exact absurd hstrikes.symm Bool.false_ne_true
      | discarded typeName events => exact absurd hstrikes.symm Bool.false_ne_true
    · rintro ⟨artifact, hfind⟩
      exact ⟨_, hfind, rfl⟩
  · exact List.pairwise_map.mp h.sorted

end Lists

section Disk

variable {σ : Type} [Volume Location (StateM σ)] [MonadStateOf (Directory Location) (StateM σ)]
  [OnDisk σ] {s t : σ}

/-- Writing an artifact lists its path when the file is created, and a body that cannot be written
takes it off again. -/
theorem writeArtifact_change {artifact : Artifact}
    {r : Except GenerationError Unit × List FilingEvent}
    (h : ((filer : Filer (StateM σ)).writeArtifact artifact).run s = (r, t)) :
    (directory t).root = (directory s).root ∧
      Change (directory s).root (directory s).written (.wrote artifact r.1)
        (directory t).written := by
  rw [Filer.writeArtifact, run_bind] at h
  rcases hcreate : ((filer : Filer (StateM σ)).create artifact.qualifiedName).run s with
    ⟨created, u⟩
  have hanything : FilingPreserves ((directory s).pathFor artifact.qualifiedName)
      fun _ => True := by
    constructor <;> intros <;> trivial
  obtain ⟨_, hcreated⟩ := create_spec hanything trivial hcreate
  rw [hcreate] at h
  rcases hcreated with ⟨⟨fault, rfl⟩, hudirectory⟩ | ⟨place, entry, rfl, hudirectory, _, _⟩
  · simp only [run_pure] at h
    obtain ⟨rfl, rfl⟩ := h
    rw [hudirectory]
    exact ⟨rfl, .notCreated artifact fault⟩
  simp only [run_bind] at h
  rcases hwrite : ((filer : Filer (StateM σ)).writeBody artifact.body).run u with ⟨wrote, v⟩
  obtain ⟨taken, held, hbrings, _⟩ := writeBody_brings (by rw [hudirectory]) hwrite
  rw [hwrite] at h
  rcases hclose : (filer : Filer (StateM σ)).close.run v with ⟨_, w⟩
  obtain ⟨hwdirectory, _⟩ := close_spec hbrings.toPasses.output_eq hclose
  rw [hbrings.directory_eq, hudirectory] at hwdirectory
  cases wrote with
  | ok =>
    simp only [run_bind, run_pure, hclose] at h
    obtain ⟨rfl, rfl⟩ := h
    rw [hwdirectory]
    exact ⟨rfl, .written artifact⟩
  | error fault =>
    simp only [run_bind, run_pure, hclose] at h
    rcases hdiscard : ((filer : Filer (StateM σ)).discard artifact.qualifiedName).run w with
      ⟨events, x⟩
    rw [hdiscard] at h
    obtain ⟨rfl, rfl⟩ := h
    rw [directory_discard hdiscard, hwdirectory]
    refine ⟨rfl, ?_⟩
    have hforget := forget_record ((directory s).pathFor artifact.qualifiedName)
      (directory s).written
    exact hforget ▸ .dropped artifact _ fault

/-- Serving a request changes the list in one of the four ways. -/
theorem serve_change {request : Request} {deed : Deed}
    (h : (serve request : StateM σ Deed).run s = (deed, t)) :
    (directory t).root = (directory s).root ∧
      Change (directory s).root (directory s).written deed (directory t).written := by
  cases request with
  | write artifact =>
    rcases hwrite : ((filer : Filer (StateM σ)).writeArtifact artifact).run s with ⟨r, u⟩
    rw [serve, run_bind, hwrite] at h
    obtain ⟨rfl, rfl⟩ := h
    exact writeArtifact_change hwrite
  | discard typeName =>
    rcases hdiscard : ((filer : Filer (StateM σ)).discard typeName).run s with ⟨events, u⟩
    rw [serve, run_bind, hdiscard] at h
    obtain ⟨rfl, rfl⟩ := h
    rw [directory_discard hdiscard]
    exact ⟨rfl, .discarded typeName events⟩

/-- Serving requests adds its deeds to those before, and the register keeps up with them. -/
theorem serveAll_lists {root : Path} {before deeds : List Deed} {requests : List Request}
    (hroot : (directory s).root = root)
    (hlists : (Deed.register root).Lists (Deed.latestFirst before)
      ((directory s).written.map Path.components))
    (h : (serveAll requests : StateM σ (List Deed)).run s = (deeds, t)) :
    (directory t).root = root ∧
      (Deed.register root).Lists (Deed.latestFirst (before ++ deeds))
        ((directory t).written.map Path.components) := by
  induction requests generalizing s before deeds with
  | nil =>
    rw [serveAll, run_pure] at h
    obtain ⟨rfl, rfl⟩ := h
    rw [List.append_nil]
    exact ⟨hroot, hlists⟩
  | cons request rest ih =>
    rcases hserve : (serve request : StateM σ Deed).run s with ⟨deed, u⟩
    rcases hrest : (serveAll rest : StateM σ (List Deed)).run u with ⟨others, v⟩
    rw [serveAll, run_bind, hserve] at h
    simp only [run_bind, hrest, run_pure] at h
    obtain ⟨rfl, rfl⟩ := h
    obtain ⟨huroot, hchange⟩ := serve_change hserve
    rw [hroot] at huroot hchange
    have hnext := ih huroot (hchange.lists hlists) hrest
    rw [List.append_assoc] at hnext
    exact hnext

/-- Whatever an output directory was asked for, and whatever went wrong, its list of written files
is accurate, and stays so at each further request. -/
theorem written_isAccurate (root : Path) (requests : List Request) (s : σ) :
    let served := (serveBelow root requests : StateM σ (List Deed)).run s
    IsAccurate root served.1 (directory served.2).written ∧
      ∀ request, let next := (serve request : StateM σ Deed).run served.2
        Relists root next.1 (directory served.2).written (directory next.2).written := by
  intro served
  rcases hset : (set ({ root } : Directory Location) : StateM σ PUnit).run s with ⟨_, u⟩
  obtain ⟨hudirectory, _⟩ := set_spec _ _ _ _ hset
  have hserved : (serveAll requests : StateM σ (List Deed)).run u = (served.1, served.2) := by
    change _ = (serveBelow root requests : StateM σ (List Deed)).run s
    rw [serveBelow, run_bind, hset]
  have hnothing : (Deed.register root).Lists (Deed.latestFirst [])
      ((directory u).written.map Path.components) := by
    rw [hudirectory]
    exact .nil
  obtain ⟨hroot, hlists⟩ := serveAll_lists (by rw [hudirectory]) hnothing hserved
  refine ⟨isAccurate_of_lists hlists, fun request => ?_⟩
  rcases hserve : (serve request : StateM σ Deed).run served.2 with ⟨deed, t⟩
  obtain ⟨_, hchange⟩ := serve_change hserve
  rw [hroot] at hchange
  exact hchange.relists

end Disk

end Directory

end ToStringGen
