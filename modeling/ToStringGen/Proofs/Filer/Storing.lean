import ToStringGen.Proofs.Filer.Opening
import ToStringGen.Proofs.Filer.Session

/-!
# Storing and discarding files that are kept

When no call goes wrong by itself, whatever is written to a file in a session or as
an artifact is kept in the end, and a discarded file is kept no more.
-/

namespace ToStringGen

open Java Java.QualifiedName
open Text (Bytes)
open Log (FilingEvent)
open Disk OnDisk

variable {σ : Type} [Volume Location (StateM σ)] [MonadStateOf (Directory Location) (StateM σ)]
  [OnDisk σ] {first : Disk} {root : Path} {base : Location}
  {files : Std.ExtTreeMap String Bytes} {typeName : String} {s t : σ}

namespace Directory

/-- Everything done with an open file succeeds, and the bytes are on the disk or held back. -/
theorem run_strokes (happend : Reliable σ .append) {output : Output Location}
    (strokes : List Stroke) (hopen : (directory s).output = some output)
    (hfile : HasFile s output.handle) :
    ∃ t taken held, ((filer : Filer (StateM σ)).strokes strokes).run s =
        (List.replicate strokes.length (.ok ()), t) ∧
      Passes s t output.handle taken held ∧
      taken ++ held = output.held ++ strokes.flatMap Stroke.bytes := by
  induction strokes generalizing s output with
  | nil =>
    refine ⟨s, [], output.held, ?_, .refl hopen, by simp⟩
    rw [Filer.strokes, run_pure]
    rfl
  | cons stroke strokes ih =>
    rcases hstroke : ((filer : Filer (StateM σ)).stroke stroke).run s with ⟨result, u⟩
    obtain ⟨taken, held, hbrings⟩ :
        ∃ taken held, Brings s u output stroke.bytes (result = .ok ()) taken held := by
      cases stroke with
      | write bytes => exact writeAll_brings hopen hstroke
      | flush =>
        obtain ⟨taken, held, hbrings, _, _⟩ := flushHeld_brings hopen hstroke
        exact ⟨taken, held, hbrings⟩
    have hok := hbrings.reliable happend hfile
    obtain ⟨v, more, kept, hrun, hpasses, hmore⟩ := ih hbrings.toPasses.output_eq
      (hbrings.toPasses.hasFile_iff.mpr hfile)
    refine ⟨v, taken ++ more, kept, ?_, hbrings.toPasses.trans hpasses, ?_⟩
    · rw [Filer.strokes, run_bind, hstroke, hok]
      simp only [run_bind, hrun, run_pure, List.length_cons, List.replicate_succ]
    · rw [List.append_assoc, hmore, List.flatMap_cons, ← List.append_assoc, ← List.append_assoc,
        hbrings.all hok]

/-- A file that was opened empty has all bytes that are on the disk or held back after it was
closed. -/
theorem close_of_passes (happend : Reliable σ .append) {u : σ} {place : Location}
    {taken held : Bytes} (hentry : Disk.entry? (disk s) place = some (.file []))
    (hpasses : Passes s t place taken held)
    (hclose : (filer : Filer (StateM σ)).close.run t = ((), u)) :
    directory u = { directory s with output := none } ∧
      disk u = (disk s).put place (.file (taken ++ held)) := by
  obtain ⟨hdirectory, passed, hdisk, _, hpassed⟩ := close_spec hpasses.output_eq hclose
  have hall := hpassed happend (hpasses.hasFile_iff.mpr ⟨[], hentry⟩)
  refine ⟨by rw [hdirectory, hpasses.directory_eq], ?_⟩
  rw [hdisk, hall, hpasses.disk_eq, append_append, append_of_file hentry, List.nil_append]

/-- An artifact whose file can be opened is written whole. -/
theorem run_writeArtifact_of_run_create (happend : Reliable σ .append) {artifact : Artifact}
    {file : OpenFile} {u : σ} {place : Location}
    (hcreate : ((filer : Filer (StateM σ)).create artifact.qualifiedName).run s = (.ok file, u))
    (houtput : (directory u).output = some { handle := place })
    (hentry : Disk.entry? (disk u) place = some (.file [])) :
    ∃ t, ((filer : Filer (StateM σ)).writeArtifact artifact).run s = ((.ok (), file.events), t) ∧
      directory t = { directory u with output := none } ∧
      disk t = (disk u).put place (.file (Text.Utf8.encode artifact.body)) := by
  rcases hwrite : ((filer : Filer (StateM σ)).writeBody artifact.body).run u with ⟨result, v⟩
  obtain ⟨taken, held, hbrings, _⟩ := writeBody_brings houtput hwrite
  have hok := hbrings.reliable happend ⟨[], hentry⟩
  rcases hclose : (filer : Filer (StateM σ)).close.run v with ⟨_, t⟩
  obtain ⟨hdirectory, hdisk⟩ := close_of_passes happend hentry hbrings.toPasses hclose
  refine ⟨t, ?_, hdirectory, ?_⟩
  · rw [Filer.writeArtifact, run_bind, hcreate]
    simp only [run_bind, hwrite, hok, hclose, run_pure]
  · rw [hdisk, hbrings.all hok, List.nil_append]

/-- An artifact is written whole where its directory is provided and its file can be created. -/
theorem run_writeArtifact_of_provides (hcalls : ∀ call, Reliable σ call) {artifact : Artifact}
    {path parent : Path} {place : Location}
    (hpath : (directory s).pathFor artifact.qualifiedName = path)
    (hparent : path.parent? = some parent)
    (hcomponents : Path.ofComponents parent.components = parent) (hne : parent.components ≠ [])
    (hprovides : (disk s).Provides parent) {opened : Disk}
    (hopens : ((disk s).makeDirectory parent).2.create path = (.ok place, opened))
    (hentry : opened.entry? place = some (.file [])) :
    ∃ t, ((filer : Filer (StateM σ)).writeArtifact artifact).run s =
        ((.ok (), [.created path]), t) ∧
      directory t = { directory s with
        written := record path (directory s).written, output := none } ∧
      disk t = opened.put place (.file (Text.Utf8.encode artifact.body)) := by
  obtain ⟨u, hparents, hudirectory, hudisk⟩ :=
    run_makeParents_of_provides (hcalls _) hparent hne (hcomponents.symm ▸ hprovides)
  rw [hcomponents] at hudisk
  obtain ⟨v, hcreate, hvdirectory, hvdisk⟩ := run_create_of_run_makeParents (hcalls _) hpath
    hparents hudirectory (by rw [hudisk, hopens])
  rw [hudisk, hopens] at hvdisk
  obtain ⟨t, hrun, hdirectory, hdisk⟩ := run_writeArtifact_of_run_create (hcalls _) hcreate
    (by rw [hvdirectory]) (by rw [hvdisk, hentry])
  exact ⟨t, hrun, by rw [hdirectory, hvdirectory], by rw [hdisk, hvdisk]⟩

/-- A session succeeds, and its bytes are kept. -/
theorem run_session (hcalls : ∀ call, Reliable σ call) (hfirst : first.LeadsToEmpty root base)
    (hname : isQualifiedIdentifier typeName = true) (hfits : Fits root typeName)
    (hroot : (directory s).root = root) (h : Keeping first base files (disk s))
    (strokes : List Stroke) :
    ∃ t, ((filer : Filer (StateM σ)).session typeName strokes).run s =
        (.ok ({ name := (root.join (sourcePath typeName)).text,
                events := [.created (root.join (sourcePath typeName))] },
            List.replicate strokes.length (.ok ())), t) ∧
      directory t = { directory s with
        written := record (root.join (sourcePath typeName)) (directory s).written
        output := none } ∧
      Keeping first base (files.insert typeName (strokes.flatMap Stroke.bytes)) (disk t) := by
  obtain ⟨u, hcreate, hudirectory, hu⟩ :=
    run_create (hcalls _) (hcalls _) hfirst hname hfits hroot h
  have hentry := hu.holds typeName [] Std.ExtTreeMap.getElem?_insert_self
  obtain ⟨v, taken, held, hstrokes, hpasses, hall⟩ :=
    run_strokes (hcalls _) strokes (by rw [hudirectory]) ⟨[], hentry⟩
  rcases hclose : (filer : Filer (StateM σ)).close.run v with ⟨_, t⟩
  obtain ⟨hdirectory, hdisk⟩ := close_of_passes (hcalls _) hentry hpasses hclose
  refine ⟨t, ?_, by rw [hdirectory, hudirectory], ?_⟩
  · rw [Filer.session, run_bind, hcreate]
    simp only [run_bind, hstrokes, hclose, run_pure]
  · rw [hdisk, hall, List.nil_append]
    exact hu.putFile_insert _

/-- Writing an artifact succeeds, and its body is kept. -/
theorem run_writeArtifact (hcalls : ∀ call, Reliable σ call)
    (hfirst : first.LeadsToEmpty root base) {artifact : Artifact}
    (hname : isQualifiedIdentifier artifact.qualifiedName = true)
    (hfits : Fits root artifact.qualifiedName) (hroot : (directory s).root = root)
    (h : Keeping first base files (disk s)) :
    ∃ t, ((filer : Filer (StateM σ)).writeArtifact artifact).run s =
        ((.ok (), [.created (root.join (sourcePath artifact.qualifiedName))]), t) ∧
      directory t = { directory s with
        written := record (root.join (sourcePath artifact.qualifiedName)) (directory s).written
        output := none } ∧
      Keeping first base
        (files.insert artifact.qualifiedName (Text.Utf8.encode artifact.body)) (disk t) := by
  obtain ⟨u, hcreate, hudirectory, hu⟩ :=
    run_create (hcalls _) (hcalls _) hfirst hname hfits hroot h
  obtain ⟨t, hrun, hdirectory, hdisk⟩ := run_writeArtifact_of_run_create (hcalls _) hcreate
    (by rw [hudirectory]) (hu.holds artifact.qualifiedName [] Std.ExtTreeMap.getElem?_insert_self)
  refine ⟨t, hrun, by rw [hdirectory, hudirectory], ?_⟩
  rw [hdisk]
  exact hu.putFile_insert _

/-- What remains of a file is removed, if there is one, and it is kept no more. -/
theorem run_discard (hcalls : ∀ call, Reliable σ call) (hfirst : first.LeadsToEmpty root base)
    (hname : isQualifiedIdentifier typeName = true) (hfits : Fits root typeName)
    (hroot : (directory s).root = root) (h : Keeping first base files (disk s)) :
    ∃ t events, ((filer : Filer (StateM σ)).discard typeName).run s = (events, t) ∧
      (events = [] ∨ events = [.removed (root.join (sourcePath typeName))]) ∧
      directory t = { directory s with
        written := forget (root.join (sourcePath typeName)) (directory s).written } ∧
      Keeping first base (files.erase typeName) (disk t) := by
  rcases hforget : (modifyThe (Directory Location) fun directory => { directory with
      written := forget (root.join (sourcePath typeName)) directory.written } :
    StateM σ Unit).run s with ⟨_, u⟩
  obtain ⟨hudirectory, hudisk⟩ := modify_spec _ _ _ _ hforget
  obtain ⟨t, hremove, hdirectory, hdisk⟩ :=
    run_remove (hcalls _) (root.join (sourcePath typeName)) u
  rw [hudisk] at hremove hdisk
  rw [hudirectory] at hdirectory
  cases hfile : files[typeName]? with
  | none =>
    rw [h.remove_of_not_mem hfirst hname hfits hfile] at hremove hdisk
    refine ⟨t, [], ?_, Or.inl rfl, hdirectory, ?_⟩
    · simp only [filer, run_bind, run_get, Directory.pathFor, hroot, hforget, hremove, run_pure]
    · rw [hdisk]
      exact h.erase_of_not_mem hfile
  | some contents =>
    rw [h.remove_of_mem hfirst hname hfits hfile] at hremove hdisk
    refine ⟨t, _, ?_, Or.inr rfl, hdirectory, ?_⟩
    · simp only [filer, run_bind, run_get, Directory.pathFor, hroot, hforget, hremove, run_pure]
    · rw [hdisk]
      exact h.erase typeName

end Directory

end ToStringGen
