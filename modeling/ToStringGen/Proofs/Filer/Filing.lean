import ToStringGen.Proofs.Filer.Invariant
import ToStringGen.Proofs.Text.Utf8

/-!
# Filing one artifact

An artifact that is written whole is all that the file at its path holds. When its
file was created but could not be written, nothing is left at the path and the path
is not listed; when it could not be created, the list stays as it was.
-/

namespace ToStringGen.Directory

open Text (Bytes)
open Log (FilingEvent)
open OnDisk

variable {σ : Type} [Volume Location (StateM σ)] [MonadStateOf (Directory Location) (StateM σ)]
  [OnDisk σ] {s t : σ} {P : Disk → Prop} {typeName : String}

/-- Opening a path makes the directories above it and then the file. A failure leaves at most
directories. -/
theorem openFile_spec {path : Path} {r : Except Fault Location} (hP : FilingPreserves path P)
    (hs : P (disk s)) (h : (openFile path : StateM σ (Except Fault Location)).run s = (r, t)) :
    P (disk t) ∧ directory t = directory s ∧
      ∀ place, r = .ok place → ∃ entry,
        (disk t).locate true path = .ok (.occupied place entry) ∧
        (entry = .file [] ∨ entry = .full) := by
  simp only [openFile, run_bind] at h
  rcases hparents : (Volume.makeParents path : StateM σ (Except Fault Unit)).run s with ⟨made, u⟩
  have hpreserved := Preserves.makeParents hP s hs
  rw [hparents] at hpreserved h
  obtain ⟨hu, hudirectory⟩ := hpreserved
  cases made with
  | error fault =>
    simp only [run_pure] at h
    obtain ⟨rfl, rfl⟩ := h
    exact ⟨hu, hudirectory, by rintro place ⟨⟩⟩
  | ok =>
    simp only at h
    obtain ⟨htdirectory, hdisk⟩ := OnDisk.create_spec _ _ _ _ h
    rw [hudirectory] at htdirectory
    rcases hdisk with ⟨hresult, heq⟩ | ⟨_, ⟨fault, rfl⟩, heq⟩
    · refine ⟨heq ▸ hP.create _ hu, htdirectory, ?_⟩
      rintro place rfl
      rw [heq]
      exact Disk.locate_of_create hresult.symm
    · exact ⟨heq ▸ hu, htdirectory, by rintro place ⟨⟩⟩

/-- Opening the file of a type either fails and only makes directories, or leaves an empty file,
or the device without room, at its path. -/
theorem create_spec {r : Except GenerationError OpenFile}
    (hP : FilingPreserves ((directory s).pathFor typeName) P) (hs : P (disk s))
    (h : ((filer : Filer (StateM σ)).create typeName).run s = (r, t)) :
    P (disk t) ∧
      ((∃ fault, r = .error (.create typeName fault)) ∧ directory t = directory s ∨
        ∃ place entry,
          r = .ok { name := ((directory s).pathFor typeName).text,
                    events := [.created ((directory s).pathFor typeName)] } ∧
          directory t = { directory s with
            written := record ((directory s).pathFor typeName) (directory s).written
            output := some { handle := place } } ∧
          (disk t).locate true ((directory s).pathFor typeName) =
            .ok (.occupied place entry) ∧
          (entry = .file [] ∨ entry = .full)) := by
  simp only [filer, run_bind, run_get] at h
  rcases hopen : (openFile ((directory s).pathFor typeName) :
    StateM σ (Except Fault Location)).run s with ⟨result, u⟩
  rw [hopen] at h
  obtain ⟨hu, hudirectory, hopened⟩ := openFile_spec hP hs hopen
  cases result with
  | error fault =>
    simp only [run_pure] at h
    obtain ⟨rfl, rfl⟩ := h
    exact ⟨hu, Or.inl ⟨⟨fault, rfl⟩, hudirectory⟩⟩
  | ok place =>
    obtain ⟨entry, hlocate, hentry⟩ := hopened place rfl
    rcases hrecord : (modifyThe (Directory Location) fun directory => { directory with
        written := record ((OnDisk.directory s).pathFor typeName) directory.written
        output := some { handle := place } } : StateM σ Unit).run u with ⟨_, v⟩
    obtain ⟨hvdirectory, hvdisk⟩ := modify_spec _ _ _ _ hrecord
    simp only [run_bind, run_pure, hrecord] at h
    obtain ⟨rfl, rfl⟩ := h
    rw [← hvdisk] at hlocate
    refine ⟨hvdisk ▸ hu, Or.inr ⟨place, entry, rfl, ?_, hlocate, hentry⟩⟩
    rw [hvdirectory, hudirectory]

/-- Discarding takes the path off the list and then asks for the removal of the file. -/
theorem discard_removes {r : List FilingEvent}
    (h : ((filer : Filer (StateM σ)).discard typeName).run s = (r, t)) :
    ∃ u result,
      directory u = { directory s with
        written := forget ((directory s).pathFor typeName) (directory s).written } ∧
      disk u = disk s ∧
      (Volume.remove ((directory s).pathFor typeName) :
        StateM σ (Except Fault Unit)).run u = (result, t) ∧
      (result = .ok () → r = [.removed ((directory s).pathFor typeName)]) := by
  simp only [filer, run_bind, run_get] at h
  rcases hforget : (modifyThe (Directory Location) fun directory => { directory with
      written := forget ((OnDisk.directory s).pathFor typeName) directory.written } :
    StateM σ Unit).run s with ⟨_, u⟩
  obtain ⟨hudirectory, hudisk⟩ := modify_spec _ _ _ _ hforget
  rcases hremove : (Volume.remove ((directory s).pathFor typeName) :
    StateM σ (Except Fault Unit)).run u with ⟨result, v⟩
  rw [hforget] at h
  simp only [hremove] at h
  refine ⟨u, result, hudirectory, hudisk, ?_⟩
  split at h
  · simp only [run_pure] at h
    obtain ⟨rfl, rfl⟩ := h
    exact ⟨hremove, fun _ => rfl⟩
  · simp only [run_pure] at h
    obtain ⟨rfl, rfl⟩ := h
    exact ⟨hremove, by simp⟩
  · simp only [run_pure] at h
    obtain ⟨rfl, rfl⟩ := h
    exact ⟨hremove, by simp⟩

/-- However the removal comes out, the path is off the list. -/
theorem directory_discard {r : List FilingEvent}
    (h : ((filer : Filer (StateM σ)).discard typeName).run s = (r, t)) :
    directory t = { directory s with
      written := forget ((directory s).pathFor typeName) (directory s).written } := by
  obtain ⟨u, result, hudirectory, _, hremove, _⟩ := discard_removes h
  obtain ⟨htdirectory, _⟩ := remove_spec _ _ _ _ hremove
  rw [htdirectory, hudirectory]

/-- A file that was open at a path is removed when it is discarded. -/
theorem discard_spec {r : List FilingEvent} {path : Path} {place : Location} {entry : Entry}
    {front : List String} {name : String} (hpath : (directory s).pathFor typeName = path)
    (hsteps : Disk.steps path.text = front ++ [name]) (hname : Path.IsName name)
    (hP : FilingPreserves path P) (hs : P (disk s))
    (hlocate : (disk s).locate true path = .ok (.occupied place entry))
    (hentry : entry.IsOpenable)
    (h : ((filer : Filer (StateM σ)).discard typeName).run s = (r, t)) :
    P (disk t) ∧
      (Reliable σ .remove → r = [.removed path] ∧
        ∃ parent, (disk t).locate true path = .ok (.vacant parent name)) := by
  obtain ⟨u, result, _, hudisk, hremove, hevents⟩ := discard_removes h
  rw [hpath] at hremove hevents
  obtain ⟨_, htdisk⟩ := remove_spec _ _ _ _ hremove
  obtain ⟨parent, hremoved, hfree, _⟩ :=
    Disk.remove_of_locate hsteps hname hlocate hentry.ne_directory
  rw [hudisk] at htdisk
  rcases htdisk with ⟨hresult, heq⟩ | ⟨hunreliable, _, heq⟩
  · refine ⟨heq ▸ hP.remove _ _ _ hlocate hentry hs, fun _ => ?_⟩
    rw [hremoved] at hresult heq
    exact ⟨hevents hresult, parent, heq ▸ hfree⟩
  · exact ⟨heq ▸ hs, fun hreliable => absurd hreliable hunreliable⟩

/-- Bytes that reach an open file preserve what filing preserves, and the path still leads to the
file. -/
theorem preserves_append {disk : Disk} {path : Path} {place : Location} {entry : Entry}
    (hP : FilingPreserves path P) (hs : P disk)
    (hlocate : disk.locate true path = .ok (.occupied place entry)) (bytes : Bytes) :
    P (disk.append place bytes).2 ∧ ∃ written,
      (disk.append place bytes).2.locate true path = .ok (.occupied place written) ∧
      entry.SameKind written ∧
      ∀ contents, entry = .file contents → written = .file (contents ++ bytes) :=
  ⟨hP.append _ _ _ _ hlocate hs, Disk.locate_append hlocate bytes⟩

/-- What writing an artifact to a path leaves: it was not created, it was written whole, or it was
created and discarded. -/
inductive Filed (s t : σ) (typeName : String) (path : Path) (body : Bytes) :
    Except GenerationError Unit × List FilingEvent → Prop
  | notCreated (fault : Fault) (hdirectory : directory t = directory s) :
      Filed s t typeName path body (.error (.create typeName fault), [])
  | written (place : Location)
      (hdirectory : directory t = { directory s with
        written := record path (directory s).written, output := none })
      (hlocate : (disk t).locate true path = .ok (.occupied place (.file body))) :
      Filed s t typeName path body (.ok (), [.created path])
  | discarded (fault : Fault) (events : List FilingEvent)
      (hdirectory : directory t = { directory s with
        written := forget path (record path (directory s).written), output := none })
      (hremoved : Reliable σ .remove → events = [.removed path] ∧
        ∃ parent name, (disk t).locate true path = .ok (.vacant parent name)) :
      Filed s t typeName path body (.error (.write path.text fault), .created path :: events)

/-- Writing an artifact preserves what its steps preserve, and is all or nothing. -/
theorem writeArtifact_spec {artifact : Artifact} {path : Path} {front : List String}
    {name : String} {r : Except GenerationError Unit × List FilingEvent}
    (hpath : (directory s).pathFor artifact.qualifiedName = path)
    (hsteps : Disk.steps path.text = front ++ [name]) (hname : Path.IsName name)
    (hbody : artifact.body ≠ "") (hP : FilingPreserves path P) (hs : P (disk s))
    (h : ((filer : Filer (StateM σ)).writeArtifact artifact).run s = (r, t)) :
    P (disk t) ∧
      Filed s t artifact.qualifiedName path (Text.Utf8.encode artifact.body) r := by
  rw [Filer.writeArtifact, run_bind] at h
  rcases hcreate : ((filer : Filer (StateM σ)).create artifact.qualifiedName).run s with
    ⟨created, u⟩
  obtain ⟨hu, hcreated⟩ := create_spec (hpath ▸ hP) hs hcreate
  rw [hcreate] at h
  rw [hpath] at hcreated
  rcases hcreated with ⟨⟨fault, rfl⟩, hudirectory⟩ | ⟨place, entry, rfl, hudirectory, hlocate, hentry⟩
  · simp only [run_pure] at h
    obtain ⟨rfl, rfl⟩ := h
    exact ⟨hu, .notCreated fault hudirectory⟩
  have hopenable : entry.IsOpenable := by
    rcases hentry with rfl | rfl <;> trivial
  -- The body goes to the file that was opened.
  simp only [run_bind] at h
  rcases hwrite : ((filer : Filer (StateM σ)).writeBody artifact.body).run u with ⟨wrote, v⟩
  obtain ⟨taken, held, hbrings, hheld⟩ :=
    writeBody_brings (by rw [hudirectory]) hwrite
  obtain ⟨hv, between, hbetween, hbetweenKind, hbetweenFile⟩ :=
    preserves_append hP hu hlocate taken
  rw [← hbrings.disk_eq] at hv hbetween
  rw [hwrite] at h
  -- Closing it passes on what is held back.
  rcases hclose : (filer : Filer (StateM σ)).close.run v with ⟨_, w⟩
  obtain ⟨hwdirectory, more, hwdisk, hnothing, _⟩ :=
    close_spec hbrings.toPasses.output_eq hclose
  obtain ⟨hw, after, hafter, hafterKind, hafterFile⟩ := preserves_append hP hv hbetween more
  rw [← hwdisk] at hw hafter
  rw [hbrings.directory_eq, hudirectory] at hwdirectory
  cases wrote with
  | ok =>
    simp only [run_bind, run_pure, hclose] at h
    obtain ⟨rfl, rfl⟩ := h
    have hall := hbrings.all rfl
    rw [hheld rfl, List.append_nil, List.nil_append] at hall
    have hne := Text.Utf8.encode_ne_nil hbody
    have hfile : entry = .file [] := by
      obtain ⟨contents, hcontents⟩ := hbrings.lands rfl (hall ▸ hne)
      rcases hentry with rfl | rfl
      · rfl
      · rw [Disk.entry?_of_locate hlocate] at hcontents
        cases hcontents
    refine ⟨hw, .written place hwdirectory ?_⟩
    rw [hafter, hafterFile _ (hbetweenFile _ hfile), hnothing (hheld rfl), hall]
    simp
  | error fault =>
    simp only [run_bind, run_pure, hclose] at h
    rcases hdiscard : ((filer : Filer (StateM σ)).discard artifact.qualifiedName).run w with
      ⟨events, x⟩
    rw [hdiscard] at h
    obtain ⟨rfl, rfl⟩ := h
    have hwpath : (directory w).pathFor artifact.qualifiedName = path := by
      rw [hwdirectory, ← hpath]
      rfl
    obtain ⟨hx, hremoved⟩ := discard_spec hwpath hsteps hname hP hw hafter
      ((hopenable.of_sameKind hbetweenKind).of_sameKind hafterKind) hdiscard
    refine ⟨hx, .discarded fault events ?_ fun hreliable => ?_⟩
    · rw [directory_discard hdiscard, hwpath, hwdirectory]
    · obtain ⟨hevents, parent, hfree⟩ := hremoved hreliable
      exact ⟨hevents, parent, name, hfree⟩

end ToStringGen.Directory
