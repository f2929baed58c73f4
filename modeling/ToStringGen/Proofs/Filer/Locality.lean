import ToStringGen.Filer.Scripted
import ToStringGen.Proofs.Filer.Memory

/-!
# Filers that keep types apart

A filer is local when whatever is done to the file of a type depends on what is stored
for that type only, and leaves what is stored for other types alone. This is a property
of its single operations; it follows for the writing of a whole artifact.
-/

namespace ToStringGen

open Text (Bytes)

variable {σ E α β : Type}

/-- An action on the file of a type. From states between which `before` holds, it has the same
result and leads to states between which `after` holds, and it leaves what is stored for other
types alone. -/
def LocalTo (entry : String → σ → E) (typeName : String) (before : σ → σ → Prop)
    (after : α → σ → σ → Prop) (action : StateM σ α) : Prop :=
  ∀ s t, before s t →
    (action.run s).1 = (action.run t).1 ∧
      after (action.run s).1 (action.run s).2 (action.run t).2 ∧
      ∀ other, other ≠ typeName → entry other (action.run s).2 = entry other s

namespace LocalTo

variable {entry : String → σ → E} {typeName : String} {before : σ → σ → Prop}

/-- Returning a result does nothing. -/
theorem pure {after : α → σ → σ → Prop} {result : α}
    (h : ∀ s t, before s t → after result s t) :
    LocalTo entry typeName before after (Pure.pure result) :=
  fun s t hbefore => ⟨rfl, h s t hbefore, fun _ _ => rfl⟩

/-- Two actions on the file of a type make one. -/
theorem bind {first : StateM σ α} {next : α → StateM σ β} {between : α → σ → σ → Prop}
    {after : β → σ → σ → Prop} (hfirst : LocalTo entry typeName before between first)
    (hnext : ∀ result, LocalTo entry typeName (between result) after (next result)) :
    LocalTo entry typeName before after (first >>= next) := by
  intro s t hbefore
  obtain ⟨hsame, hbetween, hothers⟩ := hfirst s t hbefore
  obtain ⟨hresult, hafter, hrest⟩ := hnext _ _ _ hbetween
  rw [run_bind, run_bind, ← hsame]
  exact ⟨hresult, hafter, fun other hne => (hrest other hne).trans (hothers other hne)⟩

end LocalTo

/-- States with the same entry for a type. -/
def SameEntry (entry : String → σ → E) (typeName : String) (s t : σ) : Prop :=
  entry typeName s = entry typeName t

/-- A filer whose operations on the file of a type depend on its entry alone. The file is alike in
two states when it is open in both and what is done to it there goes the same way. -/
structure Filer.IsLocal (filer : Filer (StateM σ)) (entry : String → σ → E)
    (alike : String → σ → σ → Prop) : Prop where
  create : ∀ typeName, LocalTo entry typeName (SameEntry entry typeName)
    (fun answer s t => match answer with
      | .ok _ => alike typeName s t
      | .error _ => SameEntry entry typeName s t)
    (filer.create typeName)
  write : ∀ typeName bytes,
    LocalTo entry typeName (alike typeName) (fun _ => alike typeName) (filer.write bytes)
  flush : ∀ typeName,
    LocalTo entry typeName (alike typeName) (fun _ => alike typeName) filer.flush
  close : ∀ typeName,
    LocalTo entry typeName (alike typeName) (fun _ => SameEntry entry typeName) filer.close
  discard : ∀ typeName,
    LocalTo entry typeName (SameEntry entry typeName) (fun _ => SameEntry entry typeName)
      (filer.discard typeName)

namespace Filer.IsLocal

variable {filer : Filer (StateM σ)} {entry : String → σ → E} {alike : String → σ → σ → Prop}

/-- Offering bytes to the open file until all are taken concerns this file alone. -/
theorem writeAll (h : filer.IsLocal entry alike) (typeName : String) (bytes : Bytes) :
    LocalTo entry typeName (alike typeName) (fun _ => alike typeName) (filer.writeAll bytes) := by
  induction bytes using Filer.writeAll.induct with
  | case1 =>
    rw [Filer.writeAll]
    exact .pure fun _ _ halike => halike
  | case2 b rest ih =>
    rw [Filer.writeAll]
    refine (h.write typeName (b :: rest)).bind fun attempt => ?_
    split
    · exact .pure fun _ _ halike => halike
    · exact .pure fun _ _ halike => halike
    · next count _ => exact ih count

/-- Writing a body concerns the open file alone. -/
theorem writeBody (h : filer.IsLocal entry alike) (typeName : String) (body : String) :
    LocalTo entry typeName (alike typeName) (fun _ => alike typeName) (filer.writeBody body) := by
  unfold Filer.writeBody
  refine (h.writeAll typeName (Text.Utf8.encode body)).bind fun result => ?_
  cases result with
  | error fault => exact .pure fun _ _ halike => halike
  | ok => exact h.flush typeName

/-- Writing an artifact depends on the entry of its own name, and changes no other, whether it
succeeds or fails. -/
theorem writeArtifact (h : filer.IsLocal entry alike) (artifact : Artifact) :
    LocalTo entry artifact.qualifiedName (SameEntry entry artifact.qualifiedName)
      (fun _ => SameEntry entry artifact.qualifiedName) (filer.writeArtifact artifact) := by
  unfold Filer.writeArtifact
  refine (h.create artifact.qualifiedName).bind fun answer => ?_
  cases answer with
  | error failure => exact .pure fun _ _ hsame => hsame
  | ok file =>
    refine (h.writeBody artifact.qualifiedName artifact.body).bind fun result => ?_
    cases result with
    | ok => exact (h.close artifact.qualifiedName).bind fun _ => .pure fun _ _ hsame => hsame
    | error cause =>
      refine (h.close artifact.qualifiedName).bind fun _ => ?_
      exact (h.discard artifact.qualifiedName).bind fun _ => .pure fun _ _ hsame => hsame

end Filer.IsLocal

namespace Memory

/-- What is in memory for a type: the contents of its file, if there is one. -/
def entry (typeName : String) (memory : Memory) : Option Bytes :=
  memory.files[typeName]?

/-- The file of a type is open and has the same contents. -/
def Alike (typeName : String) (s t : Memory) : Prop :=
  s.current = some typeName ∧ t.current = some typeName ∧ entry typeName s = entry typeName t

/-- A new file is empty, and no other is touched. -/
theorem entry_create (typeName other : String) (memory : Memory) :
    entry other (create typeName memory) =
      if other = typeName then some [] else entry other memory := by
  simp only [entry, create, Std.ExtTreeMap.getElem?_insert, Std.compare_eq_iff_eq,
    eq_comm (a := typeName)]

/-- Bytes go to the end of the open file, and to no other. -/
theorem entry_append {typeName : String} {memory : Memory}
    (hopen : memory.current = some typeName) (bytes : Bytes) (other : String) :
    entry other (append bytes memory) =
      if other = typeName then some ((entry typeName memory).getD [] ++ bytes)
      else entry other memory := by
  rw [append, hopen]
  simp only [entry, Std.ExtTreeMap.getElem?_insert, Std.ExtTreeMap.getD_eq_getD_getElem?,
    Std.compare_eq_iff_eq, eq_comm (a := typeName)]

/-- The open file stays open. -/
theorem current_append (bytes : Bytes) (memory : Memory) :
    (append bytes memory).current = memory.current := by
  unfold append
  split <;> simp_all

/-- A removed file is gone, and no other. -/
theorem entry_remove (typeName other : String) (memory : Memory) :
    entry other (remove typeName memory) =
      if other = typeName then none else entry other memory := by
  simp only [entry, remove, Std.ExtTreeMap.getElem?_erase, Std.compare_eq_iff_eq,
    eq_comm (a := typeName)]

/-- Files in memory are kept apart. -/
theorem isLocal : filer.IsLocal entry Alike where
  create typeName s t _ := by
    have hempty : ∀ memory, entry typeName (create typeName memory) = some [] :=
      fun memory => by rw [entry_create, if_pos rfl]
    refine ⟨rfl, ⟨rfl, rfl, (hempty s).trans (hempty t).symm⟩, fun other hne => ?_⟩
    exact (entry_create typeName other s).trans (if_neg hne)
  write typeName bytes s t halike := by
    obtain ⟨hs, ht, hsame⟩ := halike
    have hlonger : entry typeName (append bytes s) = entry typeName (append bytes t) := by
      rw [entry_append hs, entry_append ht, hsame]
    refine ⟨rfl, ⟨?_, ?_, hlonger⟩, fun other hne => ?_⟩
    · exact (current_append bytes s).trans hs
    · exact (current_append bytes t).trans ht
    · exact (entry_append hs bytes other).trans (if_neg hne)
  flush typeName s t halike := ⟨rfl, halike, fun _ _ => rfl⟩
  close typeName s t halike := ⟨rfl, halike.2.2, fun _ _ => rfl⟩
  discard typeName s t _ := by
    have hgone : ∀ memory, entry typeName (remove typeName memory) = none :=
      fun memory => by rw [entry_remove, if_pos rfl]
    refine ⟨rfl, (hgone s).trans (hgone t).symm, fun other hne => ?_⟩
    exact (entry_remove typeName other s).trans (if_neg hne)

end Memory

namespace Scripted

/-- What concerns one type: the contents of its file, if there is one, and what the script says
about it. -/
structure Share where
  contents : Option Bytes
  refusal : Option String
  script : Option WriteScript
  discards : Bool
  deriving DecidableEq, Repr

/-- The share of a type. -/
def share (typeName : String) (scripted : Scripted) : Share where
  contents := scripted.files[typeName]?
  refusal := scripted.script.refused.lookup typeName
  script := scripted.script.writes.lookup typeName
  discards := scripted.script.discards

/-- The file of a type is open, with the same contents and the same script left for it. -/
def Alike (typeName : String) (s t : Scripted) : Prop :=
  s.current = some typeName ∧ t.current = some typeName ∧ s.pending = t.pending ∧
    share typeName s = share typeName t

/-- A new file is empty, and no other is touched. -/
theorem share_start (typeName other : String) (scripted : Scripted) :
    share other (start typeName scripted) =
      if other = typeName then { share typeName scripted with contents := some [] }
      else share other scripted := by
  by_cases h : other = typeName
  · subst h
    simp [share, start]
  · simp [share, start, Std.ExtTreeMap.getElem?_insert, h, Ne.symm h]

/-- Bytes go to the end of the open file, and to no other. -/
theorem share_append {typeName : String} {scripted : Scripted}
    (hopen : scripted.current = some typeName) (bytes : Bytes) (other : String) :
    share other (append bytes scripted) =
      if other = typeName then
        { share typeName scripted with
          contents := some ((share typeName scripted).contents.getD [] ++ bytes) }
      else share other scripted := by
  rw [append, hopen]
  by_cases h : other = typeName
  · subst h
    simp [share, Std.ExtTreeMap.getD_eq_getD_getElem?]
  · simp [share, Std.ExtTreeMap.getElem?_insert, h, Ne.symm h]

/-- A removed file is gone, and no other. -/
theorem share_erase (typeName other : String) (scripted : Scripted) (discarded : List String) :
    share other { scripted with files := scripted.files.erase typeName, discarded } =
      if other = typeName then { share typeName scripted with contents := none }
      else share other scripted := by
  by_cases h : other = typeName
  · subst h
    simp [share]
  · simp [share, Std.ExtTreeMap.getElem?_erase, h, Ne.symm h]

/-- Appending keeps the file open and its script as it is. -/
theorem append_keeps (bytes : Bytes) (scripted : Scripted) :
    (append bytes scripted).current = scripted.current ∧
      (append bytes scripted).pending = scripted.pending := by
  unfold append
  split <;> simp_all

/-- Offering bytes to the open file goes as its script has it, and leaves other shares alone. -/
theorem offer_localTo (typeName : String) (bytes : Bytes) :
    LocalTo share typeName (Alike typeName) (fun _ => Alike typeName) (filer.write bytes) := by
  intro s t halike
  obtain ⟨hs, ht, hpending, hshare⟩ := halike
  change (offer bytes s).1 = (offer bytes t).1 ∧
    Alike typeName (offer bytes s).2 (offer bytes t).2 ∧
    ∀ other, other ≠ typeName → share other (offer bytes s).2 = share other s
  unfold offer
  rw [hpending]
  rcases attempt bytes.length t.pending.attempts with ⟨outcome, attempts⟩
  simp only
  cases hsettle : outcome.settle with
  | error fault => exact ⟨rfl, ⟨hs, ht, rfl, hshare⟩, fun _ _ => rfl⟩
  | ok count =>
    -- What is left of the script is put down before the bytes are.
    have hs' : ({ s with pending := { t.pending with attempts } } : Scripted).current =
        some typeName := hs
    have ht' : ({ t with pending := { t.pending with attempts } } : Scripted).current =
        some typeName := ht
    have hshare' : share typeName { s with pending := { t.pending with attempts } } =
        share typeName { t with pending := { t.pending with attempts } } := hshare
    refine ⟨rfl, ⟨?_, ?_, ?_, ?_⟩, fun other hne => ?_⟩
    · exact (append_keeps ..).1.trans hs
    · exact (append_keeps ..).1.trans ht
    · rw [(append_keeps ..).2, (append_keeps ..).2]
    · rw [share_append hs', share_append ht', hshare']
    · rw [share_append hs', if_neg hne]
      rfl

/-- A file is refused if the script says so, and opened otherwise. -/
theorem run_create (typeName : String) (scripted : Scripted) :
    (filer.create typeName).run scripted =
      match scripted.script.refused.lookup typeName with
      | some reason => (.error (.create typeName (.other reason)), scripted)
      | none => (.ok { name := typeName ++ ".java" }, start typeName scripted) := by
  change (match scripted.script.refused.lookup typeName with
    | some reason => _
    | none => _ : StateM Scripted (Except GenerationError OpenFile)).run scripted = _
  cases scripted.script.refused.lookup typeName <;> rfl

/-- Passing on fails if the script says so. -/
theorem run_flush (scripted : Scripted) :
    filer.flush.run scripted =
      (match scripted.pending.flushFault with
        | some reason => .error (.other reason)
        | none => .ok (), scripted) := by
  change (match scripted.pending.flushFault with
    | some reason => _
    | none => _ : StateM Scripted (Except Fault Unit)).run scripted = _
  cases scripted.pending.flushFault <;> rfl

/-- What a script refuses or fails is refused or failed for one type alone. -/
theorem isLocal : filer.IsLocal share Alike where
  create typeName s t hsame := by
    have hrefused : s.script.refused.lookup typeName = t.script.refused.lookup typeName :=
      congrArg Share.refusal hsame
    have hscript : s.script.writes.lookup typeName = t.script.writes.lookup typeName :=
      congrArg Share.script hsame
    rw [run_create, run_create, hrefused]
    cases t.script.refused.lookup typeName with
    | some reason => exact ⟨rfl, hsame, fun _ _ => rfl⟩
    | none =>
      refine ⟨rfl, ⟨rfl, rfl, ?_, ?_⟩, fun other hne => ?_⟩
      · simp only [start, hscript]
      · rw [share_start, share_start, hsame]
      · rw [share_start, if_neg hne]
  write := offer_localTo
  flush typeName s t halike := by
    rw [run_flush, run_flush, halike.2.2.1]
    exact ⟨rfl, halike, fun _ _ => rfl⟩
  close typeName s t halike := ⟨rfl, halike.2.2.2, fun _ _ => rfl⟩
  discard typeName s t hsame := by
    have hdiscards : s.script.discards = t.script.discards := congrArg Share.discards hsame
    change _ ∧ SameEntry share typeName
        (if s.script.discards then _ else s) (if t.script.discards then _ else t) ∧
      ∀ other, other ≠ typeName →
        share other (if s.script.discards then _ else s) = share other s
    rw [hdiscards]
    split
    · refine ⟨rfl, ?_, fun other hne => ?_⟩
      · exact (share_erase ..).trans ((by rw [hsame]) : _ = _) |>.trans (share_erase ..).symm
      · rw [share_erase, if_neg hne]
    · exact ⟨rfl, hsame, fun _ _ => rfl⟩

end Scripted

end ToStringGen
