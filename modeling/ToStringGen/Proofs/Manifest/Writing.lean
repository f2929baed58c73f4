import ToStringGen.Manifest.Json
import ToStringGen.Proofs.Declaration.Data
import ToStringGen.Proofs.Json.Writing
import ToStringGen.Proofs.Rewriting

/-!
# Manifests written and read

A written manifest is read back, also after the entries of its tables have changed places and
keys with their default have been left out.
-/

namespace ToStringGen

open Datum (Respects Rewrites)
open Relation (ReflTransGen)

/-- The defaults of the optional keys, in their written form. -/
def Manifest.defaults : List (String × Datum) :=
  [("types", .list []), ("annotations", .list []), ("fields", .list []), ("methods", .list []),
   ("visibility", Visibility.packageAccess.toDatum),
   ("storage", StorageClass.perInstance.toDatum)]

open Manifest (defaults)

/-- No default could be the content of a variant. -/
theorem Manifest.json_empty_defaults : ∀ entry ∈ defaults, Datum.json.empty entry.2 = false := by
  simp [defaults, Visibility.toDatum, StorageClass.toDatum, Datum.json]

/-- A visibility is read the same however data are written. -/
theorem Visibility.respects_ofDatum? : Respects defaults (ofDatum? Datum.json) :=
  Datum.respects_variant? Manifest.json_empty_defaults

/-- A storage class is read the same however data are written. -/
theorem StorageClass.respects_ofDatum? : Respects defaults (ofDatum? Datum.json) :=
  Datum.respects_variant? Manifest.json_empty_defaults

/-- A field is read the same however data are written. -/
theorem FieldDeclaration.respects_ofDatum? : Respects defaults (ofDatum? Datum.json) := by
  intro datum datum' field hrewrites h
  obtain ⟨hrecord, hname, hvisibility, hstorage⟩ := ofDatum?_eq_some_iff.mp h
  refine ofDatum?_eq_some_iff.mpr ⟨hrecord.of_rewrites hrewrites, ?_, ?_, ?_⟩
  · refine Datum.required_of_rewrites Datum.respects_text? ?_ hrecord hrewrites (by decide) hname
    simp [defaults]
  · refine Datum.optional_of_rewrites Visibility.respects_ofDatum? ?_ hrecord hrewrites
      (by decide) hvisibility
    simp [defaults, Visibility.ofDatum?_toDatum]
  · refine Datum.optional_of_rewrites StorageClass.respects_ofDatum? ?_ hrecord hrewrites
      (by decide) hstorage
    simp [defaults, StorageClass.ofDatum?_toDatum]

/-- A declaration is read the same however data are written. -/
theorem TypeDeclaration.respects_ofDatum? : Respects defaults (ofDatum? Datum.json) := by
  intro datum datum' declaration hrewrites h
  obtain ⟨hrecord, hname, hannotations, hfields, hmethods⟩ := ofDatum?_eq_some_iff.mp h
  refine ofDatum?_eq_some_iff.mpr ⟨hrecord.of_rewrites hrewrites, ?_, ?_, ?_, ?_⟩
  · refine Datum.required_of_rewrites Datum.respects_text? ?_ hrecord hrewrites (by decide) hname
    simp [defaults]
  · refine Datum.optional_of_rewrites Datum.respects_text?.list? ?_ hrecord hrewrites
      (by decide) hannotations
    simp [defaults, Datum.list?]
  · refine Datum.optional_of_rewrites FieldDeclaration.respects_ofDatum?.list? ?_ hrecord hrewrites
      (by decide) hfields
    simp [defaults, Datum.list?]
  · refine Datum.optional_of_rewrites Datum.respects_text?.list? ?_ hrecord hrewrites
      (by decide) hmethods
    simp [defaults, Datum.list?]

namespace Manifest

/-- The keys of a manifest. -/
def keys : List String := ["types"]

/-- A manifest is read from the declarations under its only key. -/
theorem ofDatum?_eq_some_iff {dialect : Datum.Dialect} {datum : Datum} {manifest : Manifest} :
    ofDatum? dialect datum = some manifest ↔
      datum.IsRecord dialect keys ∧
        Datum.optional (Datum.list? (TypeDeclaration.ofDatum? dialect)) []
          (datum.value? keys "types") = some manifest.types := by
  have hkeys : keys.Nodup := by decide
  obtain ⟨types⟩ := manifest
  by_cases hrecord : datum.IsRecord dialect keys
  · have hvalues : Datum.record? dialect ["types"] datum = some [datum.value? keys "types"] :=
      (Datum.record?_eq_some_iff hkeys).mpr ⟨hrecord, rfl⟩
    simp [ofDatum?, hvalues, hrecord, Option.bind_eq_some_iff]
  · have hnone : Datum.record? dialect ["types"] datum = none :=
      Datum.record?_eq_none hkeys hrecord
    simp [ofDatum?, hnone, hrecord]

/-- A written manifest is read back. -/
theorem ofDatum?_toDatum {dialect : Datum.Dialect} (manifest : Manifest) :
    ofDatum? dialect manifest.toDatum = some manifest := by
  have hvalues : Datum.record? dialect ["types"] manifest.toDatum =
      some [some (.list (manifest.types.map TypeDeclaration.toDatum))] := rfl
  simp [ofDatum?, hvalues, Datum.optional,
    Datum.list?_map_of_readBack TypeDeclaration.ofDatum?_toDatum]

/-- A manifest is read the same however data are written. -/
theorem respects_ofDatum? : Respects defaults (ofDatum? Datum.json) := by
  intro datum datum' manifest hrewrites h
  obtain ⟨hrecord, htypes⟩ := ofDatum?_eq_some_iff.mp h
  refine ofDatum?_eq_some_iff.mpr ⟨hrecord.of_rewrites hrewrites, ?_⟩
  refine Datum.optional_of_rewrites TypeDeclaration.respects_ofDatum?.list? ?_ hrecord hrewrites
    (by decide) htypes
  simp [defaults, Datum.list?]

end Manifest

open Json (IsWritable)

/-- A field can be written. -/
theorem FieldDeclaration.isWritable_toDatum (field : FieldDeclaration) :
    IsWritable field.toDatum := by
  have hvisibility : IsWritable field.visibility.toDatum := by
    cases field.visibility <;> exact .text _
  have hstorage : IsWritable field.storage.toDatum := by
    cases field.storage <;> exact .text _
  exact .table (by simp) (by simp) (by simpa using ⟨.text _, hvisibility, hstorage⟩)

/-- A declaration can be written. -/
theorem TypeDeclaration.isWritable_toDatum (declaration : TypeDeclaration) :
    IsWritable declaration.toDatum := by
  have htexts (texts : List String) :
      IsWritable (.list (texts.map fun text => .text (some text))) :=
    Json.isWritable_map .text texts
  have hfields : IsWritable (.list (declaration.fields.map FieldDeclaration.toDatum)) :=
    Json.isWritable_map FieldDeclaration.isWritable_toDatum _
  exact .table (by simp) (by simp) (by simpa using ⟨.text _, htexts _, hfields, htexts _⟩)

/-- A manifest can be written. -/
theorem Manifest.isWritable_toDatum (manifest : Manifest) : IsWritable manifest.toDatum := by
  have htypes : IsWritable (.list (manifest.types.map TypeDeclaration.toDatum)) :=
    Json.isWritable_map TypeDeclaration.isWritable_toDatum _
  exact .table (by simp) (by simp) (by simpa using htypes)


namespace Manifest

/-- However the data of a written manifest are changed into others, these can be written, and
are read as that manifest. -/
theorem read_of_rewrites {manifest : Manifest} {datum : Datum}
    (h : ReflTransGen (Rewrites defaults) manifest.toDatum datum) :
    IsWritable datum ∧ ofDatum? Datum.json datum = some manifest := by
  refine ⟨?_, respects_ofDatum?.of_reflTransGen (ofDatum?_toDatum manifest) h⟩
  induction h with
  | refl => exact manifest.isWritable_toDatum
  | tail _ hstep ih => exact ih.of_rewrites hstep

/-- The text of data is read as a manifest if the data are. -/
theorem ofJson?_eq_some_of_parse? {text : Text.Bytes} {datum : Datum} {manifest : Manifest}
    (hparse : Json.parse? text = some datum) (h : ofDatum? Datum.json datum = some manifest) :
    ofJson? text = some manifest := by
  rw [ofJson?, hparse]
  exact h

/-- The JSON text of a manifest is read as that manifest. -/
theorem exists_toJson? (manifest : Manifest) :
    ∃ text, manifest.toJson? = some text ∧ ofJson? text = some manifest := by
  obtain ⟨text, htext, hparse⟩ := Json.write?_isFaithful _ manifest.isWritable_toDatum
  exact ⟨text, htext, ofJson?_eq_some_of_parse? hparse (ofDatum?_toDatum manifest)⟩

example : toJson? { types := [{ qualifiedName := "A" }] } = some (Text.Utf8.encode
    ("\x7b\"types\":[\x7b\"qualified_name\":\"A\",\"annotations\":[],\"fields\":[]," ++
      "\"methods\":[]\x7d]\x7d")) := by decide +kernel

/-- Declarations survive being written and read, by whatever means JSON is printed, so long as it
is printed faithfully. The text of a manifest is read as that manifest, and so is any text in
which entries have changed places or keys with their default have been left out. A text that is
read as a manifest, however it spells it, is brought into the form of written manifests by
reading it and writing what was read. -/
theorem declarations_survive_writing {print : Datum → Option Text.Bytes}
    (hprint : Json.IsFaithful print) :
    (∀ manifest datum, ReflTransGen (Rewrites defaults) (toDatum manifest) datum →
      (∃ text, print datum = some text ∧ ofJson? text = some manifest) ∧
        ∀ text, Json.parse? text = some datum → ofJson? text = some manifest) ∧
    ∀ text manifest, ofJson? text = some manifest →
      ∃ normal, print manifest.toDatum = some normal ∧
        Json.parse? normal = some manifest.toDatum ∧ ofJson? normal = some manifest := by
  refine ⟨fun manifest datum h => ?_, fun _ manifest _ => ?_⟩
  · obtain ⟨hwritable, hread⟩ := read_of_rewrites h
    obtain ⟨text, htext, hparse⟩ := hprint datum hwritable
    exact ⟨⟨text, htext, ofJson?_eq_some_of_parse? hparse hread⟩,
      fun _ hparse => ofJson?_eq_some_of_parse? hparse hread⟩
  · obtain ⟨normal, hnormal, hparse⟩ := hprint _ manifest.isWritable_toDatum
    exact ⟨normal, hnormal, hparse, ofJson?_eq_some_of_parse? hparse (ofDatum?_toDatum manifest)⟩

/-- A manifest whose names have to be escaped. -/
def quotedNames : Manifest where
  types := [{ qualifiedName := "p.\"A\"", fields := [{ name := "x\\\n", storage := .static }] }]

/-- A text that spells this manifest with lists for tables, with another name of a visibility,
with a key that means nothing, and with white space. -/
def quotedNamesText : Text.Bytes :=
  Text.Utf8.encode
    ("\x7b\"more\": null, \"types\": [[\"p.\\u0022A\\\"\", [], [" ++
      "\x7b\"storage\": \"static\", \"visibility\": \"package\", \"name\": \"x\\\\\\n\"\x7d]]]\x7d")

/-- The data of this manifest in another order and without what goes without saying. -/
def quotedNamesRewritten : Datum :=
  .table [(some "types", .list [.table
    [(some "fields", .list [.table
      [(some "storage", .text (some "static")), (some "name", .text (some "x\\\n"))]]),
     (some "qualified_name", .text (some "p.\"A\""))]])]

/-- The visibility of the field and the empty lists of the type are left out, and then the
remaining entries change places. -/
theorem rewrites_quotedNames :
    ReflTransGen (Rewrites defaults) quotedNames.toDatum quotedNamesRewritten := by
  have hfield : ReflTransGen (Rewrites defaults)
      (FieldDeclaration.toDatum { name := "x\\\n", storage := .static })
      (.table [(some "storage", .text (some "static")), (some "name", .text (some "x\\\n"))]) :=
    .tail (.single (.leaveOut [_] [_] (by simp [defaults]))) (.reorder (.swap ..))
  have htype : ReflTransGen (Rewrites defaults)
      (TypeDeclaration.toDatum
        { qualifiedName := "p.\"A\"", fields := [{ name := "x\\\n", storage := .static }] })
      (.table
        [(some "fields", .list [.table
          [(some "storage", .text (some "static")), (some "name", .text (some "x\\\n"))]]),
         (some "qualified_name", .text (some "p.\"A\""))]) := by
    refine .trans (Datum.reflTransGen_entry [_, _] [_] (some "fields")
      (Datum.reflTransGen_element [] [] hfield)) ?_
    refine .head (.leaveOut [_] [_, _] (by simp [defaults])) ?_
    refine .head (.leaveOut [_, _] [] (by simp [defaults])) ?_
    exact .single (.reorder (.swap ..))
  exact Datum.reflTransGen_entry [] [] (some "types") (Datum.reflTransGen_element [] [] htype)

/-- The manifest is read from the text of its rewritten data, and from the text that is written
once it has been read from the other spelling. -/
theorem declarations_survive_writing_quotedNames :
    Json.IsFaithful Json.write? ∧
      ReflTransGen (Rewrites defaults) quotedNames.toDatum quotedNamesRewritten ∧
      ofJson? quotedNamesText = some quotedNames ∧
      (∃ text, Json.write? quotedNamesRewritten = some text ∧ ofJson? text = some quotedNames) ∧
      ∃ normal, Json.write? quotedNames.toDatum = some normal ∧
        Json.parse? normal = some quotedNames.toDatum ∧ ofJson? normal = some quotedNames := by
  have htext : ofJson? quotedNamesText = some quotedNames := by decide +kernel
  obtain ⟨hrewritten, hnormal⟩ := declarations_survive_writing Json.write?_isFaithful
  exact ⟨Json.write?_isFaithful, rewrites_quotedNames, htext,
    (hrewritten quotedNames quotedNamesRewritten rewrites_quotedNames).1,
    hnormal quotedNamesText quotedNames htext⟩

end Manifest

end ToStringGen
