import Mathlib.Data.List.Forall2
import Mathlib.Data.List.Nodup
import ToStringGen.Datum

/-!
# Records

A record is a table in which none of its keys is repeated, or the list of its values in the
order of the keys. What is decoded from a record depends on nothing but the value that it has
under each key.
-/

namespace ToStringGen.Datum

variable {α β : Type} {dialect : Dialect} {keys : List String} {key : String} {datum : Datum}

/-- A list is decoded when each of its elements is. -/
theorem mapM_eq_some_iff {decode : α → Option β} {items : List α} {values : List β} :
    items.mapM decode = some values ↔
      List.Forall₂ (fun item value => decode item = some value) items values := by
  induction items generalizing values with
  | nil => simp [eq_comm]
  | cons item items ih =>
    rw [List.mapM_cons, List.forall₂_cons_left_iff]
    constructor
    · intro h
      obtain ⟨value, hvalue, h⟩ := Option.bind_eq_some_iff.mp h
      obtain ⟨rest, hrest, h⟩ := Option.bind_eq_some_iff.mp h
      exact ⟨value, rest, hvalue, ih.mp hrest, (Option.some.inj h).symm⟩
    · rintro ⟨value, rest, hvalue, hrest, rfl⟩
      rw [hvalue, ih.mpr hrest]
      rfl

/-- A list of values is decoded from a list of data. -/
theorem list?_eq_some_iff {decode : Datum → Option α} {values : List α} :
    list? decode datum = some values ↔ ∃ items, datum = .list items ∧
      List.Forall₂ (fun item value => decode item = some value) items values := by
  cases datum <;> simp [list?, mapM_eq_some_iff]

/-- Data that are a record with given keys. -/
inductive IsRecord (dialect : Dialect) (keys : List String) : Datum → Prop
  /-- Each key occurs at most once, and what stands under any other key may be ignored. -/
  | table {entries : List (Option String × Datum)}
      (honce : ∀ key ∈ keys, (entries.map Prod.fst).count (some key) ≤ 1)
      (hothers : ∀ entry ∈ entries, ∃ key, entry.1 = some key ∧
        (key ∈ keys ∨ dialect.ignorable entry.2 = true)) :
      IsRecord dialect keys (.table entries)
  /-- There are no more values than keys, unless the dialect passes over the surplus. -/
  | list {items : List Datum} (hlength : items.length ≤ keys.length ∨ dialect.surplus = true) :
      IsRecord dialect keys (.list items)

/-- What a record has under a key, if anything. -/
def value? (keys : List String) (key : String) : Datum → Option Datum
  | table entries => entries.lookup (some key)
  | list items => items[keys.idxOf key]?
  | _ => none

/-- What stands under a key is the first of the entries with that key. -/
theorem lookup_eq_head?_filter (entries : List (Option String × Datum)) (key : String) :
    entries.lookup (some key) =
      (entries.filter fun entry => entry.1 == some key).head?.map Prod.snd := by
  induction entries with
  | nil => rfl
  | cons entry entries ih =>
    rw [List.lookup_cons, List.filter_cons, BEq.comm (a := some key)]
    cases entry.1 == some key with
    | true => rfl
    | false => exact ih

/-- A key that occurs once at most has the value that stands under it. -/
theorem valueUnder_eq_some_iff {entries : List (Option String × Datum)} {value : Option Datum} :
    (match entries.filter fun entry => entry.1 == some key with
      | [] => some none
      | [(_, value)] => some (some value)
      | _ => none) = some value ↔
      (entries.map Prod.fst).count (some key) ≤ 1 ∧ entries.lookup (some key) = value := by
  have hcount : (entries.map Prod.fst).count (some key) =
      (entries.filter fun entry => entry.1 == some key).length := by
    rw [List.count, List.countP_map, List.countP_eq_length_filter]
    rfl
  rw [hcount, lookup_eq_head?_filter]
  generalize entries.filter (fun entry => entry.1 == some key) = found
  match found with
  | [] => simp
  | [(_, _)] => simp
  | _ :: _ :: _ => simp

/-- The values of a table's keys, none of which is repeated. -/
theorem valuesUnder_eq_some_iff {entries : List (Option String × Datum)}
    {values : List (Option Datum)} :
    (keys.mapM fun key =>
      match entries.filter fun entry => entry.1 == some key with
      | [] => some none
      | [(_, value)] => some (some value)
      | _ => none) = some values ↔
      (∀ key ∈ keys, (entries.map Prod.fst).count (some key) ≤ 1) ∧
        values = keys.map fun key => entries.lookup (some key) := by
  simp only [mapM_eq_some_iff, valueUnder_eq_some_iff]
  induction keys generalizing values with
  | nil => simp
  | cons key keys ih =>
    simp only [List.forall₂_cons_left_iff, ih, List.forall_mem_cons, List.map_cons]
    constructor
    · rintro ⟨value, rest, ⟨hkey, hvalue⟩, ⟨hrest, hmap⟩, rfl⟩
      exact ⟨⟨hkey, hrest⟩, by rw [hvalue, hmap]⟩
    · rintro ⟨⟨hkey, hrest⟩, rfl⟩
      exact ⟨_, _, ⟨hkey, rfl⟩, ⟨hrest, rfl⟩, rfl⟩

/-- The entries of a table that are not under its keys may be ignored. -/
theorem all_known_or_ignorable_iff {entries : List (Option String × Datum)} :
    (entries.all fun (key, value) =>
      match key with
      | none => false
      | some key => keys.contains key || dialect.ignorable value) = true ↔
      ∀ entry ∈ entries, ∃ key, entry.1 = some key ∧
        (key ∈ keys ∨ dialect.ignorable entry.2 = true) := by
  rw [List.all_eq_true]
  refine forall₂_congr fun entry _ => ?_
  obtain ⟨name, value⟩ := entry
  cases name <;> simp

/-- Records are read key by key. -/
theorem record?_eq_some_iff (hkeys : keys.Nodup) {values : List (Option Datum)} :
    record? dialect keys datum = some values ↔
      datum.IsRecord dialect keys ∧ values = keys.map fun key => datum.value? keys key := by
  unfold record?
  split
  · next entries =>
    split
    · next hall =>
      refine valuesUnder_eq_some_iff.trans ⟨fun ⟨honce, h⟩ => ⟨?_, h⟩, fun ⟨hrecord, h⟩ => ?_⟩
      · exact .table honce (all_known_or_ignorable_iff.mp hall)
      · cases hrecord with
        | table honce _ => exact ⟨honce, h⟩
    · next hall =>
      refine ⟨fun h => (nomatch h), fun ⟨hrecord, _⟩ => ?_⟩
      cases hrecord with
      | table _ hothers => exact absurd (all_known_or_ignorable_iff.mpr hothers) hall
  · next items =>
    have hvalues : (List.range keys.length).map (fun i => items[i]?) =
        keys.map fun key => items[keys.idxOf key]? := by
      refine List.ext_getElem (by simp) fun i hi _ => ?_
      simp only [List.length_map, List.length_range] at hi
      simp [hkeys.idxOf_getElem i hi]
    rw [hvalues]
    split
    · next hlength =>
      rw [Option.some.injEq, eq_comm]
      exact ⟨fun h => ⟨.list (by simpa using hlength), h⟩, fun h => h.2⟩
    · next hlength =>
      refine ⟨fun h => (nomatch h), fun ⟨hrecord, _⟩ => ?_⟩
      cases hrecord with
      | list h => exact absurd (by simpa using h) hlength
  · next htable hlist =>
    refine ⟨fun h => (nomatch h), fun ⟨hrecord, _⟩ => ?_⟩
    cases hrecord with
    | table => exact absurd rfl (htable _)
    | list => exact absurd rfl (hlist _)

/-- Data that are no record with given keys are not read as one. -/
theorem record?_eq_none (hkeys : keys.Nodup) (h : ¬datum.IsRecord dialect keys) :
    record? dialect keys datum = none := by
  cases hvalues : record? dialect keys datum with
  | none => rfl
  | some values => exact absurd ((record?_eq_some_iff hkeys).mp hvalues).1 h

/-- A value that may be absent is decoded if it is there, and otherwise is the default. -/
theorem optional_eq_some_iff {decode : Datum → Option α} {default result : α}
    {value : Option Datum} :
    optional decode default value = some result ↔
      ∃ given : Option α, value.map decode = given.map some ∧ result = given.getD default := by
  cases value with
  | none =>
    simp only [optional, Option.map_none, Option.some.injEq]
    constructor
    · rintro rfl
      exact ⟨none, rfl, rfl⟩
    · rintro ⟨given, hgiven, rfl⟩
      cases given with
      | none => rfl
      | some given => cases hgiven
  | some value =>
    simp only [optional, Option.map_some]
    constructor
    · intro h
      exact ⟨some result, by rw [h]; rfl, rfl⟩
    · rintro ⟨given, hgiven, rfl⟩
      cases given with
      | none => cases hgiven
      | some given => exact Option.some.inj hgiven

end ToStringGen.Datum
