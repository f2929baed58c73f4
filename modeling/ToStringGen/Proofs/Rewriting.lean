import Mathlib.Logic.Relation
import ToStringGen.Proofs.Record

/-!
# Data written differently

The entries of a table may change places, and one that has the default of its key may be left
out. A decoder that respects such changes decodes the same value afterwards; the decoder of a
record does if the decoder of each of its fields does and takes the default for an absent one.
-/

namespace ToStringGen.Datum

variable {α : Type} {defaults : List (String × Datum)} {keys : List String} {key : String}
  {datum datum' : Datum}

/-- Data that are written differently in one place, given the defaults of keys. -/
inductive Rewrites (defaults : List (String × Datum)) : Datum → Datum → Prop
  /-- The entries of a table change places. -/
  | reorder {entries entries' : List (Option String × Datum)} (h : entries.Perm entries') :
      Rewrites defaults (.table entries) (.table entries')
  /-- An entry that has the default of its key is left out. -/
  | leaveOut (before after : List (Option String × Datum)) {key : String} {value : Datum}
      (h : (key, value) ∈ defaults) :
      Rewrites defaults (.table (before ++ (some key, value) :: after))
        (.table (before ++ after))
  /-- An element of a list is written differently. -/
  | element (before after : List Datum) {item item' : Datum} (h : Rewrites defaults item item') :
      Rewrites defaults (.list (before ++ item :: after)) (.list (before ++ item' :: after))
  /-- The value of an entry is written differently. -/
  | entry (before after : List (Option String × Datum)) (key : Option String)
      {value value' : Datum} (h : Rewrites defaults value value') :
      Rewrites defaults (.table (before ++ (key, value) :: after))
        (.table (before ++ (key, value') :: after))

open Relation (ReflTransGen)

/-- An element of a list may be written differently in any number of places. -/
theorem reflTransGen_element (before after : List Datum) {item item' : Datum}
    (h : ReflTransGen (Rewrites defaults) item item') :
    ReflTransGen (Rewrites defaults) (.list (before ++ item :: after))
      (.list (before ++ item' :: after)) := by
  induction h with
  | refl => exact .refl
  | tail _ hstep ih => exact ih.tail (.element before after hstep)

/-- The value of an entry may be written differently in any number of places. -/
theorem reflTransGen_entry (before after : List (Option String × Datum)) (key : Option String)
    {value value' : Datum} (h : ReflTransGen (Rewrites defaults) value value') :
    ReflTransGen (Rewrites defaults) (.table (before ++ (key, value) :: after))
      (.table (before ++ (key, value') :: after)) := by
  induction h with
  | refl => exact .refl
  | tail _ hstep ih => exact ih.tail (.entry before after key hstep)

/-- What becomes of the value under a key when a record is written differently. -/
inductive Follows (defaults : List (String × Datum)) (key : String) :
    Option Datum → Option Datum → Prop
  | same (value : Option Datum) : Follows defaults key value value
  | rewritten {value value' : Datum} (h : Rewrites defaults value value') :
      Follows defaults key (some value) (some value')
  | leftOut {value : Datum} (h : (key, value) ∈ defaults) :
      Follows defaults key (some value) none

/-- A record written differently is a record with the same keys. -/
theorem IsRecord.of_rewrites (hrecord : datum.IsRecord json keys)
    (h : Rewrites defaults datum datum') : datum'.IsRecord json keys := by
  cases h with
  | reorder hperm =>
    cases hrecord with
    | table honce hothers =>
      refine .table (fun key hkey => ?_) fun entry hentry => ?_
      · rw [← (hperm.map Prod.fst).count_eq]
        exact honce key hkey
      · exact hothers entry (hperm.mem_iff.mpr hentry)
  | @leaveOut before after name value _ =>
    cases hrecord with
    | table honce hothers =>
      have hfewer := (List.sublist_cons_self (some name, value) after).append_left before
      refine .table (fun key hkey => ?_) fun entry hentry => ?_
      · exact Nat.le_trans ((hfewer.map Prod.fst).count_le _) (honce key hkey)
      · exact hothers entry (hfewer.subset hentry)
  | element before after _ =>
    cases hrecord with
    | list hlength => exact .list (by simpa using hlength)
  | entry before after name _ =>
    cases hrecord with
    | table honce hothers =>
      simp only [List.map_append, List.map_cons, List.forall_mem_append,
        List.forall_mem_cons] at honce hothers
      refine .table (fun key hkey => by simpa using honce key hkey) fun entry hentry => ?_
      simp only [List.mem_append, List.mem_cons] at hentry
      obtain hentry | rfl | hentry := hentry
      · exact hothers.1 entry hentry
      · obtain ⟨key, hkey, _⟩ := hothers.2.1
        exact ⟨key, hkey, .inr rfl⟩
      · exact hothers.2.2 entry hentry

/-- Where a key occurs once at most, the order of the entries does not matter. -/
theorem lookup_eq_of_perm {entries entries' : List (Option String × Datum)}
    (h : entries.Perm entries') (honce : (entries.map Prod.fst).count (some key) ≤ 1) :
    entries.lookup (some key) = entries'.lookup (some key) := by
  have hlength : (entries.filter fun entry => entry.1 == some key).length ≤ 1 := by
    rwa [List.count, List.countP_map, List.countP_eq_length_filter] at honce
  have hperm := h.filter fun entry => entry.1 == some key
  rw [lookup_eq_head?_filter, lookup_eq_head?_filter]
  generalize entries.filter (fun entry => entry.1 == some key) = found at hlength hperm
  match found with
  | [] => rw [List.nil_perm.mp hperm]
  | [_] => rw [List.singleton_perm.mp hperm]
  | _ :: _ :: _ => simp at hlength

/-- Nothing stands under a key that does not occur. -/
theorem lookup_eq_none_of_count_eq_zero {entries : List (Option String × Datum)}
    (h : (entries.map Prod.fst).count (some key) = 0) : entries.lookup (some key) = none := by
  refine List.lookup_eq_none_iff.mpr fun entry hentry => bne_iff_ne.mpr fun heq => ?_
  exact List.count_eq_zero.mp h (heq ▸ List.mem_map_of_mem hentry)

/-- The value under each key of a record follows when the record is written differently. -/
theorem follows_value? (hrecord : datum.IsRecord json keys)
    (h : Rewrites defaults datum datum') (hkey : key ∈ keys) :
    Follows defaults key (datum.value? keys key) (datum'.value? keys key) := by
  cases h with
  | reorder hperm =>
    cases hrecord with
    | table honce _ =>
      simp only [value?]
      rw [lookup_eq_of_perm hperm (honce key hkey)]
      exact .same _
  | @leaveOut before after name value hdefault =>
    cases hrecord with
    | table honce _ =>
      simp only [value?, List.lookup_append, List.lookup_cons]
      by_cases hname : key = name
      · subst hname
        have hcount := honce key hkey
        simp only [List.map_append, List.map_cons, List.count_append, List.count_cons_self]
          at hcount
        -- The entry that is left out is the only one under its key.
        have hbefore : before.lookup (some key) = none :=
          lookup_eq_none_of_count_eq_zero (by omega)
        have hafter : after.lookup (some key) = none :=
          lookup_eq_none_of_count_eq_zero (by omega)
        rw [hbefore, hafter, beq_self_eq_true]
        exact .leftOut hdefault
      · rw [beq_eq_false_iff_ne.mpr (by simpa using hname)]
        exact .same _
  | @element before after item item' hitem =>
    cases hrecord with
    | list _ =>
      simp only [value?, List.getElem?_append, List.getElem?_cons]
      split
      · exact .same _
      · split
        · exact .rewritten hitem
        · exact .same _
  | @entry before after name value value' hvalue =>
    cases hrecord with
    | table _ _ =>
      simp only [value?, List.lookup_append, List.lookup_cons]
      cases before.lookup (some key) with
      | some found => exact .same _
      | none =>
        cases some key == name with
        | true => exact .rewritten hvalue
        | false => exact .same _

/-- Decoders whose result does not depend on how data are written. -/
def Respects (defaults : List (String × Datum)) (decode : Datum → Option α) : Prop :=
  ∀ datum datum' value, Rewrites defaults datum datum' → decode datum = some value →
    decode datum' = some value

/-- A text can be written in one way only. -/
theorem respects_text? : Respects defaults text? := by
  rintro _ _ value (_ | _ | _ | _) h <;> cases h

/-- An element of a list may be replaced by one that has the same values. -/
theorem forall₂_replace {β : Type} {R : α → β → Prop} {before after : List α} {item item' : α}
    {values : List β} (hitem : ∀ value, R item value → R item' value)
    (h : List.Forall₂ R (before ++ item :: after) values) :
    List.Forall₂ R (before ++ item' :: after) values := by
  induction before generalizing values with
  | nil =>
    cases h with
    | cons hvalue hvalues => exact .cons (hitem _ hvalue) hvalues
  | cons first before ih =>
    cases h with
    | cons hvalue hvalues => exact .cons hvalue (ih hvalues)

/-- A list may have its elements written differently. -/
theorem Respects.list? {decode : Datum → Option α} (hdecode : Respects defaults decode) :
    Respects defaults (list? decode) := by
  intro datum datum' values hrewrites h
  obtain ⟨items, rfl, hitems⟩ := list?_eq_some_iff.mp h
  cases hrewrites with
  | element before after hitem =>
    refine list?_eq_some_iff.mpr ⟨_, rfl, forall₂_replace (fun value => ?_) hitems⟩
    exact hdecode _ _ value hitem

/-- A table whose only entry is empty can neither have it changed nor, if no default is empty,
left out. -/
theorem eq_of_rewrites_singleton (hdefaults : ∀ entry ∈ defaults, json.empty entry.2 = false)
    {name : Option String} {value : Datum} (hempty : json.empty value = true)
    (h : Rewrites defaults (.table [(name, value)]) datum') : datum' = .table [(name, value)] := by
  generalize hentries : [(name, value)] = entries at h
  cases h with
  | reorder hperm =>
    subst hentries
    rw [List.singleton_perm.mp hperm]
  | leaveOut before after hdefault =>
    obtain ⟨rfl, hentry, rfl⟩ : before = [] ∧ (some _, _) = (name, value) ∧ after = [] := by
      simpa [List.append_eq_cons_iff] using hentries.symm
    cases hentry
    exact absurd hempty (by simp [hdefaults _ hdefault])
  | entry before after key hvalue =>
    obtain ⟨rfl, hentry, rfl⟩ : before = [] ∧ (key, _) = (name, value) ∧ after = [] := by
      simpa [List.append_eq_cons_iff] using hentries.symm
    cases hentry
    cases hvalue <;> cases hempty

/-- A variant can be written in its own way only, if no default is empty. -/
theorem respects_variant? {variants : List (String × α)}
    (hdefaults : ∀ entry ∈ defaults, json.empty entry.2 = false) :
    Respects defaults (variant? json variants) := by
  intro datum datum' value hrewrites h
  unfold variant? at h
  split at h
  · cases hrewrites
  · split at h
    · next hempty =>
      rw [eq_of_rewrites_singleton hdefaults hempty hrewrites, variant?, if_pos hempty]
      exact h
    · cases h
  · cases h

/-- A field that must be present is decoded as before, as its key has no default. -/
theorem required_of_rewrites {decode : Datum → Option α} (hdecode : Respects defaults decode)
    (hdefault : ∀ value, (key, value) ∉ defaults) (hrecord : datum.IsRecord json keys)
    (hrewrites : Rewrites defaults datum datum') (hkey : key ∈ keys) {value : α}
    (h : required decode (datum.value? keys key) = some value) :
    required decode (datum'.value? keys key) = some value := by
  have hfollows := follows_value? hrecord hrewrites hkey
  generalize datum.value? keys key = given, datum'.value? keys key = given' at h hfollows ⊢
  cases hfollows with
  | same => exact h
  | rewritten hvalue => exact hdecode _ _ value hvalue h
  | leftOut hmem => exact absurd hmem (hdefault _)

/-- A field that may be absent is decoded as before, as what may be left out under its key is
decoded as its default. -/
theorem optional_of_rewrites {decode : Datum → Option α} (hdecode : Respects defaults decode)
    {default : α} (hdefault : ∀ value, (key, value) ∈ defaults → decode value = some default)
    (hrecord : datum.IsRecord json keys) (hrewrites : Rewrites defaults datum datum')
    (hkey : key ∈ keys) {value : α}
    (h : optional decode default (datum.value? keys key) = some value) :
    optional decode default (datum'.value? keys key) = some value := by
  have hfollows := follows_value? hrecord hrewrites hkey
  generalize datum.value? keys key = given, datum'.value? keys key = given' at h hfollows ⊢
  cases hfollows with
  | same => exact h
  | rewritten hvalue => exact hdecode _ _ value hvalue h
  | leftOut hmem => exact (hdefault _ hmem).symm.trans h

/-- What respects each change respects any number of them. -/
theorem Respects.of_reflTransGen {decode : Datum → Option α} (hdecode : Respects defaults decode)
    {value : α} (h : decode datum = some value)
    (hrewrites : ReflTransGen (Rewrites defaults) datum datum') :
    decode datum' = some value := by
  induction hrewrites with
  | refl => exact h
  | tail _ hstep ih => exact hdecode _ _ value hstep ih

end ToStringGen.Datum
