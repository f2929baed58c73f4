/-!
# Registers

Events make entries under keys and strike them out. An entry is made by an event about
its key that finds none, and further ones leave it at its place until it is struck out.
The order in which the entries were made follows from the events alone, and a list of
keys can keep it.
-/

namespace ToStringGen

/-- How events are read: each is about the entry of a key, which it strikes out or, unless it is
there, makes. -/
structure Register (α κ : Type) where
  key : α → κ
  strikes : α → Bool

namespace Register

variable {α κ : Type} [DecidableEq κ]

/-- The number of the event that made the entry of a key first since it was last struck out, if it
was made since. The history has the latest event first, and the earliest one has number zero. -/
def enteredAt (register : Register α κ) (key : κ) : (history : List α) → Option Nat
  | [] => none
  | event :: earlier =>
      if register.key event = key then
        if register.strikes event then none
        else some ((register.enteredAt key earlier).getD earlier.length)
      else register.enteredAt key earlier

/-- Both entries are there, one of them made before the other. -/
def EnteredBefore (register : Register α κ) (history : List α) (key other : κ) : Prop :=
  ∃ early late, register.enteredAt key history = some early ∧
    register.enteredAt other history = some late ∧ early < late

/-- The list has the keys of all entries that are there, in the order in which they were made. -/
structure Lists (register : Register α κ) (history : List α) (keys : List κ) : Prop where
  mem_iff : ∀ key, key ∈ keys ↔ register.enteredAt key history ≠ none
  sorted : keys.Pairwise (register.EnteredBefore history)

variable {register : Register α κ} {history : List α} {event : α} {key other : κ} {keys : List κ}

/-- Entries are made by events of the history. -/
theorem enteredAt_lt {number : Nat} (h : register.enteredAt key history = some number) :
    number < history.length := by
  induction history generalizing number with
  | nil => exact absurd h.symm (Option.some_ne_none number)
  | cons event earlier ih =>
    rw [List.length_cons]
    rw [enteredAt] at h
    split at h
    · split at h
      · exact absurd h.symm (Option.some_ne_none number)
      · rw [← Option.some.inj h]
        cases hearlier : register.enteredAt key earlier with
        | none => exact Nat.lt_succ_self _
        | some before => exact Nat.lt_succ_of_lt (ih hearlier)
    · exact Nat.lt_succ_of_lt (ih h)

/-- An entry is there if the latest event about its key did not strike it out. -/
theorem enteredAt_ne_none_iff : register.enteredAt key history ≠ none ↔
    ∃ event, history.find? (fun event => register.key event = key) = some event ∧
      register.strikes event = false := by
  induction history with
  | nil => simp [enteredAt]
  | cons latest earlier ih =>
    rw [enteredAt]
    by_cases hkey : register.key latest = key
    · rw [if_pos hkey, List.find?_cons_of_pos (by simpa using hkey)]
      cases hstrikes : register.strikes latest <;> simp [hstrikes]
    · rw [if_neg hkey, List.find?_cons_of_neg (by simpa using hkey)]
      exact ih

/-- An event about one entry changes nothing about when the others were made. -/
theorem enteredAt_cons_of_ne (h : register.key event ≠ key) :
    register.enteredAt key (event :: history) = register.enteredAt key history := by
  rw [enteredAt, if_neg h]

/-- An event that is to make an entry that is there does not count. -/
theorem enteredAt_cons_of_some (hstrikes : register.strikes event = false)
    (h : register.enteredAt (register.key event) history ≠ none) :
    register.enteredAt key (event :: history) = register.enteredAt key history := by
  rw [enteredAt]
  split
  · next heq =>
    rw [heq] at h
    obtain ⟨number, hnumber⟩ := Option.ne_none_iff_exists'.mp h
    rw [hstrikes, hnumber]
    rfl
  · rfl

namespace Lists

/-- At first there are no entries. -/
theorem nil : register.Lists [] [] where
  mem_iff key := by simp [enteredAt]
  sorted := .nil

/-- No key is listed twice. -/
theorem nodup (h : register.Lists history keys) : keys.Nodup := by
  refine h.sorted.imp fun {key other} hbefore heq => ?_
  obtain ⟨early, late, hearly, hlate, hlt⟩ := hbefore
  rw [heq, hlate] at hearly
  have hsame := Option.some.inj hearly
  omega

/-- Making an entry that is there leaves it at its place. -/
theorem enter_of_mem (h : register.Lists history keys) (hstrikes : register.strikes event = false)
    (hmem : register.key event ∈ keys) : register.Lists (event :: history) keys := by
  have hthere := (h.mem_iff _).mp hmem
  constructor
  · intro key
    rw [h.mem_iff, enteredAt_cons_of_some hstrikes hthere]
  · refine h.sorted.imp fun {key other} hbefore => ?_
    rw [EnteredBefore, enteredAt_cons_of_some hstrikes hthere,
      enteredAt_cons_of_some hstrikes hthere]
    exact hbefore

/-- Making an entry that is not there puts it at the end. -/
theorem enter_of_not_mem (h : register.Lists history keys)
    (hstrikes : register.strikes event = false) (hmem : register.key event ∉ keys) :
    register.Lists (event :: history) (keys ++ [register.key event]) := by
  have hnone : register.enteredAt (register.key event) history = none :=
    Classical.byContradiction fun hthere => hmem ((h.mem_iff _).mpr hthere)
  have hnew : register.enteredAt (register.key event) (event :: history) =
      some history.length := by
    rw [enteredAt, if_pos rfl, hstrikes, hnone]
    rfl
  have hold : ∀ key ∈ keys,
      register.enteredAt key (event :: history) = register.enteredAt key history :=
    fun key hin => enteredAt_cons_of_ne fun heq => hmem (heq ▸ hin)
  constructor
  · intro key
    rw [List.mem_append, List.mem_singleton]
    by_cases heq : register.key event = key
    · rw [← heq, hnew]
      simp
    · rw [enteredAt_cons_of_ne heq, h.mem_iff]
      simp [Ne.symm heq]
  · refine List.pairwise_append.mpr ⟨h.sorted.imp_of_mem ?_, List.pairwise_singleton .., ?_⟩
    · intro key other hkey hother hbefore
      rw [EnteredBefore, hold key hkey, hold other hother]
      exact hbefore
    · intro key hin last hlast
      rw [List.mem_singleton.mp hlast]
      obtain ⟨number, hnumber⟩ := Option.ne_none_iff_exists'.mp ((h.mem_iff key).mp hin)
      exact ⟨number, history.length, (hold key hin).trans hnumber, hnew, enteredAt_lt hnumber⟩

/-- An entry that is made is put at the end, unless it is there. -/
theorem enter (h : register.Lists history keys) (hstrikes : register.strikes event = false) :
    register.Lists (event :: history)
      (if register.key event ∈ keys then keys else keys ++ [register.key event]) := by
  split
  · next hmem => exact h.enter_of_mem hstrikes hmem
  · next hmem => exact h.enter_of_not_mem hstrikes hmem

/-- Striking an entry out takes it off the list. -/
theorem strike (h : register.Lists history keys) (hstrikes : register.strikes event = true) :
    register.Lists (event :: history) (keys.filter (· != register.key event)) := by
  have hnone : register.enteredAt (register.key event) (event :: history) = none := by
    rw [enteredAt, if_pos rfl, if_pos hstrikes]
  constructor
  · intro key
    rw [List.mem_filter, bne_iff_ne]
    by_cases heq : key = register.key event
    · rw [heq, hnone]
      simp
    · rw [enteredAt_cons_of_ne (Ne.symm heq), h.mem_iff]
      simp [heq]
  · refine (h.sorted.filter _).imp_of_mem fun {key other} hkey hother hbefore => ?_
    have hne : register.key event ≠ key :=
      fun heq => bne_iff_ne.mp (List.mem_filter.mp hkey).2 heq.symm
    have hneOther : register.key event ≠ other :=
      fun heq => bne_iff_ne.mp (List.mem_filter.mp hother).2 heq.symm
    rw [EnteredBefore, enteredAt_cons_of_ne hne, enteredAt_cons_of_ne hneOther]
    exact hbefore

end Lists

end Register

end ToStringGen
