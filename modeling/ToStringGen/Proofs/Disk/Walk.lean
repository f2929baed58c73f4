import Mathlib.Data.List.Basic
import ToStringGen.Disk

/-!
# Walks

Following a path either fails or is a walk: a sequence of steps through directories
and links that ends at an entry or at a free name. What is true of every path that
leads somewhere is proved by induction on its walk.
-/

namespace ToStringGen.Disk

/-- A name that is looked up in a directory. -/
structure IsEntryName (name : String) : Prop where
  ne_here : name ≠ "."
  ne_up : name ≠ ".."
  size_le : name.utf8ByteSize ≤ nameLimit

/-- The names lead from a directory to a spot, through at most a number of links. -/
inductive Walk (disk : Disk) (last : Bool) : Nat → Location → List String → Spot → Prop
  | arrive {links : Nat} {location : Location} {entry : Entry}
      (hentry : disk.entry? location = some entry) :
      Walk disk last links location [] (.occupied location entry)
  | stay {links : Nat} {location : Location} {rest : List String} {spot : Spot}
      (hdirectory : disk.entry? location = some .directory)
      (hrest : Walk disk last links location rest spot) :
      Walk disk last links location ("." :: rest) spot
  | rise {links : Nat} {location : Location} {rest : List String} {spot : Spot}
      (hdirectory : disk.entry? location = some .directory)
      (hrest : Walk disk last links location.dropLast rest spot) :
      Walk disk last links location (".." :: rest) spot
  | free {links : Nat} {location : Location} {name : String}
      (hdirectory : disk.entry? location = some .directory) (hname : IsEntryName name)
      (hfree : disk.entry? (location ++ [name]) = none) :
      Walk disk last links location [name] (.vacant location name)
  | halt {links : Nat} {location : Location} {name target : String}
      (hdirectory : disk.entry? location = some .directory) (hname : IsEntryName name)
      (hlink : disk.entry? (location ++ [name]) = some (.link target)) (hlast : last = false) :
      Walk disk last links location [name] (.occupied (location ++ [name]) (.link target))
  | turn {links : Nat} {location : Location} {name target : String} {rest : List String}
      {spot : Spot} (hdirectory : disk.entry? location = some .directory)
      (hname : IsEntryName name)
      (hlink : disk.entry? (location ++ [name]) = some (.link target))
      (hfollowed : rest ≠ [] ∨ last = true)
      (hrest : Walk disk last links (start target location) (steps target ++ rest) spot) :
      Walk disk last (links + 1) location (name :: rest) spot
  | descend {links : Nat} {location : Location} {name : String} {entry : Entry}
      {rest : List String} {spot : Spot}
      (hdirectory : disk.entry? location = some .directory) (hname : IsEntryName name)
      (hentry : disk.entry? (location ++ [name]) = some entry)
      (hlink : ∀ target, entry ≠ .link target)
      (hrest : Walk disk last links (location ++ [name]) rest spot) :
      Walk disk last links location (name :: rest) spot

variable {disk : Disk} {last : Bool} {links : Nat} {location : Location} {names : List String}
  {spot : Spot}

/-- A name that is free is where a path ends, or breaks off. -/
theorem follow_of_free {name : String} (rest : List String)
    (hdirectory : disk.entry? location = some .directory) (hname : IsEntryName name)
    (hfree : disk.entry? (location ++ [name]) = none) :
    disk.follow last links location (name :: rest) =
      if rest = [] then .ok (.vacant location name) else .error (.system .notFound) := by
  rw [follow, if_neg (by simp [hdirectory]), if_neg hname.ne_here, if_neg hname.ne_up,
    if_neg (Nat.not_lt.mpr hname.size_le)]
  simp only [hfree]

/-- A link is followed unless it is the end of the path and is not to be. -/
theorem follow_of_link {name target : String} {rest : List String}
    (hdirectory : disk.entry? location = some .directory) (hname : IsEntryName name)
    (hlink : disk.entry? (location ++ [name]) = some (.link target))
    (hfollowed : rest ≠ [] ∨ last = true) :
    disk.follow last (links + 1) location (name :: rest) =
      disk.follow last links (start target location) (steps target ++ rest) := by
  have hgoes : ¬(rest = [] ∧ (!last) = true) := by
    rcases hfollowed with hrest | hlast
    · simp [hrest]
    · simp [hlast]
  rw [follow, if_neg (by simp [hdirectory]), if_neg hname.ne_here, if_neg hname.ne_up,
    if_neg (Nat.not_lt.mpr hname.size_le)]
  simp only [hlink, if_neg hgoes]

/-- Every other entry is entered. -/
theorem follow_of_entry {name : String} {entry : Entry} (rest : List String)
    (hdirectory : disk.entry? location = some .directory) (hname : IsEntryName name)
    (hentry : disk.entry? (location ++ [name]) = some entry)
    (hlink : ∀ target, entry ≠ .link target) :
    disk.follow last links location (name :: rest) =
      disk.follow last links (location ++ [name]) rest := by
  rw [follow, if_neg (by simp [hdirectory]), if_neg hname.ne_here, if_neg hname.ne_up,
    if_neg (Nat.not_lt.mpr hname.size_le)]
  cases entry with
  | link target => exact absurd rfl (hlink target)
  | _ => simp only [hentry]

/-- A walk is followed. -/
theorem Walk.follow_eq (h : Walk disk last links location names spot) :
    disk.follow last links location names = .ok spot := by
  induction h with
  | arrive hentry => rw [follow, hentry]
  | stay hdirectory _ ih => rw [follow, if_neg (by simp [hdirectory]), if_pos rfl, ih]
  | rise hdirectory _ ih =>
    rw [follow, if_neg (by simp [hdirectory]), if_neg (by decide), if_pos rfl, ih]
  | free hdirectory hname hfree =>
    rw [follow_of_free _ hdirectory hname hfree, if_pos rfl]
  | @halt links location name target hdirectory hname hlink hlast =>
    rw [follow, if_neg (by simp [hdirectory]), if_neg hname.ne_here, if_neg hname.ne_up,
      if_neg (Nat.not_lt.mpr hname.size_le)]
    simp [hlink, hlast]
  | turn hdirectory hname hlink hfollowed _ ih =>
    rw [follow_of_link hdirectory hname hlink hfollowed, ih]
  | descend hdirectory hname hentry hlink _ ih =>
    rw [follow_of_entry _ hdirectory hname hentry hlink, ih]

/-- Whatever can be followed is a walk. -/
theorem Walk.of_follow_eq (h : disk.follow last links location names = .ok spot) :
    Walk disk last links location names spot := by
  fun_induction disk.follow last links location names generalizing spot with
  | case1 links location entry hentry =>
    rw [← Except.ok.inj h]
    exact .arrive hentry
  | case2 => simp at h
  | case3 => simp at h
  | case4 links location rest hdirectory ih => exact .stay (by simpa using hdirectory) (ih h)
  | case5 links location rest hdirectory _ ih => exact .rise (by simpa using hdirectory) (ih h)
  | case6 => simp at h
  | case7 links location name hdirectory hhere hup hsize hfree =>
    rw [← Except.ok.inj h]
    exact .free (by simpa using hdirectory) ⟨hhere, hup, Nat.not_lt.mp hsize⟩ hfree
  | case8 => simp at h
  | case9 links location name rest hdirectory hhere hup hsize target hlink hend =>
    obtain ⟨rfl, hlast⟩ := hend
    rw [← Except.ok.inj h]
    exact .halt (by simpa using hdirectory) ⟨hhere, hup, Nat.not_lt.mp hsize⟩ hlink
      (by simpa using hlast)
  | case10 => simp at h
  | case11 location name rest hdirectory hhere hup hsize target hlink hend links ih =>
    refine .turn (by simpa using hdirectory) ⟨hhere, hup, Nat.not_lt.mp hsize⟩ hlink ?_ (ih h)
    by_cases hrest : rest = []
    · exact Or.inr (by simpa [hrest] using hend)
    · exact Or.inl hrest
  | case12 links location name rest hdirectory hhere hup hsize entry hlink hentry ih =>
    exact .descend (by simpa using hdirectory) ⟨hhere, hup, Nat.not_lt.mp hsize⟩ hentry
      (fun target heq => hlink target heq) (ih h)

/-- Paths lead where walks lead. -/
theorem follow_eq_ok_iff :
    disk.follow last links location names = .ok spot ↔
      Walk disk last links location names spot :=
  ⟨Walk.of_follow_eq, Walk.follow_eq⟩

namespace Walk

variable {place : Location} {entry : Entry} {name : String}

/-- An occupied spot is named with its entry. -/
theorem entry?_eq (h : Walk disk last links location names (.occupied place entry)) :
    disk.entry? place = some entry := by
  generalize hspot : Spot.occupied place entry = spot at h
  induction h with
  | arrive hentry => cases hspot; exact hentry
  | free => cases hspot
  | halt _ _ hlink => cases hspot; exact hlink
  | stay _ _ ih => exact ih hspot
  | rise _ _ ih => exact ih hspot
  | turn _ _ _ _ _ ih => exact ih hspot
  | descend _ _ _ _ _ ih => exact ih hspot

/-- A free name is one in a directory. -/
theorem of_vacant (h : Walk disk last links location names (.vacant place name)) :
    disk.entry? place = some .directory ∧ IsEntryName name ∧
      disk.entry? (place ++ [name]) = none := by
  generalize hspot : Spot.vacant place name = spot at h
  induction h with
  | arrive => cases hspot
  | free hdirectory hname hfree => cases hspot; exact ⟨hdirectory, hname, hfree⟩
  | halt => cases hspot
  | stay _ _ ih => exact ih hspot
  | rise _ _ ih => exact ih hspot
  | turn _ _ _ _ _ ih => exact ih hspot
  | descend _ _ _ _ _ ih => exact ih hspot

/-- A walk with a step to take starts in a directory. -/
theorem directory_of_ne_nil (h : Walk disk last links location names spot) (hne : names ≠ []) :
    disk.entry? location = some .directory := by
  cases h with
  | arrive => exact absurd rfl hne
  | stay hdirectory => exact hdirectory
  | rise hdirectory => exact hdirectory
  | free hdirectory => exact hdirectory
  | halt hdirectory => exact hdirectory
  | turn hdirectory => exact hdirectory
  | descend hdirectory => exact hdirectory

/-- All names on a walk are short enough. -/
theorem size_le (h : Walk disk last links location names spot) :
    ∀ name ∈ names, name.utf8ByteSize ≤ nameLimit := by
  induction h with
  | arrive => simp
  | stay _ _ ih => exact List.forall_mem_cons.mpr ⟨by decide, ih⟩
  | rise _ _ ih => exact List.forall_mem_cons.mpr ⟨by decide, ih⟩
  | free _ hname => exact List.forall_mem_singleton.mpr hname.size_le
  | halt _ hname => exact List.forall_mem_singleton.mpr hname.size_le
  | turn _ hname _ _ _ ih =>
    exact List.forall_mem_cons.mpr
      ⟨hname.size_le, fun name hmem => ih name (List.mem_append_right _ hmem)⟩
  | descend _ hname _ _ _ ih => exact List.forall_mem_cons.mpr ⟨hname.size_le, ih⟩

/-- More links may be allowed than a walk leads through. -/
theorem mono (h : Walk disk last links location names spot) {more : Nat} (hle : links ≤ more) :
    Walk disk last more location names spot := by
  induction h generalizing more with
  | arrive hentry => exact .arrive hentry
  | stay hdirectory _ ih => exact .stay hdirectory (ih hle)
  | rise hdirectory _ ih => exact .rise hdirectory (ih hle)
  | free hdirectory hname hfree => exact .free hdirectory hname hfree
  | halt hdirectory hname hlink hlast => exact .halt hdirectory hname hlink hlast
  | turn hdirectory hname hlink hfollowed _ ih =>
    obtain ⟨more, rfl⟩ : ∃ fewer, more = fewer + 1 := ⟨more - 1, by omega⟩
    exact .turn hdirectory hname hlink hfollowed (ih (by omega))
  | descend hdirectory hname hentry hlink _ ih =>
    exact .descend hdirectory hname hentry hlink (ih hle)

/-- The same names lead to the same spot, however many links are allowed. -/
theorem unique {other : Spot} {fewer : Nat} (h : Walk disk last links location names spot)
    (hother : Walk disk last fewer location names other) : spot = other := by
  have hspot := (h.mono (Nat.le_max_left links fewer)).follow_eq
  rw [(hother.mono (Nat.le_max_right links fewer)).follow_eq] at hspot
  exact (Except.ok.inj hspot).symm

/-- Whatever leads further leads first to a directory. -/
theorem of_append {front rest : List String}
    (h : Walk disk last links location (front ++ rest) spot) (hrest : rest ≠ []) :
    ∃ middle, Walk disk true links location front (.occupied middle .directory) ∧
      Walk disk last links middle rest spot := by
  generalize hnames : front ++ rest = names at h
  induction h generalizing front with
  | arrive hentry => simp [hrest] at hnames
  | stay hdirectory hmore ih =>
    rcases front with _ | ⟨first, front⟩
    · obtain rfl : rest = _ := hnames
      exact ⟨_, .arrive hdirectory, .stay hdirectory hmore⟩
    · simp only [List.cons_append, List.cons.injEq] at hnames
      obtain ⟨rfl, hnames⟩ := hnames
      obtain ⟨middle, hfront, hwalk⟩ := ih hnames
      exact ⟨middle, .stay hdirectory hfront, hwalk⟩
  | rise hdirectory hmore ih =>
    rcases front with _ | ⟨first, front⟩
    · obtain rfl : rest = _ := hnames
      exact ⟨_, .arrive hdirectory, .rise hdirectory hmore⟩
    · simp only [List.cons_append, List.cons.injEq] at hnames
      obtain ⟨rfl, hnames⟩ := hnames
      obtain ⟨middle, hfront, hwalk⟩ := ih hnames
      exact ⟨middle, .rise hdirectory hfront, hwalk⟩
  | free hdirectory hname hfree =>
    rcases front with _ | ⟨first, front⟩
    · obtain rfl : rest = _ := hnames
      exact ⟨_, .arrive hdirectory, .free hdirectory hname hfree⟩
    · simp [hrest] at hnames
  | halt hdirectory hname hlink hlast =>
    rcases front with _ | ⟨first, front⟩
    · obtain rfl : rest = _ := hnames
      exact ⟨_, .arrive hdirectory, .halt hdirectory hname hlink hlast⟩
    · simp [hrest] at hnames
  | turn hdirectory hname hlink hfollowed hmore ih =>
    rcases front with _ | ⟨first, front⟩
    · obtain rfl : rest = _ := hnames
      exact ⟨_, .arrive hdirectory, .turn hdirectory hname hlink hfollowed hmore⟩
    · simp only [List.cons_append, List.cons.injEq] at hnames
      obtain ⟨rfl, rfl⟩ := hnames
      obtain ⟨middle, hfront, hwalk⟩ := ih (List.append_assoc ..)
      exact ⟨middle, .turn hdirectory hname hlink (Or.inr rfl) hfront,
        hwalk.mono (Nat.le_succ _)⟩
  | descend hdirectory hname hentry hlink hmore ih =>
    rcases front with _ | ⟨first, front⟩
    · obtain rfl : rest = _ := hnames
      exact ⟨_, .arrive hdirectory, .descend hdirectory hname hentry hlink hmore⟩
    · simp only [List.cons_append, List.cons.injEq] at hnames
      obtain ⟨rfl, hnames⟩ := hnames
      obtain ⟨middle, hfront, hwalk⟩ := ih hnames
      exact ⟨middle, .descend hdirectory hname hentry hlink hfront, hwalk⟩

/-- Names after a walk to a directory are followed from there. -/
theorem follow_append {middle : Location} {front : List String}
    (h : Walk disk true links location front (.occupied middle .directory)) :
    ∃ fewer, fewer ≤ links ∧ ∀ last rest, rest ≠ [] →
      disk.follow last links location (front ++ rest) = disk.follow last fewer middle rest := by
  generalize hspot : Spot.occupied middle .directory = spot at h
  induction h with
  | @arrive links =>
    cases hspot
    exact ⟨links, Nat.le_refl links, fun last rest _ => rfl⟩
  | stay hdirectory _ ih =>
    obtain ⟨fewer, hle, heq⟩ := ih hspot
    refine ⟨fewer, hle, fun last rest hrest => ?_⟩
    rw [List.cons_append, follow, if_neg (by simp [hdirectory]), if_pos rfl, heq last rest hrest]
  | rise hdirectory _ ih =>
    obtain ⟨fewer, hle, heq⟩ := ih hspot
    refine ⟨fewer, hle, fun last rest hrest => ?_⟩
    rw [List.cons_append, follow, if_neg (by simp [hdirectory]), if_neg (by decide), if_pos rfl,
      heq last rest hrest]
  | free => cases hspot
  | halt _ _ _ hlast => exact Bool.noConfusion hlast
  | turn hdirectory hname hlink _ _ ih =>
    obtain ⟨fewer, hle, heq⟩ := ih hspot
    refine ⟨fewer, by omega, fun last rest hrest => ?_⟩
    rw [List.cons_append, follow_of_link hdirectory hname hlink (Or.inl (by simp [hrest])),
      ← List.append_assoc, heq last rest hrest]
  | descend hdirectory hname hentry hlink _ ih =>
    obtain ⟨fewer, hle, heq⟩ := ih hspot
    refine ⟨fewer, hle, fun last rest hrest => ?_⟩
    rw [List.cons_append, follow_of_entry _ hdirectory hname hentry hlink, heq last rest hrest]

/-- A walk to a directory goes on with any walk that needs no links. -/
theorem append {middle : Location} {front rest : List String}
    (h : Walk disk true links location front (.occupied middle .directory)) (hrest : rest ≠ [])
    (hmore : Walk disk last 0 middle rest spot) :
    Walk disk last links location (front ++ rest) spot := by
  obtain ⟨fewer, _, heq⟩ := h.follow_append
  rw [← follow_eq_ok_iff, heq last rest hrest, follow_eq_ok_iff]
  exact hmore.mono (Nat.zero_le fewer)

end Walk

end ToStringGen.Disk
