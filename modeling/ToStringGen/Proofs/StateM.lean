/-!
# Running actions on a state

The filers, and the commands on a model of a disk, are actions on a state. Run from
a state, such actions are read as pairs of a result and the state they leave.
-/

namespace ToStringGen

variable {σ α β : Type}

/-- Nothing happens to the state when a result is returned. -/
@[simp high] theorem run_pure (result : α) (s : σ) :
    (pure result : StateM σ α).run s = (result, s) := rfl

/-- The second of two actions runs from the state that the first leaves. -/
@[simp high] theorem run_bind (first : StateM σ α) (next : α → StateM σ β) (s : σ) :
    (first >>= next).run s = (next (first.run s).1).run (first.run s).2 := rfl

/-- A function of a result does nothing to the state. -/
@[simp high] theorem run_map (f : α → β) (action : StateM σ α) (s : σ) :
    (f <$> action).run s = (f (action.run s).1, (action.run s).2) := rfl

end ToStringGen
