import ToStringGen.Log.Level

/-!
# Changing the log level while running

A logger is installed with a filter that can be replaced later. The switch
remembers whether a logger was ever installed and which level was applied last;
once the logger is gone, the switch has nothing left to act on.
-/

namespace ToStringGen.Log

/-- The logger that a switch is connected to. -/
inductive Connection where
  /-- No logger was ever installed. -/
  | never
  /-- A logger is running with this filter. -/
  | running (filter : Level)
  /-- The logger was removed. -/
  | gone
  deriving DecidableEq, Repr, Inhabited

/-- The control of the log level. -/
structure Switch where
  connection : Connection := .never
  /-- The level applied last. -/
  level : Level := .info
  deriving DecidableEq, Repr, Inhabited

/-- Why a level could not be applied. -/
inductive SwitchError where
  | notInstalled
  | loggerGone
  deriving DecidableEq, Repr, Inhabited

/-- The wording of a refusal. -/
def SwitchError.message : SwitchError → String
  | notInstalled => "Reload handle not initialized"
  | loggerGone => "Failed to reload filter: subscriber no longer exists"

namespace Switch

/-- Whether a logger was ever installed. -/
def isInitialized (switch : Switch) : Bool :=
  switch.connection != .never

/-- Connects a new logger, whose filter is open at first, and records its intended level. -/
def install (_ : Switch) (level : Level) : Switch :=
  { connection := .running .trace, level }

/-- Removes the logger. -/
def uninstall (switch : Switch) : Switch :=
  match switch.connection with
  | .running _ => { switch with connection := .gone }
  | _ => switch

/-- Applies a level to the running logger; the switch keeps the old one if there is none. -/
def reload (switch : Switch) (level : Level) : Except SwitchError Switch :=
  match switch.connection with
  | .never => .error .notInstalled
  | .gone => .error .loggerGone
  | .running _ => .ok { connection := .running level, level }

/-- Whether an entry of a level reaches the logger. -/
def reaches (switch : Switch) (entry : Level) : Bool :=
  match switch.connection with
  | .running filter => filter.admits entry
  | _ => false

end Switch

end ToStringGen.Log
