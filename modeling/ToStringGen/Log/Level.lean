/-!
# Log levels

Levels run from the most talkative to silence. An entry passes a filter when its
level is at least that of the filter; no entry has the level `off`.
-/

namespace ToStringGen.Log

/-- A level of logging. -/
inductive Level where
  | trace
  | debug
  | info
  | warn
  | error
  | off
  deriving DecidableEq, Repr, Inhabited

namespace Level

/-- The position of a level, the most talkative first. -/
def rank : Level → Nat
  | trace => 0
  | debug => 1
  | info => 2
  | warn => 3
  | error => 4
  | off => 5

/-- The level at a position; past the last one there is silence. -/
def ofRank : Nat → Level
  | 0 => trace
  | 1 => debug
  | 2 => info
  | 3 => warn
  | 4 => error
  | _ => off

/-- The name of a level. -/
def label : Level → String
  | trace => "TRACE"
  | debug => "DEBUG"
  | info => "INFO"
  | warn => "WARN"
  | error => "ERROR"
  | off => "OFF"

/-- The level of a given name, in any mixture of cases; `warning` is an alternative spelling. -/
def parse? (text : String) : Option Level :=
  match text.toLower with
  | "trace" => some trace
  | "debug" => some debug
  | "info" => some info
  | "warn" => some warn
  | "warning" => some warn
  | "error" => some error
  | "off" => some off
  | _ => none

/-- The wording of the complaint about a text that names no level. -/
def unknown (text : String) : String :=
  "unknown log level: " ++ text

/-- The level of a given name, or the complaint about it, which shows the name in lower case. -/
def parse (text : String) : Except String Level :=
  match parse? text with
  | some level => .ok level
  | none => .error (unknown text.toLower)

/-- Whether a filter set to a level lets an entry of another level pass. -/
def admits (filter entry : Level) : Bool :=
  filter.rank ≤ entry.rank && entry != off

/-- The levels that entries can have. -/
def entryLevels : List Level :=
  [trace, debug, info, warn, error]

/-- A level is found at its own position. -/
theorem ofRank_rank (level : Level) : ofRank level.rank = level := by
  cases level <;> rfl

end Level

end ToStringGen.Log
