/-!
# Processing stages

A declaration that has been discovered is either passed over, because it has a
`toString()` of its own or no eligible fields, or it has its class generated,
which may fail at the file system. There are no retries and no way out of a
final stage.
-/

namespace ToStringGen

/-- How far the processing of a declaration has come. -/
inductive Stage where
  /-- Found by its annotation; nothing is decided yet. -/
  | discovered
  /-- It declares `toString()` itself. -/
  | overridden
  /-- It has no field to be shown. -/
  | noEligibleFields
  /-- Its fields are chosen. -/
  | hasFields
  /-- Its class is written. -/
  | generated
  /-- Its class could not be created or written. -/
  | ioFailure
  deriving DecidableEq, Repr, Inhabited

namespace Stage

/-- Every stage, in the order of the processing. -/
def all : List Stage :=
  [discovered, overridden, noEligibleFields, hasFields, generated, ioFailure]

/-- The steps that processing may take. -/
def canBecome : Stage → Stage → Bool
  | discovered, overridden => true
  | discovered, noEligibleFields => true
  | discovered, hasFields => true
  | hasFields, generated => true
  | hasFields, ioFailure => true
  | _, _ => false

/-- The stages at which processing ends. -/
def isTerminal : Stage → Bool
  | overridden => true
  | noEligibleFields => true
  | generated => true
  | ioFailure => true
  | _ => false

/-- The final stages that leave no class by intent. -/
def isSkipped : Stage → Bool
  | overridden => true
  | noEligibleFields => true
  | _ => false

/-- The name of a stage. -/
def label : Stage → String
  | discovered => "Discovered"
  | overridden => "Overridden"
  | noEligibleFields => "NoEligibleFields"
  | hasFields => "HasFields"
  | generated => "Generated"
  | ioFailure => "IoFailure"

/-- What a stage means. -/
def description : Stage → String
  | discovered => "Type discovered, not yet inspected"
  | overridden => "Type already declares toString()"
  | noEligibleFields => "Type has no eligible fields"
  | hasFields => "Eligible fields selected"
  | generated => "Artifact generated"
  | ioFailure => "Artifact could not be written"

/-- Every stage is listed. -/
theorem mem_all (stage : Stage) : stage ∈ all := by
  cases stage <;> decide

/-- No step leaves a final stage, and some step leaves every other. -/
theorem isTerminal_iff {stage : Stage} :
    stage.isTerminal = true ↔ ∀ next, stage.canBecome next = false := by
  constructor
  · intro h next
    cases stage <;> cases next <;> first | rfl | simp [isTerminal] at h
  · intro h
    cases stage
    · simpa [canBecome] using h .hasFields
    · rfl
    · rfl
    · simpa [canBecome] using h .generated
    · rfl
    · rfl

end Stage

end ToStringGen
