import ToStringGen.Log.Event
import ToStringGen.Text.Alphabetic
import ToStringGen.Text.Blank
import ToStringGen.Text.Numeric

/-!
# Filtering the log

A log is filtered by one level, or by directives that set a level for the events
of one origin or with certain fields. Of the directives that match an event, the
most specific one decides, and no match means silence.
-/

namespace ToStringGen.Log

/-- Sets a level for some events. -/
structure Directive where
  /-- The beginning of the origin of the events; without it, any origin. -/
  target : Option String := none
  /-- Fields that the events must have. -/
  fields : List String := []
  level : Level := .trace
  /-- Whether the directive speaks of events within a named or valued scope only. No event is
  logged within a scope. -/
  inScope : Bool := false
  deriving DecidableEq, Repr, Inhabited

namespace Directive

/-- The level that a number stands for: zero is silence, and greater numbers let more pass. -/
def verbosity? : Nat → Option Level
  | 0 => some .off
  | 1 => some .error
  | 2 => some .warn
  | 3 => some .info
  | 4 => some .debug
  | 5 => some .trace
  | _ => none

/-- The value of a sequence of decimal digits. -/
def value (digits : List Char) : Nat :=
  digits.foldl (fun value digit => 10 * value + (digit.toNat - '0'.toNat)) 0

/-- The level that a directive names: a number, perhaps with a plus sign, or a name. -/
def level? (text : String) : Option Level :=
  let digits :=
    match text.toList with
    | '+' :: digits => digits
    | digits => digits
  if !digits.isEmpty && digits.all Char.isDigit then verbosity? (value digits)
  else
    match text.toLower with
    | "trace" => some .trace
    | "debug" => some .debug
    | "info" => some .info
    | "warn" => some .warn
    | "error" => some .error
    | "off" => some .off
    | _ => none

/-- A level after an equals sign; nothing there asks for everything. -/
def assigned? (level : List Char) : Option Level :=
  if level.isEmpty then some .trace else level? (String.ofList level)

/-- The characters with which a target or a level can begin. -/
def isStart (c : Char) : Bool :=
  Text.alphabetic.contains c || Text.numeric.contains c || c == '-' || c == ':' || c == '_'

/-- What follows the scope of a directive: nothing, or a level. -/
def afterScope? (directive : Directive) (rest : List Char) : Option Directive :=
  match rest with
  | [] => some directive
  | '=' :: level => (assigned? level).map fun level => { directive with level }
  | _ => none

/-- A scope: the name of a span, a field in braces, or both, up to a closing bracket. -/
def scope? (target : Option String) (text : List Char) : Option Directive :=
  let isEnd (c : Char) : Bool := c == ']' || c == '\x7b'
  let name := text.takeWhile (!isEnd ·)
  match text.dropWhile (!isEnd ·) with
  | ']' :: rest => afterScope? { target, inScope := true } rest
  | '\x7b' :: inner =>
      let field := inner.takeWhile (· != '\x7d')
      match inner.dropWhile (· != '\x7d') with
      | '\x7d' :: ']' :: rest =>
          if field.isEmpty then none
          else
            let fieldName := String.ofList (field.takeWhile (· != '='))
            afterScope?
              { target
                fields := [fieldName]
                inScope := !name.isEmpty || field.contains '=' } rest
      | _ => none
  | _ => none

/-- Reads one directive: a level, a target, a target with a level, or either with a scope. -/
def parse? (text : List Char) : Option Directive :=
  let isEnd (c : Char) : Bool := c == '=' || c == '['
  match text with
  | [] => some {}
  | '[' :: rest => scope? none rest
  | c :: _ =>
      if !isStart c then none
      else
        let head := String.ofList (text.takeWhile (!isEnd ·))
        match text.dropWhile (!isEnd ·) with
        | [] =>
            match level? head with
            | some level => some { level }
            | none => some { target := some head }
        | '=' :: level => (assigned? level).map fun level => { target := some head, level }
        | _ :: rest => scope? (some head) rest

/-- Whether a directive speaks of an event. -/
def applies (directive : Directive) (event : Event) : Bool :=
  !directive.inScope &&
    (match directive.target with
      | none => true
      | some target => target.toList.isPrefixOf event.origin.toList) &&
    directive.fields.all fun field =>
      field == "message" || event.fields.any fun (name, _) => name == field

/-- Whether a directive gives way to another that applies as well: the longer target wins, then
the greater number of fields, then the later fields in the order of names. -/
def yields (directive other : Directive) : Bool :=
  let length (directive : Directive) : Nat :=
    match directive.target with
    | none => 0
    | some target => target.utf8ByteSize + 1
  length directive < length other ||
    (length directive == length other &&
      (directive.fields.length < other.fields.length ||
        (directive.fields.length == other.fields.length &&
          compare directive.fields other.fields != .gt)))

end Directive

/-- What decides which events are shown. -/
inductive Filter where
  | threshold (level : Level)
  | directives (directives : List Directive)
  deriving DecidableEq, Repr

namespace Filter

/-- Removes blanks at both ends. -/
def trim (text : List Char) : List Char :=
  ((text.dropWhile Text.whiteSpace.contains).reverse.dropWhile Text.whiteSpace.contains).reverse

/-- Reads directives separated by commas. No directive at all asks for errors only. -/
def parse? (text : String) : Option Filter :=
  let parts := (Text.segments ',' text.toList).filter (!·.isEmpty)
  match parts.mapM fun part => Directive.parse? (trim part) with
  | none => none
  | some [] => some (.threshold .error)
  | some found => some (.directives found)

/-- The filter of a run: directives if they are given and can be read, and otherwise the level
of the settings. -/
def choose (directives : Option String) (level : Level) : Filter :=
  (directives.bind parse?).getD (.threshold level)

/-- Whether an event is shown. -/
def admits (filter : Filter) (event : Event) : Bool :=
  match filter with
  | threshold level => level.admits event.level
  | directives given =>
      let best := (given.filter (·.applies event)).foldl
        (fun (best : Option Directive) directive =>
          match best with
          | none => some directive
          | some other => if other.yields directive then some directive else best) none
      match best with
      | none => false
      | some directive => directive.level.admits event.level

end Filter

end ToStringGen.Log
