import ToStringGen.Datum

/-!
# Tables under construction

A TOML text builds its tables piece by piece: by headers, by dotted keys and by
inline tables. How a table came about decides what may still be added to it, so
that no table and no key is ever defined twice.
-/

namespace ToStringGen.Toml

/-- How a table came about. -/
inductive Origin where
  /-- By a header of its own, or as the top of the text. -/
  | header
  /-- As a table on the way to another header. -/
  | passed
  /-- As a table on the way of a dotted key. -/
  | dotted
  /-- Between braces. -/
  | inline
  deriving DecidableEq, Repr

/-- A value under construction. -/
inductive Node where
  /-- A value without tables in it. -/
  | leaf (value : Datum)
  /-- A list between brackets. -/
  | list (items : List Node)
  /-- A list of tables, each begun by a header in double brackets; kept in reverse. -/
  | tables (items : List Node)
  /-- A table, with its entries in reverse. -/
  | table (origin : Origin) (entries : List (String × Node))
  deriving Inhabited

namespace Node

/-- Changes the value under a key, which must be present. -/
def replace (key : String) (value : Node) : List (String × Node) → List (String × Node)
  | [] => []
  | (k, v) :: rest => if k = key then (k, value) :: rest else (k, v) :: replace key value rest

/-- Adds a key that is not yet present. -/
def insertNew? (key : String) (value : Node) (entries : List (String × Node)) :
    Option (List (String × Node)) :=
  match entries.lookup key with
  | some _ => none
  | none => some ((key, value) :: entries)

/-- Follows a path of keys to a table and changes it there. Missing tables are made on the way;
a list of tables stands for its last one. `byDots` tells a dotted key, which may pass only
through tables that no header or brace has defined, from a header. -/
def alter (byDots : Bool) (change : Origin → List (String × Node) → Option Node) :
    List String → Origin → List (String × Node) → Option Node
  | [], origin, entries => change origin entries
  | key :: path, origin, entries =>
      match entries.lookup key with
      | none =>
          (alter byDots change path (if byDots then .dotted else .passed) []).map fun child =>
            .table origin ((key, child) :: entries)
      | some (.tables (.table last inner :: earlier)) =>
          (alter byDots change path last inner).map fun child =>
            .table origin (replace key (.tables (child :: earlier)) entries)
      | some (.table made inner) =>
          if made = .inline ∨ (byDots ∧ made = .header) then none
          else
            (alter byDots change path made inner).map fun child =>
              .table origin (replace key child entries)
      | some _ => none

/-- Assigns a value to a key below a table; `path` holds the parts of the key before its last.
A table made by dotted keys takes further keys by dots only, and any other takes them
without. -/
def assign (path : List String) (key : String) (value : Node) :
    Origin → List (String × Node) → Option Node :=
  alter true
    (fun origin entries =>
      if (origin == .dotted) == path.isEmpty then none
      else (insertNew? key value entries).map (.table origin))
    path

/-- Enters the header of a table. Only a table that headers have merely passed can be entered
when it is already there. -/
def enter (path : List String) (key : String) : Origin → List (String × Node) → Option Node :=
  alter false
    (fun origin entries =>
      match entries.lookup key with
      | none => some (.table origin ((key, .table .header []) :: entries))
      | some (.table .passed inner) =>
          some (.table origin (replace key (.table .header inner) entries))
      | some _ => none)
    path

/-- Enters a header in double brackets, which begins one more table of a list. -/
def append (path : List String) (key : String) : Origin → List (String × Node) → Option Node :=
  alter false
    (fun origin entries =>
      match entries.lookup key with
      | none => some (.table origin ((key, .tables [.table .header []]) :: entries))
      | some (.tables items) =>
          some (.table origin (replace key (.tables (.table .header [] :: items)) entries))
      | some _ => none)
    path

/-- Changes the table that the last header has entered. -/
def within (change : Origin → List (String × Node) → Option Node) :
    List String → Origin → List (String × Node) → Option Node
  | [], origin, entries => change origin entries
  | key :: path, origin, entries =>
      match entries.lookup key with
      | some (.tables (.table last inner :: earlier)) =>
          (within change path last inner).map fun child =>
            .table origin (replace key (.tables (child :: earlier)) entries)
      | some (.table made inner) =>
          (within change path made inner).map fun child =>
            .table origin (replace key child entries)
      | _ => none

mutual

/-- The finished value. -/
def datum : Node → Datum
  | leaf value => value
  | list items => .list (data items)
  | tables items => .list (data items).reverse
  | table _ entries => .table (record entries).reverse

/-- The finished elements of a list. -/
def data : List Node → List Datum
  | [] => []
  | item :: items => datum item :: data items

/-- The finished entries of a table. -/
def record : List (String × Node) → List (Option String × Datum)
  | [] => []
  | (key, value) :: entries => (some key, datum value) :: record entries

end

end Node

end ToStringGen.Toml
