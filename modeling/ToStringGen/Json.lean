import ToStringGen.Json.Token

/-!
# Reading JSON

A JSON text denotes one value. Lists and tables may be nested to any depth, so
the reader keeps the containers that are still open on a stack and takes one
token at a time.
-/

namespace ToStringGen.Json

/-- A container that is still open; what it holds so far is kept in reverse. -/
inductive Frame where
  | list (done : List Datum)
  /-- A table, with the key whose value is being read. -/
  | table (done : List (Option String × Datum)) (key : Option String)

/-- What the reader expects next, and the containers around it. -/
inductive Reader where
  /-- A value, or the end of a list that has just been opened. -/
  | value (closable : Bool) (stack : List Frame)
  /-- A key, or the end of a table that has just been opened. -/
  | key (closable : Bool) (done : List (Option String × Datum)) (stack : List Frame)
  /-- The colon after a key. -/
  | colon (done : List (Option String × Datum)) (key : Option String) (stack : List Frame)
  /-- A comma or the end of the list whose elements are given. -/
  | listMore (done : List Datum) (stack : List Frame)
  /-- A comma or the end of the table whose entries are given. -/
  | tableMore (done : List (Option String × Datum)) (stack : List Frame)
  /-- Nothing: the text is complete. -/
  | finished (value : Datum)

/-- Hands a complete value to the innermost open container. -/
def Reader.deliver (datum : Datum) : List Frame → Reader
  | [] => .finished datum
  | .list done :: stack => .listMore (datum :: done) stack
  | .table done name :: stack => .tableMore ((name, datum) :: done) stack

/-- Reads one token. -/
def Reader.step : Reader → Token → Option Reader
  | .value _ stack, .text content => some (deliver (.text content) stack)
  | .value _ stack, .word datum => some (deliver datum stack)
  | .value _ stack, .openList => some (.value true (.list [] :: stack))
  | .value _ stack, .openTable => some (.key true [] stack)
  | .value true (.list [] :: stack), .closeList => some (deliver (.list []) stack)
  | .key _ done stack, .text name => some (.colon done name stack)
  | .key true done stack, .closeTable => some (deliver (.table done.reverse) stack)
  | .colon done name stack, .colon => some (.value false (.table done name :: stack))
  | .listMore done stack, .comma => some (.value false (.list done :: stack))
  | .listMore done stack, .closeList => some (deliver (.list done.reverse) stack)
  | .tableMore done stack, .comma => some (.key false done stack)
  | .tableMore done stack, .closeTable => some (deliver (.table done.reverse) stack)
  | _, _ => none

/-- The value of a complete text. -/
def Reader.result? : Reader → Option Datum
  | .finished datum => some datum
  | _ => none

/-- The value that a JSON text denotes, or `none` if the text is not JSON. -/
def parse? (bytes : Text.Bytes) : Option Datum :=
  (tokens? bytes).bind fun tokens =>
    (tokens.foldlM Reader.step (.value false [])).bind Reader.result?

end ToStringGen.Json
