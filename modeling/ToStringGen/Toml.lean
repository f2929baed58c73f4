import ToStringGen.Toml.Scalar
import ToStringGen.Toml.Table
import ToStringGen.Toml.Token

/-!
# Reading TOML

The language of TOML 1.1: a text is a sequence of headers and assignments, one
to a line, and denotes a table. The reader keeps the lists and inline tables
that are still open on a stack, at most eighty of them, and takes one token at a
time.
-/

namespace ToStringGen.Toml

/-- A list or inline table that is still open. -/
inductive Frame where
  /-- A list, with its elements in reverse. -/
  | list (done : List Node)
  /-- An inline table, with its entries in reverse and the key whose value is being read, its
  parts in reverse. -/
  | table (entries : List (String × Node)) (key : List String)

/-- What the reader expects next. -/
inductive Phase where
  /-- The start of a line. -/
  | line
  /-- Just after the bracket that begins a header. -/
  | headerStart
  /-- A part of the key in a header. -/
  | headerKey (double : Bool) (key : List String)
  /-- A dot or the end of a header. -/
  | headerMore (double : Bool) (key : List String)
  /-- The second closing bracket of a header. -/
  | headerEnd (key : List String)
  /-- Nothing more on this line. -/
  | lineEnd
  /-- A part of a key. -/
  | key (key : List String)
  /-- A dot or an equals sign. -/
  | keyMore (key : List String)
  /-- An equals sign on a later line of an inline table. -/
  | equals (key : List String)
  /-- The value of an assignment. -/
  | value
  /-- More of an unquoted value; `gap` tells whether a single blank has followed it, as between
  a date and a time. -/
  | scalar (text : String) (gap : Bool)
  /-- An element, or the end of a list. -/
  | item
  /-- A comma or the end of a list. -/
  | itemMore
  /-- A key, or the end of an inline table. -/
  | entry
  /-- A comma or the end of an inline table. -/
  | entryMore

/-- The reader: the entries of the whole text so far, the table that the last header has
entered, the key being assigned (its parts in reverse), and the open containers. -/
structure Reader where
  entries : List (String × Node) := []
  header : List String := []
  assigned : List String := []
  stack : List Frame := []
  phase : Phase := .line

/-- The number of lists and inline tables that may be open at once. -/
def depthLimit : Nat := 80

/-- A bare key is made of ASCII letters, digits, underscores and hyphens. -/
def isBareKey (text : String) : Bool :=
  !text.isEmpty && text.toList.all fun c => c.isAlphanum || c == '_' || c == '-'

/-- A part of a key. -/
def keyPart? : Token → Option String
  | .atom run => if isBareKey run then some run else none
  | .quoted text false => some text
  | _ => none

/-- The entries of a table. -/
def entriesOf : Node → List (String × Node)
  | .table _ entries => entries
  | _ => []

namespace Reader

/-- Goes on in another phase. -/
def goto (reader : Reader) (phase : Phase) : Reader :=
  { reader with phase }

/-- Opens a list or an inline table. -/
def enclose (reader : Reader) (frame : Frame) (phase : Phase) : Option Reader :=
  if reader.stack.length < depthLimit then
    some { reader with stack := frame :: reader.stack, phase }
  else none

/-- Assigns a value below a table; `key` holds the parts of the key in reverse. -/
def assignTo (key : List String) (value : Node) (origin : Origin)
    (entries : List (String × Node)) : Option Node :=
  match key with
  | [] => none
  | last :: path => Node.assign path.reverse last value origin entries

/-- Hands a complete value to the innermost open container, or to the assignment of the line. -/
def deliver (reader : Reader) (value : Node) : Option Reader :=
  match reader.stack with
  | [] =>
      (Node.within (assignTo reader.assigned value) reader.header .header reader.entries).map
        fun root => { reader with entries := entriesOf root, phase := .lineEnd }
  | .list done :: stack =>
      some { reader with stack := .list (value :: done) :: stack, phase := .itemMore }
  | .table entries key :: stack =>
      (assignTo key value .inline entries).map fun table =>
        { reader with stack := .table (entriesOf table) [] :: stack, phase := .entryMore }

/-- Ends the innermost container. -/
def close (reader : Reader) : Option Reader :=
  match reader.stack with
  | [] => none
  | .list done :: stack => deliver { reader with stack } (.list done.reverse)
  | .table entries _ :: stack => deliver { reader with stack } (.table .inline entries)

/-- Enters the table of a complete header. -/
def enterHeader (reader : Reader) (double : Bool) (key : List String) : Option Reader :=
  match key with
  | [] => none
  | last :: path =>
      let enter := if double then Node.append else Node.enter
      (enter path.reverse last .header reader.entries).map fun root =>
        { reader with entries := entriesOf root, header := key.reverse, phase := .lineEnd }

/-- Takes the key of an assignment as complete and expects its value. -/
def takeKey (reader : Reader) (key : List String) : Reader :=
  match reader.stack with
  | .table entries _ :: stack =>
      { reader with stack := .table entries key :: stack, phase := .value }
  | _ => { reader with assigned := key, phase := .value }

/-- Whether the reader is within an inline table or a list, which may extend over lines. -/
def enclosed (reader : Reader) : Bool :=
  !reader.stack.isEmpty

/-- Begins a value. -/
def begin (reader : Reader) : Token → Option Reader
  | .quoted text _ => reader.deliver (.leaf (.text (some text)))
  | .openBracket => reader.enclose (.list []) .item
  | .openBrace => reader.enclose (.table [] []) .entry
  | .atom run => some (reader.goto (.scalar run false))
  | .dot => some (reader.goto (.scalar "." false))
  | _ => none

/-- Reads one token, other than one that continues an unquoted value. -/
def advance (reader : Reader) (token : Token) : Option Reader :=
  match reader.phase, token with
  | .headerStart, .openBracket => some (reader.goto (.headerKey true []))
  | .headerEnd key, .closeBracket => reader.enterHeader true key
  | .headerEnd _, _ => none
  | .headerStart, .blank _ => some (reader.goto (.headerKey false []))
  | .entry, .newline => some reader
  | .entryMore, .newline => some reader
  | .item, .newline => some reader
  | .itemMore, .newline => some reader
  | .line, .newline => some reader
  | .lineEnd, .newline => some (reader.goto .line)
  | .value, .newline => if reader.enclosed then some reader else none
  | .equals _, .newline => some reader
  | .keyMore key, .newline => if reader.enclosed then some (reader.goto (.equals key)) else none
  | _, .blank _ => some reader
  | .line, .openBracket => some (reader.goto .headerStart)
  | .line, token => (keyPart? token).map fun part => reader.goto (.keyMore [part])
  | .headerStart, token => (keyPart? token).map fun part => reader.goto (.headerMore false [part])
  | .headerKey double key, token =>
      (keyPart? token).map fun part => reader.goto (.headerMore double (part :: key))
  | .headerMore double key, .dot => some (reader.goto (.headerKey double key))
  | .headerMore true key, .closeBracket => some (reader.goto (.headerEnd key))
  | .headerMore false key, .closeBracket => reader.enterHeader false key
  | .key key, token => (keyPart? token).map fun part => reader.goto (.keyMore (part :: key))
  | .keyMore key, .dot => some (reader.goto (.key key))
  | .keyMore key, .equals => some (reader.takeKey key)
  | .equals key, .equals => some (reader.takeKey key)
  | .value, token => reader.begin token
  | .item, .closeBracket => reader.close
  | .item, token => reader.begin token
  | .itemMore, .comma => some (reader.goto .item)
  | .itemMore, .closeBracket => reader.close
  | .entry, .closeBrace => reader.close
  | .entry, token => (keyPart? token).map fun part => reader.goto (.keyMore [part])
  | .entryMore, .comma => some (reader.goto .entry)
  | .entryMore, .closeBrace => reader.close
  | _, _ => none

/-- Ends an unquoted value. -/
def endScalar (reader : Reader) (text : String) : Option Reader :=
  (scalar? text).bind fun value => reader.deliver (.leaf value)

/-- Reads one token. -/
def step (reader : Reader) (token : Token) : Option Reader :=
  match reader.phase, token with
  | .scalar text false, .atom run => some (reader.goto (.scalar (text ++ run) false))
  | .scalar text false, .dot => some (reader.goto (.scalar (text ++ ".") false))
  | .scalar text false, .blank " " => some (reader.goto (.scalar text true))
  | .scalar text true, .atom run => some (reader.goto (.scalar (text ++ " " ++ run) false))
  | .scalar text _, token => (reader.endScalar text).bind (advance · token)
  | _, token => reader.advance token

end Reader

/-- The table that a TOML text denotes, or `none` if the text is not TOML. -/
def parse? (text : String) : Option Datum := do
  let tokens ← tokens? text.toList
  let reader ← tokens.foldlM Reader.step {}
  match reader.phase with
  | .line => some (Node.table .header reader.entries).datum
  | _ => none

end ToStringGen.Toml
