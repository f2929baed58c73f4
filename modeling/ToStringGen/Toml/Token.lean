/-!
# The tokens of TOML

A TOML text is cut into punctuation, blanks, line ends, strings and atoms by a
machine that reads one character at a time. An atom is any other run of
characters; a bare key, a number or a date is made of atoms and dots, and is
judged where it is used. Comments leave no token.
-/

namespace ToStringGen.Toml

/-- The tokens of TOML. -/
inductive Token where
  | dot
  | comma
  | equals
  | openBracket
  | closeBracket
  | openBrace
  | closeBrace
  /-- A run of spaces and tabs. -/
  | blank (run : String)
  | newline
  | atom (run : String)
  /-- A quoted text, and whether it stands between triple quotes. -/
  | quoted (text : String) (multiline : Bool)
  deriving DecidableEq, Repr, Inhabited

/-- The punctuation marks. -/
def punctuation? : Char → Option Token
  | '.' => some .dot
  | ',' => some .comma
  | '=' => some .equals
  | '[' => some .openBracket
  | ']' => some .closeBracket
  | '\x7b' => some .openBrace
  | '\x7d' => some .closeBrace
  | _ => none

/-- The characters that may stand in a comment or, as themselves, in a string of one line: all
but the control characters, the tab excepted. -/
def isPlain (c : Char) : Bool :=
  c == '\t' || (' ' ≤ c && c != '\x7f')

/-- Where the machine stands within a token; what has been read of it is kept in reverse. -/
inductive Mode where
  | between
  | blank (read : List Char)
  | atom (read : List Char)
  | comment
  /-- After a carriage return that must begin a line end. -/
  | carriage
  /-- After one or two quotation marks `quote`, `second` telling which. -/
  | opening (quote : Char) (second : Bool)
  /-- Within a string of one line. -/
  | line (quote : Char) (read : List Char)
  /-- At the start of a string of several lines, where a line end does not count. -/
  | blockStart (quote : Char)
  /-- Within a string of several lines, after `run` adjacent quotation marks. -/
  | block (quote : Char) (read : List Char) (run : Nat)
  /-- After a carriage return within a string of several lines; `kept` tells whether the line
  end belongs to the text. -/
  | blockCarriage (quote : Char) (read : List Char) (kept : Bool)
  /-- After a backslash; `many` tells whether the string may have several lines. -/
  | escape (many : Bool) (read : List Char)
  /-- Within the digits of an escaped code point. -/
  | hex (many : Bool) (read : List Char) (left value : Nat)
  /-- Within the blanks and line ends that a backslash at the end of a line removes; `ended`
  tells whether the line end has been seen. -/
  | trim (read : List Char) (ended : Bool)
  /-- After a carriage return among such blanks. -/
  | trimCarriage (read : List Char)

/-- The machine: its mode, and the finished tokens in reverse. -/
structure Lexer where
  mode : Mode := .between
  done : List Token := []

/-- The value of a hexadecimal digit. -/
def hexDigit? (c : Char) : Option Nat :=
  if '0' ≤ c ∧ c ≤ '9' then some (c.toNat - 48)
  else if 'a' ≤ c ∧ c ≤ 'f' then some (c.toNat - 87)
  else if 'A' ≤ c ∧ c ≤ 'F' then some (c.toNat - 55)
  else none

/-- The character that a short escape stands for. -/
def escaped? : Char → Option Char
  | 'b' => some '\x08'
  | 't' => some '\t'
  | 'n' => some '\n'
  | 'f' => some '\x0c'
  | 'r' => some '\r'
  | 'e' => some '\x1b'
  | '"' => some '"'
  | '\\' => some '\\'
  | _ => none

/-- The number of digits of an escaped code point. -/
def codeLength? : Char → Option Nat
  | 'x' => some 2
  | 'u' => some 4
  | 'U' => some 8
  | _ => none

/-- The string mode in which reading goes on after an escape. -/
def Mode.resume (many : Bool) (read : List Char) : Mode :=
  if many then .block '"' read 0 else .line '"' read

namespace Lexer

/-- Appends a finished token. -/
def emit (lexer : Lexer) (token : Token) : Lexer :=
  { done := token :: lexer.done }

/-- Goes on in another mode. -/
def goto (lexer : Lexer) (mode : Mode) : Lexer :=
  { lexer with mode }

/-- Ends what can end without a further character. -/
def settle (lexer : Lexer) : Option Lexer :=
  match lexer.mode with
  | .between => some lexer
  | .blank read => some (lexer.emit (.blank (String.ofList read.reverse)))
  | .atom read => some (lexer.emit (.atom (String.ofList read.reverse)))
  | .comment => some (lexer.goto .between)
  | .opening _ true => some (lexer.emit (.quoted "" false))
  | .block quote read run =>
      if run < 3 then none
      else
        let text := List.replicate (run - 3) quote ++ read
        some (lexer.emit (.quoted (String.ofList text.reverse) true))
  | _ => none

/-- Reads a character that belongs to no string and no comment. -/
def outside (lexer : Lexer) (c : Char) : Option Lexer :=
  if c = ' ' ∨ c = '\t' then
    match lexer.mode with
    | .blank read => some (lexer.goto (.blank (c :: read)))
    | _ => lexer.settle.map (goto · (.blank [c]))
  else
    match punctuation? c with
    | some mark => lexer.settle.map (emit · mark)
    | none =>
        if c = '\n' then lexer.settle.map (emit · .newline)
        else if c = '\r' then lexer.settle.map (goto · .carriage)
        else if c = '#' then lexer.settle.map (goto · .comment)
        else if c = '"' ∨ c = '\'' then lexer.settle.map (goto · (.opening c false))
        else
          match lexer.mode with
          | .atom read => some (lexer.goto (.atom (c :: read)))
          | _ => lexer.settle.map (goto · (.atom [c]))

/-- Reads a character of a string of one line. -/
def inLine (lexer : Lexer) (quote : Char) (read : List Char) (c : Char) : Option Lexer :=
  if c = quote then some (lexer.emit (.quoted (String.ofList read.reverse) false))
  else if c = '\\' ∧ quote = '"' then some (lexer.goto (.escape false read))
  else if isPlain c then some (lexer.goto (.line quote (c :: read)))
  else none

/-- Reads a character of a string of several lines, after `run` quotation marks. Up to two of
them may belong to the text, also just before the three that end it. -/
def inBlock (lexer : Lexer) (quote : Char) (read : List Char) (run : Nat) (c : Char) :
    Option Lexer :=
  if c = quote then
    if run < 4 then some (lexer.goto (.block quote read (run + 1)))
    else (lexer.goto (.block quote read 5)).settle
  else if 3 ≤ run then lexer.settle.bind (outside · c)
  else
    let read := List.replicate run quote ++ read
    if c = '\\' ∧ quote = '"' then some (lexer.goto (.escape true read))
    else if c = '\r' then some (lexer.goto (.blockCarriage quote read true))
    else if c = '\n' ∨ isPlain c then some (lexer.goto (.block quote (c :: read) 0))
    else none

/-- Reads one character. -/
def step (lexer : Lexer) (c : Char) : Option Lexer :=
  match lexer.mode with
  | .between => lexer.outside c
  | .blank _ => lexer.outside c
  | .atom _ => lexer.outside c
  | .comment =>
      if c = '\n' ∨ c = '\r' then lexer.outside c
      else if isPlain c then some lexer
      else none
  | .carriage => if c = '\n' then some (lexer.emit .newline) else none
  | .opening quote second =>
      if c = quote then
        some (lexer.goto (if second then .blockStart quote else .opening quote true))
      else if second then lexer.settle.bind (outside · c)
      else lexer.inLine quote [] c
  | .line quote read => lexer.inLine quote read c
  | .blockStart quote =>
      if c = '\n' then some (lexer.goto (.block quote [] 0))
      else if c = '\r' then some (lexer.goto (.blockCarriage quote [] false))
      else lexer.inBlock quote [] 0 c
  | .block quote read run => lexer.inBlock quote read run c
  | .blockCarriage quote read kept =>
      if c = '\n' then
        some (lexer.goto (.block quote (if kept then '\n' :: '\r' :: read else read) 0))
      else none
  | .escape many read =>
      match escaped? c, codeLength? c with
      | some value, _ => some (lexer.goto (Mode.resume many (value :: read)))
      | none, some length => some (lexer.goto (.hex many read length 0))
      | none, none =>
          if !many then none
          else if c = ' ' ∨ c = '\t' then some (lexer.goto (.trim read false))
          else if c = '\n' then some (lexer.goto (.trim read true))
          else if c = '\r' then some (lexer.goto (.trimCarriage read))
          else none
  | .hex many read left value =>
      match hexDigit? c with
      | none => none
      | some digit =>
          let value := value * 16 + digit
          if 1 < left then some (lexer.goto (.hex many read (left - 1) value))
          else if value.isValidChar then
            some (lexer.goto (Mode.resume many (Char.ofNat value :: read)))
          else none
  | .trim read ended =>
      if c = ' ' ∨ c = '\t' then some lexer
      else if c = '\n' then some (lexer.goto (.trim read true))
      else if c = '\r' then some (lexer.goto (.trimCarriage read))
      else if ended then lexer.inBlock '"' read 0 c
      else none
  | .trimCarriage read => if c = '\n' then some (lexer.goto (.trim read true)) else none

end Lexer

/-- The tokens of a TOML text, with a line end after the last line, or `none` if it cannot be
cut into tokens. A byte order mark at the start does not count. -/
def tokens? (text : List Char) : Option (List Token) :=
  let text := if text.head? == some '\uFEFF' then text.tail else text
  ((text.foldlM Lexer.step {}).bind Lexer.settle).map fun lexer =>
    (Token.newline :: lexer.done).reverse

end ToStringGen.Toml
