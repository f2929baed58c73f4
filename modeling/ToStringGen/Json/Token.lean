import ToStringGen.Datum
import ToStringGen.Text.Utf8

/-!
# The tokens of JSON

A JSON text is cut into punctuation, strings and words by a machine that reads
one byte at a time. Only a string that is used has to be Unicode text, so a
string is checked for its escapes here and decoded afterwards.
-/

namespace ToStringGen.Json

open Text (Bytes)

/-- What a string is made of: bytes as they stand, and 16-bit units spelled by escapes. -/
inductive Piece where
  | byte (value : UInt8)
  | unit (value : Nat)
  deriving DecidableEq, Repr

/-- The bytes that a string denotes, with pairs of surrogates joined. A surrogate that is
not part of a pair denotes nothing. -/
def content? : List Piece → Option Bytes
  | [] => some []
  | .byte b :: rest => (content? rest).map (b :: ·)
  | .unit high :: .unit low :: rest =>
      if 0xD800 ≤ high ∧ high < 0xDC00 then
        if 0xDC00 ≤ low ∧ low < 0xE000 then
          (content? rest).map
            (String.utf8EncodeChar
              (Char.ofNat (0x10000 + (high - 0xD800) * 0x400 + (low - 0xDC00))) ++ ·)
        else none
      else if 0xDC00 ≤ high ∧ high < 0xE000 then none
      else (content? (.unit low :: rest)).map (String.utf8EncodeChar (Char.ofNat high) ++ ·)
  | .unit value :: rest =>
      if 0xD800 ≤ value ∧ value < 0xE000 then none
      else (content? rest).map (String.utf8EncodeChar (Char.ofNat value) ++ ·)

/-- The text that a string denotes, if it denotes one. -/
def text? (pieces : List Piece) : Option String :=
  (content? pieces).bind Text.Utf8.decode?

/-- A number: an optional sign, an integer without leading zeros, then an optional fraction
and an optional exponent. It is an integer when it has neither and fits 64 bits. -/
def number? (word : List Char) : Option Datum :=
  let negative := word.head? == some '-'
  let unsigned := if negative then word.tail else word
  let whole := unsigned.takeWhile Char.isDigit
  let rest := unsigned.dropWhile Char.isDigit
  if whole.isEmpty || (whole.head? == some '0' && whole.length > 1) then none
  else
    let fraction? : Option (List Char) :=
      match rest with
      | '.' :: more =>
          if (more.takeWhile Char.isDigit).isEmpty then none
          else some (more.dropWhile Char.isDigit)
      | more => some more
    let exponent? : List Char → Bool
      | [] => true
      | mark :: more =>
          let digits :=
            match more with
            | '+' :: digits => digits
            | '-' :: digits => digits
            | digits => digits
          (mark == 'e' || mark == 'E') && !digits.isEmpty && digits.all Char.isDigit
    match fraction? with
    | none => none
    | some more =>
        if !exponent? more then none
        else if !rest.isEmpty then some (.real true)
        else
          let magnitude : Nat := whole.foldl (fun n c => n * 10 + (c.toNat - 48)) 0
          if negative then
            if 0 < magnitude ∧ magnitude ≤ Nat.pow 2 63 then some (.int (-(magnitude : Int)))
            else some (.real true)
          else if magnitude < Nat.pow 2 64 then some (.int magnitude)
          else some (.real true)

/-- The value that a word stands for. -/
def word? (word : List Char) : Option Datum :=
  match String.ofList word with
  | "null" => some .null
  | "true" => some (.bool true)
  | "false" => some (.bool false)
  | _ => number? word

/-- The tokens of JSON: its six punctuation marks, strings, and values written as words. -/
inductive Token where
  | openList
  | closeList
  | openTable
  | closeTable
  | comma
  | colon
  | text (value : Option String)
  | word (value : Datum)

/-- The punctuation marks. -/
def punctuation? (b : UInt8) : Option Token :=
  match Char.ofNat b.toNat with
  | '[' => some .openList
  | ']' => some .closeList
  | '\x7b' => some .openTable
  | '\x7d' => some .closeTable
  | ',' => some .comma
  | ':' => some .colon
  | _ => none

/-- Where the machine stands within a token; what has been read of it is kept in reverse. -/
inductive Mode where
  | between
  | word (read : List Char)
  | string (read : List Piece)
  | escape (read : List Piece)
  | hex (read : List Piece) (left value : Nat)

/-- The machine: its mode, and the finished tokens in reverse. -/
structure Lexer where
  mode : Mode := .between
  done : List Token := []

/-- The value of a hexadecimal digit. -/
def hexDigit? (b : UInt8) : Option Nat :=
  let n := b.toNat
  if 48 ≤ n ∧ n ≤ 57 then some (n - 48)
  else if 97 ≤ n ∧ n ≤ 102 then some (n - 87)
  else if 65 ≤ n ∧ n ≤ 70 then some (n - 55)
  else none

/-- The byte that a short escape stands for. -/
def escaped? (b : UInt8) : Option UInt8 :=
  match Char.ofNat b.toNat with
  | '"' => some 34
  | '\\' => some 92
  | '/' => some 47
  | 'b' => some 8
  | 'f' => some 12
  | 'n' => some 10
  | 'r' => some 13
  | 't' => some 9
  | _ => none

/-- Ends a word, if one is being read. -/
def Lexer.settle (lexer : Lexer) : Option Lexer :=
  match lexer.mode with
  | .word read =>
      (word? read.reverse).map fun value => { done := .word value :: lexer.done }
  | .between => some lexer
  | _ => none

/-- Reads a byte that stands outside of strings. -/
def Lexer.outside (lexer : Lexer) (b : UInt8) : Option Lexer :=
  match punctuation? b with
  | some mark => lexer.settle.map fun settled => { settled with done := mark :: settled.done }
  | none =>
      if b = 34 then lexer.settle.map fun settled => { settled with mode := .string [] }
      else if b = 32 ∨ b = 9 ∨ b = 10 ∨ b = 13 then lexer.settle
      else
        let c := Char.ofNat b.toNat
        match lexer.mode with
        | .word read => some { lexer with mode := .word (c :: read) }
        | _ => some { lexer with mode := .word [c] }

/-- Reads one byte. -/
def Lexer.step (lexer : Lexer) (b : UInt8) : Option Lexer :=
  match lexer.mode with
  | .between => lexer.outside b
  | .word _ => lexer.outside b
  | .string read =>
      if b = 34 then some { done := .text (text? read.reverse) :: lexer.done }
      else if b = 92 then some { lexer with mode := .escape read }
      else if b < 32 then none
      else some { lexer with mode := .string (.byte b :: read) }
  | .escape read =>
      if b = 117 then some { lexer with mode := .hex read 4 0 }
      else (escaped? b).map fun value => { lexer with mode := .string (.byte value :: read) }
  | .hex read left value =>
      (hexDigit? b).map fun digit =>
        let value := value * 16 + digit
        if left ≤ 1 then { lexer with mode := .string (.unit value :: read) }
        else { lexer with mode := .hex read (left - 1) value }

/-- The tokens of a JSON text, or `none` if it cannot be cut into tokens. -/
def tokens? (bytes : Bytes) : Option (List Token) :=
  ((bytes.foldlM Lexer.step {}).bind Lexer.settle).map fun lexer => lexer.done.reverse

end ToStringGen.Json
