import ToStringGen.Json.Token

/-!
# Writing JSON

Data made of texts, lists and tables are written without white space. In a string,
quotation marks, backslashes and control characters are escaped, those that have one by
their short escape, and every other character stands as it is.
-/

namespace ToStringGen.Json

open Text (Bytes)

/-- The digit of a hexadecimal number below 16. -/
def hexDigit (n : Nat) : UInt8 :=
  UInt8.ofNat (if n < 10 then n + 48 else n + 87)

/-- The letter of a short escape. -/
def shortEscape? (c : Char) : Option UInt8 :=
  match c with
  | '"' => some 34
  | '\\' => some 92
  | '\x08' => some 98
  | '\x0c' => some 102
  | '\n' => some 110
  | '\r' => some 114
  | '\t' => some 116
  | _ => none

/-- A character within a string. -/
def escape (c : Char) : Bytes :=
  match shortEscape? c with
  | some letter => [92, letter]
  | none =>
      if c.toNat < 32 then [92, 117, 48, 48, hexDigit (c.toNat / 16), hexDigit (c.toNat % 16)]
      else String.utf8EncodeChar c

/-- A string. -/
def quote (text : String) : Bytes :=
  34 :: (text.toList.flatMap escape ++ [34])

/-- The written form of a token. Values that stand as words are not written, nor are strings
that denote no text. -/
def Token.bytes? : Token → Option Bytes
  | .openList => some [91]
  | .closeList => some [93]
  | .openTable => some [123]
  | .closeTable => some [125]
  | .comma => some [44]
  | .colon => some [58]
  | .text value => value.map quote
  | .word _ => none

mutual

/-- The tokens of a value. -/
def tokensOf : Datum → List Token
  | .text value => [.text value]
  | .list [] => [.openList, .closeList]
  | .list (item :: items) => .openList :: (tokensOf item ++ (furtherItems items ++ [.closeList]))
  | .table [] => [.openTable, .closeTable]
  | .table ((key, value) :: entries) =>
      .openTable :: .text key :: .colon ::
        (tokensOf value ++ (furtherEntries entries ++ [.closeTable]))
  | datum => [.word datum]

/-- The tokens of the elements after the first one. -/
def furtherItems : List Datum → List Token
  | [] => []
  | item :: items => .comma :: (tokensOf item ++ furtherItems items)

/-- The tokens of the entries after the first one. -/
def furtherEntries : List (Option String × Datum) → List Token
  | [] => []
  | (key, value) :: entries =>
      .comma :: .text key :: .colon :: (tokensOf value ++ furtherEntries entries)

end

/-- The text of a value, if it is made of texts, lists and tables. -/
def write? (datum : Datum) : Option Bytes :=
  ((tokensOf datum).mapM Token.bytes?).map List.flatten

end ToStringGen.Json
