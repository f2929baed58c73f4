/-!
# Text as bytes

Files hold bytes and names are text. `encode` writes a text in UTF-8; `decode`
reads it back, or says where the bytes stop being UTF-8 and how many of them
could not begin any character.
-/

namespace ToStringGen.Text

/-- The contents of a file. -/
abbrev Bytes := List UInt8

namespace Utf8

/-- The UTF-8 form of a text. -/
def encode (text : String) : Bytes :=
  text.toList.flatMap String.utf8EncodeChar

/-- Where a sequence of bytes stops being UTF-8. -/
structure Malformed where
  /-- The number of bytes before the offending ones, all of them well formed. -/
  index : Nat
  /-- How many bytes can begin no character; `none` when the bytes end within one. -/
  length : Option Nat
  deriving DecidableEq, Repr

/-- The wording of a decoding failure. -/
def Malformed.message (fault : Malformed) : String :=
  match fault.length with
  | some length =>
      "invalid utf-8 sequence of " ++ toString length ++ " bytes from index " ++
        toString fault.index
  | none => "incomplete utf-8 byte sequence from index " ++ toString fault.index

/-- What a leading byte above `0x7F` announces: the number of bytes that follow it
and the range of the first of them. -/
def lead? (b : UInt8) : Option (Nat × UInt8 × UInt8) :=
  if b < 0xC2 then none
  else if b < 0xE0 then some (1, 0x80, 0xBF)
  else if b = 0xE0 then some (2, 0xA0, 0xBF)
  else if b = 0xED then some (2, 0x80, 0x9F)
  else if b < 0xF0 then some (2, 0x80, 0xBF)
  else if b = 0xF0 then some (3, 0x90, 0xBF)
  else if b < 0xF4 then some (3, 0x80, 0xBF)
  else if b = 0xF4 then some (3, 0x80, 0x8F)
  else none

/-- Reads `count` following bytes, the first of them within the given range, onto the
bits gathered so far; `seen` counts the bytes of the character already accepted. -/
def tails (low high : UInt8) (seen bits : Nat) : Nat → Bytes → Except (Option Nat) Nat
  | 0, _ => .ok bits
  | _ + 1, [] => .error none
  | count + 1, b :: rest =>
      if low ≤ b ∧ b ≤ high then
        tails 0x80 0xBF (seen + 1) (bits * 64 + (b.toNat - 0x80)) count rest
      else .error (some seen)

/-- The character that starts with byte `b`, and how many of the following bytes it takes. -/
def first (b : UInt8) (rest : Bytes) : Except (Option Nat) (Char × Nat) :=
  if b < 0x80 then .ok (Char.ofNat b.toNat, 0)
  else
    match lead? b with
    | none => .error (some 1)
    | some (count, low, high) =>
        match tails low high 1 (b.toNat % Nat.pow 2 (6 - count)) count rest with
        | .error length => .error length
        | .ok bits => .ok (Char.ofNat bits, count)

/-- Decodes the bytes that follow `index` well-formed ones. -/
def decodeFrom (index : Nat) : Bytes → Except Malformed (List Char)
  | [] => .ok []
  | b :: rest =>
      match first b rest with
      | .error length => .error { index, length }
      | .ok (c, count) =>
          match decodeFrom (index + 1 + count) (rest.drop count) with
          | .error fault => .error fault
          | .ok chars => .ok (c :: chars)
termination_by bytes => bytes.length
decreasing_by simp only [List.length_cons, List.length_drop]; omega

/-- The text whose UTF-8 form the bytes are. -/
def decode (bytes : Bytes) : Except Malformed String :=
  (decodeFrom 0 bytes).map String.ofList

/-- The text whose UTF-8 form the bytes are, if there is one. -/
def decode? (bytes : Bytes) : Option String :=
  (decode bytes).toOption

@[simp] theorem encode_empty : encode "" = [] := by
  simp [encode]

@[simp] theorem encode_append (left right : String) :
    encode (left ++ right) = encode left ++ encode right := by
  simp [encode]

end Utf8

end ToStringGen.Text
