import ToStringGen.Text.GraphemeExtend
import ToStringGen.Text.Unprintable

/-!
# Quoted text

Error messages show a name between double quotes with everything invisible
spelled out, so that a stray control character or combining mark can be seen.
-/

namespace ToStringGen.Text.Quoted

/-- Which quotation marks are escaped besides the backslash. -/
structure Style where
  /-- Whether an apostrophe is escaped as well. -/
  apostrophe : Bool := false

/-- Names are quoted with only the double quote escaped. -/
def name : Style := {}

/-- File paths are quoted with both kinds of quotation mark escaped. -/
def path : Style := { apostrophe := true }

/-- A character spelled by its code point in hexadecimal. -/
def spelled (c : Char) : List Char :=
  "\\u\x7b".toList ++ Nat.toDigits 16 c.toNat ++ ['\x7d']

/-- The form of one character between quotes. -/
def escape (style : Style) (c : Char) : List Char :=
  if c = '\x00' then ['\\', '0']
  else if c = '\t' then ['\\', 't']
  else if c = '\r' then ['\\', 'r']
  else if c = '\n' then ['\\', 'n']
  else if c = '"' ∨ c = '\\' ∨ (c = '\'' ∧ style.apostrophe) then ['\\', c]
  else if graphemeExtend.contains c || unprintable.contains c then spelled c
  else [c]

/-- A text between double quotes. -/
def quote (style : Style) (text : String) : String :=
  "\"" ++ String.ofList (text.toList.flatMap (escape style)) ++ "\""

end ToStringGen.Text.Quoted
