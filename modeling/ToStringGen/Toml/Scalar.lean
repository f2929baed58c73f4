import ToStringGen.Datum

/-!
# Unquoted values of TOML

Truth values, integers in four bases, floating-point numbers, and moments: dates,
times of day, and both together with an optional offset.
-/

namespace ToStringGen.Toml

/-- The number that digits denote in a base. -/
def fromDigits (base : Nat) (digit : Char → Nat) (digits : List Char) : Nat :=
  digits.foldl (fun n c => n * base + digit c) 0

/-- The value of a decimal or hexadecimal digit. -/
def digitValue (c : Char) : Nat :=
  if c ≤ '9' then c.toNat - 48
  else if c ≤ 'F' then c.toNat - 55
  else c.toNat - 87

/-- The digits of a run in which single underscores may stand between digits. -/
def grouped? (isDigit : Char → Bool) : List Char → Option (List Char)
  | [] => none
  | [c] => if isDigit c then some [c] else none
  | c :: '_' :: rest => if isDigit c then (grouped? isDigit rest).map (c :: ·) else none
  | c :: rest => if isDigit c then (grouped? isDigit rest).map (c :: ·) else none

/-- The digits of a decimal integer: a group of digits without a leading zero. -/
def whole? (text : List Char) : Option (List Char) :=
  match text with
  | ['0'] => some ['0']
  | '0' :: _ => none
  | _ => grouped? Char.isDigit text

/-- A sign, positive when it is left out, and what follows it. -/
def signed (text : List Char) : Bool × List Char :=
  match text with
  | '-' :: rest => (true, rest)
  | '+' :: rest => (false, rest)
  | rest => (false, rest)

/-- An integer: decimal with an optional sign, or unsigned in base 16, 8 or 2. -/
def int? (text : List Char) : Option Int :=
  match text with
  | '0' :: 'x' :: rest =>
      (grouped? (fun c => c.isDigit || ('a' ≤ c && c ≤ 'f') || ('A' ≤ c && c ≤ 'F')) rest).map
        fun digits => fromDigits 16 digitValue digits
  | '0' :: 'o' :: rest =>
      (grouped? (fun c => '0' ≤ c && c ≤ '7') rest).map fun digits => fromDigits 8 digitValue digits
  | '0' :: 'b' :: rest =>
      (grouped? (fun c => c == '0' || c == '1') rest).map fun digits =>
        fromDigits 2 digitValue digits
  | _ =>
      let (negative, rest) := signed text
      (whole? rest).map fun digits =>
        let magnitude : Int := fromDigits 10 digitValue digits
        if negative then -magnitude else magnitude

/-- Whether `mantissa * 10 ^ exponent` stays below the least value that rounds to infinity in
double precision, halfway between the largest double and the next power of two. -/
def isFinite (mantissa : Nat) (exponent : Int) : Bool :=
  let limit := Nat.pow 2 1024 - Nat.pow 2 970
  if mantissa = 0 then true
  else if exponent < 0 then
    if exponent < -(2 * (Nat.log2 mantissa + 1) : Int) then true
    else mantissa < limit * Nat.pow 10 exponent.natAbs
  else if 400 < exponent then false
  else mantissa * Nat.pow 10 exponent.natAbs < limit

/-- A floating-point number: a decimal integer followed by a fraction, an exponent or both, or
one of the special values. The result tells whether it is in range. -/
def real? (text : List Char) : Option Bool :=
  let (_, unsigned) := signed text
  if unsigned = "inf".toList ∨ unsigned = "nan".toList then some true
  else
    let isMark (c : Char) : Bool := c == 'e' || c == 'E'
    let mantissa := unsigned.takeWhile (!isMark ·)
    let whole := mantissa.takeWhile (· != '.')
    let fraction? : Option (List Char) :=
      match mantissa.dropWhile (· != '.') with
      | [] => some []
      | _ :: digits => grouped? Char.isDigit digits
    let exponent? : Option Int :=
      match unsigned.dropWhile (!isMark ·) with
      | [] => some 0
      | _ :: rest =>
          let (negative, digits) := signed rest
          (grouped? Char.isDigit digits).map fun digits =>
            let magnitude : Int := fromDigits 10 digitValue digits
            if negative then -magnitude else magnitude
    if mantissa.all (· != '.') && unsigned.all (!isMark ·) then none
    else
      match whole? whole, fraction?, exponent? with
      | some whole, some fraction, some exponent =>
          some (isFinite (fromDigits 10 digitValue (whole ++ fraction))
            (exponent - fraction.length))
      | _, _, _ => none

/-- Reads exactly two digits as a number no greater than `most`. -/
def two? (most : Nat) : List Char → Option (List Char)
  | a :: b :: rest =>
      if a.isDigit && b.isDigit && fromDigits 10 digitValue [a, b] ≤ most then some rest else none
  | _ => none

/-- Reads one given character. -/
def mark? (expected : Char → Bool) : List Char → Option (List Char)
  | c :: rest => if expected c then some rest else none
  | [] => none

/-- The number of days of a month. -/
def daysIn (year month : Nat) : Nat :=
  if month = 2 then
    if year % 4 = 0 ∧ (year % 100 ≠ 0 ∨ year % 400 = 0) then 29 else 28
  else if month = 4 ∨ month = 6 ∨ month = 9 ∨ month = 11 then 30
  else 31

/-- Reads a date, `YYYY-MM-DD`, that the calendar has. -/
def date? : List Char → Option (List Char)
  | y₁ :: y₂ :: y₃ :: y₄ :: '-' :: m₁ :: m₂ :: '-' :: d₁ :: d₂ :: rest =>
      let year := fromDigits 10 digitValue [y₁, y₂, y₃, y₄]
      let month := fromDigits 10 digitValue [m₁, m₂]
      let day := fromDigits 10 digitValue [d₁, d₂]
      if [y₁, y₂, y₃, y₄, m₁, m₂, d₁, d₂].all Char.isDigit &&
          1 ≤ month && month ≤ 12 && 1 ≤ day && day ≤ daysIn year month then some rest
      else none
  | _ => none

/-- Reads a time of day, `HH:MM`, `HH:MM:SS`, or the latter with a fraction. A minute may have
a sixty-first second. -/
def time? (text : List Char) : Option (List Char) := do
  let rest ← two? 59 (← mark? (· == ':') (← two? 23 text))
  match rest with
  | ':' :: seconds =>
      match ← two? 60 seconds with
      | '.' :: fraction =>
          if (fraction.takeWhile Char.isDigit).isEmpty then none
          else some (fraction.dropWhile Char.isDigit)
      | rest => some rest
  | rest => some rest

/-- Reads an offset from universal time: `Z`, or a sign and `HH:MM`. -/
def offset? (text : List Char) : Option (List Char) :=
  match text with
  | [] => some []
  | c :: rest =>
      if c = 'Z' ∨ c = 'z' then some rest
      else if c = '+' ∨ c = '-' then do
        two? 59 (← mark? (· == ':') (← two? 23 rest))
      else none

/-- Whether a text is a date, a time of day, or a date and a time with an optional offset. -/
def isMoment (text : List Char) : Bool :=
  match date? text with
  | some [] => true
  | some (separator :: rest) =>
      (separator == 'T' || separator == 't' || separator == ' ') &&
        ((time? rest).bind offset?) == some []
  | none => time? text == some []

/-- The value of an unquoted text, if it has one. -/
def scalar? (text : String) : Option Datum :=
  let chars := text.toList
  if text = "true" then some (.bool true)
  else if text = "false" then some (.bool false)
  else
    match int? chars, real? chars with
    | some value, _ => some (.int value)
    | none, some finite => some (.real finite)
    | none, none => if isMoment chars then some .moment else none

end ToStringGen.Toml
