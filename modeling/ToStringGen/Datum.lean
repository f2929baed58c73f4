/-!
# Structured data

Configuration files and manifests are written in JSON or TOML. Both readers
produce a `Datum`, and one set of decoders turns it into the values of the
generator; a `Dialect` holds the few points on which the two formats differ.
-/

namespace ToStringGen

/-- A value of a data file. -/
inductive Datum where
  | null
  | bool (value : Bool)
  | int (value : Int)
  /-- A number with a fraction or an exponent; `finite` tells whether it stays within the
  range of double precision. -/
  | real (finite : Bool)
  /-- A date, a time, or both. -/
  | moment
  /-- A text, or `none` when the characters denoted are no Unicode text. -/
  | text (value : Option String)
  | list (items : List Datum)
  /-- A table, with its entries in the order of the file. -/
  | table (entries : List (Option String × Datum))
  deriving Inhabited

namespace Datum

mutual

/-- Whether every number in a value fits the widest machine formats: 128 bits for integers,
double precision for the others. -/
def fits : Datum → Bool
  | int value => -(2 ^ 127) ≤ value && value < 2 ^ 128
  | real finite => finite
  | list items => itemsFit items
  | table entries => entriesFit entries
  | _ => true

/-- `fits` for every element of a list. -/
def itemsFit : List Datum → Bool
  | [] => true
  | item :: items => fits item && itemsFit items

/-- `fits` for every value of a table. -/
def entriesFit : List (Option String × Datum) → Bool
  | [] => true
  | (_, value) :: entries => fits value && entriesFit entries

end

/-- The points on which the formats differ when values are decoded. -/
structure Dialect where
  /-- Whether a record written as a list may be longer than its fields are many. -/
  surplus : Bool
  /-- The values that may stand under a key that no field uses. -/
  ignorable : Datum → Bool
  /-- The values that may accompany a variant without content. -/
  empty : Datum → Bool

/-- Records written in JSON: a list has no surplus, anything may be ignored, and a variant
without content carries `null`. -/
def json : Dialect where
  surplus := false
  ignorable _ := true
  empty
    | null => true
    | _ => false

/-- Records written in TOML: surplus elements are passed over, ignored numbers must still be
in range, and a variant without content carries an empty table or list. -/
def toml : Dialect where
  surplus := true
  ignorable := fits
  empty
    | table [] => true
    | list [] => true
    | _ => false

/-- A text. -/
def text? : Datum → Option String
  | text value => value
  | _ => none

/-- A list, each element decoded in the same way. -/
def list? {α : Type} (decode : Datum → Option α) : Datum → Option (List α)
  | list items => items.mapM decode
  | _ => none

/-- A natural number of 64 bits. -/
def natural? : Datum → Option Nat
  | int value => if 0 ≤ value ∧ value.toNat < UInt64.size then some value.toNat else none
  | _ => none

/-- One of several named variants: its name alone, or a table with the name as its only key. -/
def variant? {α : Type} (dialect : Dialect) (variants : List (String × α)) : Datum → Option α
  | text (some name) => variants.lookup name
  | table [(some name, value)] => if dialect.empty value then variants.lookup name else none
  | _ => none

/-- The values of a record's fields, `none` for an absent one. A record is a table, in which
each field may occur once, or a list of its fields in their order. -/
def record? (dialect : Dialect) (fields : List String) : Datum → Option (List (Option Datum))
  | table entries =>
      if entries.all fun (key, value) =>
          match key with
          | none => false
          | some key => fields.contains key || dialect.ignorable value then
        fields.mapM fun field =>
          match entries.filter fun entry => entry.1 == some field with
          | [] => some none
          | [(_, value)] => some (some value)
          | _ => none
      else none
  | list items =>
      if items.length ≤ fields.length || dialect.surplus then
        some ((List.range fields.length).map fun i => items[i]?)
      else none
  | _ => none

/-- A field that must be present. -/
def required {α : Type} (decode : Datum → Option α) : Option Datum → Option α
  | none => none
  | some value => decode value

/-- A field that takes a default when it is absent. -/
def optional {α : Type} (decode : Datum → Option α) (default : α) : Option Datum → Option α
  | none => some default
  | some value => decode value

end Datum

end ToStringGen
