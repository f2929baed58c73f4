import ToStringGen.Text.CharSet

/-!
# Blank characters

The property `White_Space` of the Unicode standard, and the texts that hold
nothing else.
-/

namespace ToStringGen.Text

/-- The characters with the property `White_Space`. -/
def whiteSpace : CharSet where
  ranges :=
    [(0x9, 0xD), (0x20, 0x20), (0x85, 0x85), (0xA0, 0xA0), (0x1680, 0x1680), (0x2000, 0x200A),
     (0x2028, 0x2029), (0x202F, 0x202F), (0x205F, 0x205F), (0x3000, 0x3000)]

/-- A text is blank when every character of it is white space. -/
def isBlank (text : String) : Bool :=
  text.toList.all whiteSpace.contains

/-- A text is blank exactly when it has no character outside the white space. -/
theorem isBlank_iff {text : String} :
    isBlank text = true ↔ ∀ c ∈ text.toList, whiteSpace.contains c = true := by
  simp [isBlank]

end ToStringGen.Text
