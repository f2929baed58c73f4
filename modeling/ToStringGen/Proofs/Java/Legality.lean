import ToStringGen.Proofs.Java.Name
import ToStringGen.Proofs.Manifest
import ToStringGen.Proofs.Text.Coverage

/-!
# Accepted names and the language

The language builds its identifiers from general categories, validation from derived
properties, which also take in other numbers, symbols and leading combining marks. An
accepted name is never a keyword or a literal, and it is legal unless it has one of these
characters. Some accepted names do.
-/

namespace ToStringGen.Java

open Text

/-- The keywords of the language, the underscore included. -/
def keywords : List String :=
  ["abstract", "continue", "for", "new", "switch", "assert", "default", "if", "package",
   "synchronized", "boolean", "do", "goto", "private", "this", "break", "double", "implements",
   "protected", "throw", "byte", "else", "import", "public", "throws", "case", "enum",
   "instanceof", "return", "transient", "catch", "extends", "int", "short", "try", "char",
   "final", "interface", "static", "void", "class", "finally", "long", "strictfp", "volatile",
   "const", "float", "native", "super", "while", "_"]

/-- The literals that are spelt like names. -/
def literals : List String :=
  ["true", "false", "null"]

/-- Whether the language lets an identifier begin with a character. -/
def canStart (c : Char) : Bool :=
  match Category.of? c with
  | some .letter | some .letterNumber | some .currencySymbol | some .connectorPunctuation => true
  | _ => false

/-- Whether the language ignores a character within an identifier: a format character, or a
control character other than white space and separators. -/
def isIgnorable (c : Char) : Bool :=
  match Category.of? c with
  | some .format => true
  | some .control => !(0x9 ≤ c.toNat && c.toNat ≤ 0xD || 0x1C ≤ c.toNat && c.toNat ≤ 0x1F)
  | _ => false

/-- Whether the language lets an identifier go on with a character. -/
def canContinue (c : Char) : Bool :=
  canStart c || Category.of? c == some .decimalNumber ||
    Category.of? c == some .combiningMark || isIgnorable c

/-- A name as the language defines identifiers. -/
structure IsLegal (name : String) : Prop where
  not_keyword : name ∉ keywords
  not_literal : name ∉ literals
  spelling : ∃ first rest, name.toList = first :: rest ∧ canStart first = true ∧
    ∀ c ∈ rest, canContinue c = true

/-- The reserved words are the keywords and the literals. -/
theorem mem_reservedWords_iff {word : String} :
    word ∈ reservedWords ↔ word ∈ keywords ∨ word ∈ literals := by
  have hperm : reservedWords.Perm (keywords ++ literals) := by decide +kernel
  rw [hperm.mem_iff, List.mem_append]

/-- The categories of the characters with which validation lets a name begin. -/
def acceptedStarts : List Category :=
  [.letter, .letterNumber, .combiningMark, .otherSymbol, .connectorPunctuation, .currencySymbol]

/-- The categories of the characters with which validation lets a name go on. -/
def acceptedParts : List Category :=
  acceptedStarts ++ [.decimalNumber, .otherNumber]

/-- Validation lets a name begin with an alphabetic character, an underscore or a dollar sign. -/
theorem of?_of_isIdentifierStart {c : Char} (h : isIdentifierStart c = true) :
    ∃ category ∈ acceptedStarts, Category.of? c = some category := by
  simp only [isIdentifierStart, Bool.or_eq_true, beq_iff_eq] at h
  rcases h with (h | rfl) | rfl
  · obtain ⟨category, hmem, hof⟩ := Category.of?_of_alphabetic h
    have halphabetic :
        [Category.letter, .letterNumber, .combiningMark, .otherSymbol] ⊆ acceptedStarts := by
      decide
    exact ⟨category, halphabetic hmem, hof⟩
  · exact ⟨.connectorPunctuation, by decide, by decide +kernel⟩
  · exact ⟨.currencySymbol, by decide, by decide +kernel⟩

/-- Validation lets a name go on with whatever can begin it and with numeric characters. -/
theorem of?_of_isIdentifierPart {c : Char} (h : isIdentifierPart c = true) :
    ∃ category ∈ acceptedParts, Category.of? c = some category := by
  by_cases hnumber : numeric.contains c = true
  · obtain ⟨category, hmem, hof⟩ := Category.of?_of_numeric hnumber
    have hnumeric :
        [Category.decimalNumber, .letterNumber, .otherNumber] ⊆ acceptedParts := by
      decide
    exact ⟨category, hnumeric hmem, hof⟩
  · have hstart : isIdentifierStart c = true := by
      simpa [isIdentifierPart, isIdentifierStart, hnumber] using h
    obtain ⟨category, hmem, hof⟩ := of?_of_isIdentifierStart hstart
    exact ⟨category, List.mem_append_left _ hmem, hof⟩

/-- Of the characters with which validation lets a name begin, the language rejects the
combining marks and the symbols. -/
theorem canStart_iff {c : Char} (h : isIdentifierStart c = true) :
    canStart c = true ↔
      Category.of? c ≠ some .combiningMark ∧ Category.of? c ≠ some .otherSymbol := by
  obtain ⟨category, hmem, hof⟩ := of?_of_isIdentifierStart h
  rw [canStart, hof]
  cases category <;> simp [acceptedStarts] at hmem ⊢

/-- Of the characters with which validation lets a name go on, the language rejects the other
numbers and the symbols. -/
theorem canContinue_iff {c : Char} (h : isIdentifierPart c = true) :
    canContinue c = true ↔
      Category.of? c ≠ some .otherNumber ∧ Category.of? c ≠ some .otherSymbol := by
  obtain ⟨category, hmem, hof⟩ := of?_of_isIdentifierPart h
  rw [canContinue, canStart, isIgnorable, hof]
  cases category <;> simp [acceptedParts, acceptedStarts] at hmem ⊢

/-- How far an accepted name is from a legal one: it is neither a keyword nor a literal, and it is
legal exactly when it does not begin with a combining mark or a symbol and does not go on with an
other number or a symbol. -/
structure NearlyLegal (name : String) : Prop where
  not_keyword : name ∉ keywords
  not_literal : name ∉ literals
  spelling : ∃ first rest, name.toList = first :: rest ∧
    (IsLegal name ↔
      (Category.of? first ≠ some .combiningMark ∧ Category.of? first ≠ some .otherSymbol) ∧
        ∀ c ∈ rest, Category.of? c ≠ some .otherNumber ∧ Category.of? c ≠ some .otherSymbol)

/-- What validation calls an identifier is nearly one of the language. -/
theorem nearlyLegal_of_isIdentifier {name : String} (h : isIdentifier name = true) :
    NearlyLegal name := by
  obtain ⟨hreserved, first, rest, hname, hfirst, hrest⟩ := isIdentifier_iff.mp h
  rw [mem_reservedWords_iff, not_or] at hreserved
  obtain ⟨hkeyword, hliteral⟩ := hreserved
  refine ⟨hkeyword, hliteral, first, rest, hname, ?_⟩
  rw [← canStart_iff hfirst]
  have hcontinue : (∀ c ∈ rest, canContinue c = true) ↔
      ∀ c ∈ rest, Category.of? c ≠ some .otherNumber ∧ Category.of? c ≠ some .otherSymbol :=
    forall₂_congr fun c hc => canContinue_iff (hrest c hc)
  rw [← hcontinue]
  constructor
  · intro hlegal
    obtain ⟨first', rest', hname', hstart, hpart⟩ := hlegal.spelling
    obtain ⟨rfl, rfl⟩ := List.cons.inj (hname.symm.trans hname')
    exact ⟨hstart, hpart⟩
  · exact fun ⟨hstart, hpart⟩ => ⟨hkeyword, hliteral, first, rest, hname, hstart, hpart⟩

end ToStringGen.Java

namespace ToStringGen.Manifest

open Java

/-- The names in a manifest: the segments of the qualified names, and the names of the fields. -/
def names (manifest : Manifest) : List String :=
  manifest.types.flatMap fun declaration =>
    QualifiedName.segments declaration.qualifiedName ++
      declaration.fields.map FieldDeclaration.name

/-- Validation accepts identifiers only. -/
theorem isIdentifier_of_mem_names {manifest : Manifest} (h : manifest.validate = .ok ())
    {name : String} (hname : name ∈ manifest.names) : isIdentifier name = true := by
  obtain ⟨declaration, hmem, hname⟩ := List.mem_flatMap.mp hname
  have hwell : declaration.WellFormed := (validate_eq_ok_iff.mp h).2.1 declaration hmem
  rcases List.mem_append.mp hname with hname | hname
  · exact QualifiedName.isIdentifier_of_mem_segments hwell.name hname
  · obtain ⟨field, hfield, rfl⟩ := List.mem_map.mp hname
    exact hwell.fields field hfield

/-- All names in an accepted manifest are nearly legal. -/
theorem names_nearlyLegal {manifest : Manifest} (h : manifest.validate = .ok ()) :
    ∀ name ∈ manifest.names, NearlyLegal name :=
  fun _ hname => nearlyLegal_of_isIdentifier (isIdentifier_of_mem_names h hname)

/-- A manifest whose only class has a field with a superscript in its name. -/
def superscriptField : Manifest where
  types := [{ qualifiedName := "A", fields := [{ name := "x²" }] }]

/-- The class and the field with the superscript are nearly legal. -/
theorem names_nearlyLegal_of_superscriptField :
    superscriptField.validate = .ok () ∧ NearlyLegal "A" ∧ NearlyLegal "x²" := by
  have hvalid : superscriptField.validate = .ok () := by decide +kernel
  have hnames : superscriptField.names = ["A", "x²"] := by decide +kernel
  have hnearly := names_nearlyLegal hvalid
  rw [hnames] at hnearly
  exact ⟨hvalid, hnearly "A" (by simp), hnearly "x²" (by simp)⟩

/-- The field with the superscript is accepted and not legal. -/
theorem not_isLegal_of_superscriptField :
    ¬∀ manifest : Manifest, manifest.validate = .ok () →
      ∀ name ∈ manifest.names, IsLegal name := by
  intro hall
  have hvalid : superscriptField.validate = .ok () := by decide +kernel
  have hlegal : IsLegal "x²" := hall superscriptField hvalid "x²" (by decide +kernel)
  obtain ⟨first, rest, hname, _, hrest⟩ := hlegal.spelling
  obtain ⟨rfl, rfl⟩ : 'x' = first ∧ ['²'] = rest :=
    List.cons.inj ((by decide +kernel : ['x', '²'] = "x²".toList).trans hname)
  have hnot : canContinue '²' = false := by decide +kernel
  rw [hrest '²' List.mem_cons_self] at hnot
  exact Bool.noConfusion hnot

end ToStringGen.Manifest

