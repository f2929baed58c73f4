import ToStringGen.Proofs.Java.Lexer

/-!
# The generated source

The source text of a generated class is read as the tokens that its
specification prescribes, whatever accepted names are pasted into it. The
expression that it returns evaluates to the class name and the fields with their
values, in order.
-/

namespace ToStringGen.Java

namespace Source

open Subclass (nameSuffix)

/-- A qualified name: its segments with dots between them. -/
def dotted (segments : List String) : List Token :=
  List.intercalate [.mark '.'] (segments.map fun segment => [.word segment])

/-- The package clause; a type without package segments does without. -/
def packageTokens (package : List String) : List Token :=
  if package = [] then [] else .word "package" :: dotted package ++ [.mark ';']

/-- The two operands that show a field: its name with an equals sign, and its value. -/
def fieldOperands (field : String) : List (List Token) :=
  [[.literal (field ++ "=")], [.word "this", .mark '.', .word field]]

/-- The operands of the returned expression: the class name with an opening brace, the fields
with a comma between neighbours, and a closing brace. -/
def operands (className : String) (fields : List String) : List (List Token) :=
  [[.literal (className ++ "\x7b")]] ++
    List.intercalate [[.literal ","]] (fields.map fieldOperands) ++ [[.literal "\x7d"]]

/-- The returned expression: the operands joined by plus signs. -/
def expression (className : String) (fields : List String) : List Token :=
  List.intercalate [.mark '+'] (operands className fields)

/-- The tokens of the class generated for a type with a package and a simple name. -/
def tokens (package : List String) (simple : String) (fields : List String) : List Token :=
  packageTokens package ++
    [.word "public", .word "class", .word (simple ++ nameSuffix), .word "extends"] ++
    dotted (package ++ [simple]) ++
    [.mark '\x7b', .word "public", .word "String", .word "toString", .mark '(', .mark ')',
      .mark '\x7b', .word "return"] ++
    expression (simple ++ nameSuffix) fields ++
    [.mark ';', .mark '\x7d', .mark '\x7d']

/-- The value of a string literal. Escapes are not evaluated: generated literals have none. -/
def literalValue? (text : String) : Option String :=
  if '\\' ∈ text.toList then none else some text

/-- The text that further operands add to a string on their left. -/
def summands? (value : String → String) : List Token → Option String
  | [] => some ""
  | .mark '+' :: .literal text :: rest => do
      let text ← literalValue? text
      let more ← summands? value rest
      return text ++ more
  | .mark '+' :: .word "this" :: .mark '.' :: .word field :: rest => do
      let more ← summands? value rest
      return value field ++ more
  | _ => none

/-- The value of an expression that begins with a string literal, so that every plus sign in it
has a string on its left and stands for concatenation. -/
def evaluate? (value : String → String) : List Token → Option String
  | .literal text :: rest => do
      let text ← literalValue? text
      let more ← summands? value rest
      return text ++ more
  | _ => none

/-- The expression that the first return statement returns. -/
def returned (tokens : List Token) : List Token :=
  ((tokens.dropWhile (· ≠ .word "return")).drop 1).takeWhile (· ≠ .mark ';')

/-- What a source text returns when the fields have given values. -/
def printed? (value : String → String) (source : String) : Option String :=
  (Lexer.lex source.toList).bind fun tokens => evaluate? value (returned tokens)

open Lexer (Piece Separated textOf)

instance (piece : Piece) : Decidable piece.IsLegal :=
  match piece with
  | .token (.word word) =>
      haveI := List.decidableBAll (fun c => isIdentifierPart c = true) word.toList
      inferInstanceAs (Decidable (word.toList ≠ [] ∧ ∀ c ∈ word.toList, isIdentifierPart c = true))
  | .token (.literal body) =>
      List.decidableBAll (fun c => c ≠ '"' ∧ c ≠ '\\' ∧ c ≠ '\n' ∧ c ≠ '\r') body.toList
  | .token (.mark c) => inferInstanceAs (Decidable (c ∈ Lexer.marks))
  | .blank c => inferInstanceAs (Decidable (c ∈ Lexer.blanks))

/-- Tokens that touch each other. -/
def packed (tokens : List Token) : List Piece :=
  tokens.map Piece.token

/-- Operands with plus signs and blanks between them. -/
def spaced (operands : List (List Token)) : List Piece :=
  List.intercalate [.blank ' ', .token (.mark '+'), .blank ' '] (operands.map packed)

/-- How the package clause is laid out: on its own line, and an empty line after it. -/
def packageLayout (package : List String) : List Piece :=
  if package = [] then []
  else
    [.token (.word "package"), .blank ' '] ++ packed (dotted package) ++
      [.token (.mark ';'), .blank '\n', .blank '\n']

/-- How the line that begins the class is laid out, up to the name of the type. -/
def headLayout (className : String) : List Piece :=
  [.token (.word "public"), .blank ' ', .token (.word "class"), .blank ' ',
    .token (.word className), .blank ' ', .token (.word "extends"), .blank ' ']

/-- How the text between the name of the type and the returned expression is laid out. -/
def methodLayout : List Piece :=
  [.blank ' ', .token (.mark '\x7b'), .blank '\n',
    .blank '\t', .token (.word "public"), .blank ' ', .token (.word "String"), .blank ' ',
    .token (.word "toString"), .token (.mark '('), .token (.mark ')'), .blank ' ',
    .token (.mark '\x7b'), .blank '\n',
    .blank '\t', .blank '\t', .token (.word "return"), .blank ' ']

/-- How the text after the returned expression is laid out. -/
def tailLayout : List Piece :=
  [.token (.mark ';'), .blank '\n', .blank '\t', .token (.mark '\x7d'), .blank '\n',
    .token (.mark '\x7d'), .blank '\n']

/-- How the generated class is laid out. -/
def layout (package : List String) (simple : String) (fields : List String) : List Piece :=
  packageLayout package ++ headLayout (simple ++ nameSuffix) ++
    packed (dotted (package ++ [simple])) ++ methodLayout ++
    spaced (operands (simple ++ nameSuffix) fields) ++ tailLayout

/-! ### The layout has the prescribed tokens -/

@[simp] theorem flatMap_tokens_packed (tokens : List Token) :
    (packed tokens).flatMap Piece.tokens = tokens := by
  simp [packed, List.flatMap_map, Piece.tokens]

/-- Blanks between operands are not seen by the reader. -/
theorem flatMap_tokens_spaced (operands : List (List Token)) :
    (spaced operands).flatMap Piece.tokens = List.intercalate [.mark '+'] operands := by
  rw [spaced, Lexer.flatMap_intercalate]
  simp [Piece.tokens, Function.comp_def]

/-- The tokens of the layout are those of the generated class. -/
theorem flatMap_tokens_layout (package : List String) (simple : String) (fields : List String) :
    (layout package simple fields).flatMap Piece.tokens = tokens package simple fields := by
  have hpackage : (packageLayout package).flatMap Piece.tokens = packageTokens package := by
    unfold packageLayout packageTokens
    split
    · rfl
    · simp [Piece.tokens]
  simp only [layout, tokens, expression, List.flatMap_append, hpackage, flatMap_tokens_packed,
    flatMap_tokens_spaced]
  simp [headLayout, methodLayout, tailLayout, Piece.tokens]

/-! ### The layout spells the source text -/

@[simp] theorem textOf_append (left right : List Piece) :
    textOf (left ++ right) = textOf left ++ textOf right := by
  simp [textOf]

/-- A name is spelt with dots between its segments. -/
theorem textOf_packed_dotted (segments : List String) :
    textOf (packed (dotted segments)) = (String.intercalate "." segments).toList := by
  rw [textOf, packed, List.flatMap_map, dotted, Lexer.flatMap_intercalate, String.toList_intercalate]
  simp [Piece.text, Function.comp_def]

/-- Joining puts the separator before every part but the first. -/
theorem intercalate_cons_eq_flatMap {α : Type} (separator part : List α) (parts : List (List α)) :
    List.intercalate separator (part :: parts) =
      part ++ parts.flatMap fun next => separator ++ next := by
  induction parts generalizing part with
  | nil => simp
  | cons next parts ih =>
    rw [List.intercalate_cons_cons, ih]
    simp

/-- The operands after the first are each spelt with a plus sign before them. -/
theorem textOf_spaced_cons (operand : List Token) (operands : List (List Token)) :
    textOf (spaced (operand :: operands)) =
      textOf (packed operand) ++
        operands.flatMap fun next => [' ', '+', ' '] ++ textOf (packed next) := by
  rw [spaced, List.map_cons, intercalate_cons_eq_flatMap, textOf_append]
  simp [textOf, Piece.text, List.flatMap_assoc, List.flatMap_map]

/-- The operands that show the fields are spelt field by field, with commas between them. -/
theorem flatMap_textOf_fieldOperands (fields : List String) :
    ((List.intercalate [[.literal ","]] (fields.map fieldOperands)).flatMap fun next =>
        [' ', '+', ' '] ++ textOf (packed next)) =
      (Subclass.fieldOperands fields).toList := by
  rw [Lexer.flatMap_intercalate]
  induction fields with
  | nil => simp [Subclass.fieldOperands]
  | cons field fields ih =>
    cases fields with
    | nil =>
      simp [Subclass.fieldOperands, Subclass.fieldOperand, fieldOperands, packed, textOf,
        Piece.text]
    | cons next fields =>
      simp only [List.map_cons, List.intercalate_cons_cons] at ih ⊢
      rw [ih]
      simp [Subclass.fieldOperands, Subclass.fieldOperand, fieldOperands, packed, textOf,
        Piece.text, String.join_cons]

/-- The package clause is spelt by its layout. -/
theorem textOf_packageLayout {typeName : String}
    (htype : isQualifiedIdentifier typeName = true) :
    textOf (packageLayout (QualifiedName.packageSegments typeName)) =
      (Subclass.packageClause typeName).toList := by
  unfold packageLayout Subclass.packageClause
  rw [QualifiedName.package?_eq htype]
  split
  · rfl
  · rw [textOf_append, textOf_append, textOf_packed_dotted]
    simp [textOf, Piece.text]

/-- The layout of the class generated for an accepted name spells its source text. -/
theorem textOf_layout {typeName : String} (htype : isQualifiedIdentifier typeName = true)
    (fields : List String) :
    textOf (layout (QualifiedName.packageSegments typeName) (QualifiedName.simple typeName)
      fields) = (Subclass.render typeName fields).toList := by
  have hname : String.intercalate "."
      (QualifiedName.packageSegments typeName ++ [QualifiedName.simple typeName]) = typeName := by
    rw [← QualifiedName.segments_eq, QualifiedName.intercalate_segments]
  have hoperands (className : String) : textOf (spaced (operands className fields)) =
      '"' :: className.toList ++ ['\x7b', '"'] ++ (Subclass.fieldOperands fields).toList ++
        [' ', '+', ' ', '"', '\x7d', '"'] := by
    rw [operands, List.append_assoc, List.singleton_append, textOf_spaced_cons,
      List.flatMap_append, flatMap_textOf_fieldOperands]
    simp [packed, textOf, Piece.text]
  simp only [layout, textOf_append, textOf_packageLayout htype, textOf_packed_dotted, hname,
    hoperands]
  simp [Subclass.render, Subclass.nameOf, Subclass.methodName, headLayout, methodLayout,
    tailLayout, textOf, Piece.text]

/-! ### The layout can be read back -/

/-- An identifier is a legal word. -/
theorem isLegal_word {text : String} (h : isIdentifier text = true) :
    (Piece.token (.word text)).IsLegal :=
  ⟨toList_ne_nil_of_isIdentifier h, fun _ hc => isIdentifierPart_of_mem h hc⟩

/-- An identifier may stand in a literal: it holds no quote, no backslash and no line break. -/
theorem isLegal_literal_append {text tail : String} (h : isIdentifier text = true)
    (htail : (Piece.token (.literal tail)).IsLegal) :
    (Piece.token (.literal (text ++ tail))).IsLegal := by
  intro c hc
  rcases List.mem_append.mp (String.toList_append ▸ hc) with hc | hc
  · have hne (d : Char) (hd : isIdentifierPart d = false) : c ≠ d := by
      rintro rfl
      exact not_mem_of_isIdentifier h hd hc
    refine ⟨hne _ ?_, hne _ ?_, hne _ ?_, hne _ ?_⟩ <;>
      exact isIdentifierPart_eq_false_of_punctuation (by simp)
  · exact htail c hc

/-- The pieces of a name with identifiers for segments are legal. -/
theorem isLegal_of_mem_packed_dotted {segments : List String}
    (hsegments : ∀ segment ∈ segments, isIdentifier segment = true) {piece : Piece}
    (hpiece : piece ∈ packed (dotted segments)) : piece.IsLegal := by
  obtain ⟨token, htoken, rfl⟩ := List.mem_map.mp hpiece
  rcases Text.mem_intercalate htoken with hdot | ⟨part, hpart, htoken⟩
  · rw [List.mem_singleton.mp hdot]
    decide
  · obtain ⟨segment, hsegment, rfl⟩ := List.mem_map.mp hpart
    rw [List.mem_singleton.mp htoken]
    exact isLegal_word (hsegments segment hsegment)

/-- The operands of the returned expression are made of legal pieces. -/
theorem isLegal_of_mem_operands {className : String} (hclass : isIdentifier className = true)
    {fields : List String} (hfields : ∀ field ∈ fields, isIdentifier field = true)
    {operand : List Token} (hoperand : operand ∈ operands className fields) {token : Token}
    (htoken : token ∈ operand) : (Piece.token token).IsLegal := by
  simp only [operands, List.mem_append, List.mem_singleton] at hoperand
  rcases hoperand with (rfl | hoperand) | rfl
  · rw [List.mem_singleton.mp htoken]
    exact isLegal_literal_append hclass (by decide)
  · rcases Text.mem_intercalate hoperand with hcomma | ⟨shown, hshown, hoperand⟩
    · rw [List.mem_singleton.mp hcomma, List.mem_singleton] at htoken
      rw [htoken]
      decide
    · obtain ⟨field, hfield, rfl⟩ := List.mem_map.mp hshown
      have hfield := hfields field hfield
      simp only [fieldOperands, List.mem_cons, List.not_mem_nil, or_false] at hoperand
      rcases hoperand with rfl | rfl
      · rw [List.mem_singleton.mp htoken]
        exact isLegal_literal_append hfield (by decide)
      · simp only [List.mem_cons, List.not_mem_nil, or_false] at htoken
        rcases htoken with rfl | rfl | rfl
        · decide +kernel
        · decide
        · exact isLegal_word hfield
  · rw [List.mem_singleton.mp htoken]
    decide

/-- Every piece of the layout is legal when the names in it are identifiers. -/
theorem isLegal_of_mem_layout {package : List String} {simple : String} {fields : List String}
    (hpackage : ∀ segment ∈ package, isIdentifier segment = true)
    (hsimple : isIdentifier simple = true)
    (hfields : ∀ field ∈ fields, isIdentifier field = true) {piece : Piece}
    (hpiece : piece ∈ layout package simple fields) : piece.IsLegal := by
  have hclass : isIdentifier (simple ++ nameSuffix) = true :=
    Subclass.isIdentifier_append_nameSuffix hsimple
  have hmethod : ∀ piece ∈ methodLayout ++ tailLayout, piece.IsLegal := by decide +kernel
  simp only [layout, List.mem_append] at hpiece
  rcases hpiece with ((((hpiece | hpiece) | hpiece) | hpiece) | hpiece) | hpiece
  · unfold packageLayout at hpiece
    split at hpiece
    · simp at hpiece
    · have hfixed : ∀ piece ∈ [Piece.token (.word "package"), .blank ' ', .token (.mark ';'),
          .blank '\n'], piece.IsLegal := by decide +kernel
      simp only [List.mem_append, List.mem_cons, List.not_mem_nil, or_false] at hpiece
      rcases hpiece with (hpiece | hpiece) | hpiece
      · exact hfixed piece (by rcases hpiece with rfl | rfl <;> simp)
      · exact isLegal_of_mem_packed_dotted hpackage hpiece
      · exact hfixed piece (by rcases hpiece with rfl | rfl | rfl <;> simp)
  · have hfixed : ∀ piece ∈ [Piece.token (.word "public"), .blank ' ', .token (.word "class"),
        .token (.word "extends")], piece.IsLegal := by decide +kernel
    simp only [headLayout, List.mem_cons, List.not_mem_nil, or_false] at hpiece
    rcases hpiece with rfl | rfl | rfl | rfl | rfl | rfl | rfl | rfl
    · exact hfixed _ (by simp)
    · exact hfixed _ (by simp)
    · exact hfixed _ (by simp)
    · exact hfixed _ (by simp)
    · exact isLegal_word hclass
    · exact hfixed _ (by simp)
    · exact hfixed _ (by simp)
    · exact hfixed _ (by simp)
  · refine isLegal_of_mem_packed_dotted (fun segment hsegment => ?_) hpiece
    rcases List.mem_append.mp hsegment with hsegment | hsegment
    · exact hpackage segment hsegment
    · rwa [List.mem_singleton.mp hsegment]
  · exact hmethod piece (List.mem_append_left _ hpiece)
  · rcases Text.mem_intercalate hpiece with hpiece | ⟨part, hpart, hpiece⟩
    · have hplus : ∀ piece ∈ [Piece.blank ' ', .token (.mark '+'), .blank ' '],
          piece.IsLegal := by decide
      exact hplus piece hpiece
    · obtain ⟨operand, hoperand, rfl⟩ := List.mem_map.mp hpart
      obtain ⟨token, htoken, rfl⟩ := List.mem_map.mp hpiece
      exact isLegal_of_mem_operands hclass hfields hoperand htoken
  · exact hmethod piece (List.mem_append_right _ hpiece)

/-- Dots keep the segments of a name apart. -/
theorem separated_packed_dotted (segments : List String) :
    Separated (packed (dotted segments)) := by
  rw [packed, dotted, List.map_eq_flatMap, Lexer.flatMap_intercalate]
  refine Lexer.separated_intercalate ?_ ?_ ?_ ?_
  · simp [Separated]
  · simp [Piece.isWord]
  · simp
  · simp [Separated]

/-- Plus signs keep the operands apart, and a dot keeps the name of a field from the word before
it. -/
theorem separated_spaced (className : String) (fields : List String) :
    Separated (spaced (operands className fields)) := by
  refine Lexer.separated_intercalate ?_ ?_ ?_ ?_
  · simp [Separated, Piece.isWord]
  · simp [Piece.isWord]
  · simp
  · intro part hpart
    obtain ⟨operand, hoperand, rfl⟩ := List.mem_map.mp hpart
    simp only [operands, List.mem_append, List.mem_singleton] at hoperand
    rcases hoperand with (rfl | hoperand) | rfl
    · simp [packed, Separated]
    · rcases Text.mem_intercalate hoperand with hcomma | ⟨shown, hshown, hoperand⟩
      · rw [List.mem_singleton.mp hcomma]
        simp [packed, Separated]
      · obtain ⟨field, _, rfl⟩ := List.mem_map.mp hshown
        simp only [fieldOperands, List.mem_cons, List.not_mem_nil, or_false] at hoperand
        rcases hoperand with rfl | rfl <;> simp [packed, Separated, Piece.isWord]
    · simp [packed, Separated]

/-- No two words of the layout touch. -/
theorem separated_layout (package : List String) (simple : String) (fields : List String) :
    Separated (layout package simple fields) := by
  have hpackage : Separated (packageLayout package) := by
    unfold packageLayout
    split
    · simp [Separated]
    · refine Separated.append (Separated.append ?_ (separated_packed_dotted package) (Or.inl ?_))
        ?_ (Or.inr ?_)
      · simp [Separated, Piece.isWord]
      · simp [Piece.isWord]
      · simp [Separated, Piece.isWord]
      · simp [Piece.isWord]
  have hpackageEnd : ∀ piece ∈ (packageLayout package).getLast?, piece.isWord = false := by
    unfold packageLayout
    split
    · simp
    · rw [List.getLast?_append_of_ne_nil _ (by simp)]
      simp [Piece.isWord]
  have hhead : Separated (headLayout (simple ++ nameSuffix)) := by
    simp [headLayout, Separated, Piece.isWord]
  have hmethod : Separated methodLayout := by simp [methodLayout, Separated, Piece.isWord]
  have htail : Separated tailLayout := by simp [tailLayout, Separated, Piece.isWord]
  unfold layout
  refine ((((hpackage.append hhead (Or.inl hpackageEnd)).append
    (separated_packed_dotted _) (Or.inl ?_)).append hmethod (Or.inr ?_)).append
    (separated_spaced _ fields) (Or.inl ?_)).append htail (Or.inr ?_)
  · simp [headLayout, Piece.isWord]
  · simp [methodLayout, Piece.isWord]
  · simp [methodLayout, Piece.isWord]
  · simp [tailLayout, Piece.isWord]

/-- The source text generated for accepted names is read as the prescribed tokens. -/
theorem lex_render {typeName : String} {fields : List String}
    (htype : isQualifiedIdentifier typeName = true)
    (hfields : ∀ field ∈ fields, isIdentifier field = true) :
    Lexer.lex (Subclass.render typeName fields).toList =
      some (tokens (QualifiedName.packageSegments typeName) (QualifiedName.simple typeName)
        fields) := by
  rw [← textOf_layout htype, Lexer.lex_textOf _ (separated_layout _ _ _), flatMap_tokens_layout]
  exact fun piece => isLegal_of_mem_layout
    (fun _ => QualifiedName.isIdentifier_of_mem_packageSegments htype)
    (QualifiedName.isIdentifier_simple htype) hfields

/-! ### What the returned expression evaluates to -/

/-- Without a backslash a literal stands for its own characters. -/
theorem literalValue?_of_isLegal {text : String} (h : (Piece.token (.literal text)).IsLegal) :
    literalValue? text = some text := by
  have hbackslash : '\\' ∉ text.toList := fun hmem => (h _ hmem).2.1 rfl
  simp [literalValue?, hbackslash]

/-- A literal among the summands adds its own characters. -/
theorem summands?_literal {text : String} (h : (Piece.token (.literal text)).IsLegal)
    (value : String → String) (rest : List Token) :
    summands? value (.mark '+' :: .literal text :: rest) =
      (summands? value rest).map (text ++ ·) := by
  rw [summands?, literalValue?_of_isLegal h]
  cases summands? value rest <;> rfl

/-- A field among the summands adds its value. -/
theorem summands?_field (value : String → String) (field : String) (rest : List Token) :
    summands? value (.mark '+' :: .word "this" :: .mark '.' :: .word field :: rest) =
      (summands? value rest).map (value field ++ ·) := by
  rw [summands?]
  cases summands? value rest <;> rfl

/-- The operands that show the fields add each field with its value, with commas between them. -/
theorem summands?_fieldOperands {fields : List String}
    (hfields : ∀ field ∈ fields, isIdentifier field = true) (value : String → String)
    (rest : List Token) :
    summands? value
        (((List.intercalate [[.literal ","]] (fields.map fieldOperands)).flatMap fun next =>
          [.mark '+'] ++ next) ++ rest) =
      (summands? value rest).map
        (String.intercalate "," (fields.map fun field => field ++ "=" ++ value field) ++ ·) := by
  induction fields with
  | nil => simp
  | cons field fields ih =>
    have hname : (Piece.token (.literal (field ++ "="))).IsLegal :=
      isLegal_literal_append (hfields field (by simp)) (by decide)
    have hrest := ih fun f hf => hfields f (by simp [hf])
    cases fields with
    | nil =>
      simp only [List.map_cons, List.map_nil, List.intercalate_singleton, fieldOperands,
        List.flatMap_cons, List.flatMap_nil, List.append_nil, List.cons_append, List.nil_append,
        summands?_literal hname, summands?_field, String.intercalate_singleton, Option.map_map]
      congr 1
      funext text
      simp [String.append_assoc]
    | cons next fields =>
      have hcomma : (Piece.token (.literal ",")).IsLegal := by decide
      simp only [List.map_cons, List.intercalate_cons_cons, List.flatMap_append] at hrest ⊢
      simp only [fieldOperands, List.flatMap_cons, List.flatMap_nil, List.append_nil,
        List.cons_append, List.nil_append] at hrest ⊢
      rw [summands?_literal hname, summands?_field, summands?_literal hcomma, hrest,
        String.intercalate_cons_cons]
      simp only [Option.map_map]
      congr 1
      funext text
      simp [String.append_assoc]

/-- The returned expression shows the class name and, in braces, the fields with their values. -/
theorem evaluate?_expression {className : String} (hclass : isIdentifier className = true)
    {fields : List String} (hfields : ∀ field ∈ fields, isIdentifier field = true)
    (value : String → String) :
    evaluate? value (expression className fields) =
      some (className ++ "\x7b" ++
        String.intercalate "," (fields.map fun field => field ++ "=" ++ value field) ++
        "\x7d") := by
  have hopen : (Piece.token (.literal (className ++ "\x7b"))).IsLegal :=
    isLegal_literal_append hclass (by decide)
  have hclose : summands? value [.mark '+', .literal "\x7d"] = some "\x7d" := by
    rw [summands?_literal (by decide)]
    rfl
  have hexpression : expression className fields =
      .literal (className ++ "\x7b") ::
        (((List.intercalate [[.literal ","]] (fields.map fieldOperands)).flatMap fun next =>
          [.mark '+'] ++ next) ++ [.mark '+', .literal "\x7d"]) := by
    rw [expression, operands, List.append_assoc, List.singleton_append,
      intercalate_cons_eq_flatMap]
    simp
  rw [hexpression, evaluate?, literalValue?_of_isLegal hopen,
    summands?_fieldOperands hfields, hclose]
  simp [String.append_assoc]

/-- Reserved words are no identifiers, so no name in the source reads `return`. -/
theorem word_ne_return {text : String} (h : isIdentifier text = true) :
    Token.word text ≠ .word "return" := by
  intro heq
  cases heq
  exact absurd h (by decide +kernel)

/-- No token of a name with identifiers for segments reads `return`. -/
theorem ne_return_of_mem_dotted {segments : List String}
    (hsegments : ∀ segment ∈ segments, isIdentifier segment = true) {token : Token}
    (htoken : token ∈ dotted segments) : token ≠ .word "return" := by
  rcases Text.mem_intercalate htoken with hdot | ⟨part, hpart, htoken⟩
  · rw [List.mem_singleton.mp hdot]
    decide
  · obtain ⟨segment, hsegment, rfl⟩ := List.mem_map.mp hpart
    rw [List.mem_singleton.mp htoken]
    exact word_ne_return (hsegments segment hsegment)

/-- The returned expression holds no semicolon, so that the first one ends it. -/
theorem ne_semicolon_of_mem_expression {className : String} {fields : List String} {token : Token}
    (htoken : token ∈ expression className fields) : token ≠ .mark ';' := by
  rcases Text.mem_intercalate htoken with hplus | ⟨operand, hoperand, htoken⟩
  · rw [List.mem_singleton.mp hplus]
    decide
  · simp only [operands, List.mem_append, List.mem_singleton] at hoperand
    rcases hoperand with (rfl | hoperand) | rfl
    · simp_all
    · rcases Text.mem_intercalate hoperand with hcomma | ⟨shown, hshown, hoperand⟩
      · simp_all
      · obtain ⟨field, _, rfl⟩ := List.mem_map.mp hshown
        simp only [fieldOperands, List.mem_cons, List.not_mem_nil, or_false] at hoperand
        rcases hoperand with rfl | rfl
        · simp_all
        · simp only [List.mem_cons, List.not_mem_nil, or_false] at htoken
          rcases htoken with rfl | rfl | rfl <;> simp
    · simp_all

/-- The first return statement returns the prescribed expression. -/
theorem returned_tokens {package : List String} {simple : String} (fields : List String)
    (hpackage : ∀ segment ∈ package, isIdentifier segment = true)
    (hsimple : isIdentifier simple = true) :
    returned (tokens package simple fields) = expression (simple ++ nameSuffix) fields := by
  have hsegments : ∀ segment ∈ package ++ [simple], isIdentifier segment = true := by
    intro segment hsegment
    rcases List.mem_append.mp hsegment with hsegment | hsegment
    · exact hpackage segment hsegment
    · rwa [List.mem_singleton.mp hsegment]
  have hclass := word_ne_return (Subclass.isIdentifier_append_nameSuffix hsimple)
  let before := packageTokens package ++
    [.word "public", .word "class", .word (simple ++ nameSuffix), .word "extends"] ++
    dotted (package ++ [simple]) ++
    [.mark '\x7b', .word "public", .word "String", .word "toString", .mark '(', .mark ')',
      .mark '\x7b']
  have hbefore : ∀ token ∈ before, decide (token ≠ .word "return") = true := by
    intro token htoken
    rw [decide_eq_true_eq]
    simp only [before, List.mem_append] at htoken
    rcases htoken with ((htoken | htoken) | htoken) | htoken
    · unfold packageTokens at htoken
      split at htoken
      · simp at htoken
      · simp only [List.cons_append, List.mem_cons, List.mem_append, List.not_mem_nil,
          or_false] at htoken
        rcases htoken with rfl | htoken | rfl
        · decide
        · exact ne_return_of_mem_dotted hpackage htoken
        · decide
    · simp only [List.mem_cons, List.not_mem_nil, or_false] at htoken
      rcases htoken with rfl | rfl | rfl | rfl
      · decide
      · decide
      · exact hclass
      · decide
    · exact ne_return_of_mem_dotted hsegments htoken
    · have hfixed : ∀ token ∈ [Token.mark '\x7b', .word "public", .word "String",
          .word "toString", .mark '(', .mark ')', .mark '\x7b'], token ≠ .word "return" := by
        decide
      exact hfixed token htoken
  have htokens : tokens package simple fields =
      before ++ .word "return" ::
        (expression (simple ++ nameSuffix) fields ++ [.mark ';', .mark '\x7d', .mark '\x7d']) := by
    simp [tokens, before]
  have hend : ∀ token ∈ expression (simple ++ nameSuffix) fields,
      decide (token ≠ .mark ';') = true := by
    intro token htoken
    rw [decide_eq_true_eq]
    exact ne_semicolon_of_mem_expression htoken
  rw [returned, htokens, List.dropWhile_append_of_pos hbefore, List.dropWhile_cons_of_neg (by simp),
    List.drop_one, List.tail_cons, List.takeWhile_append_of_pos hend]
  simp

/-- **The generated source.** For an accepted name and accepted fields, the source text is read
as exactly the prescribed tokens: the segments of the name are those of its package, if it has a
dot, and its simple name. Whatever the values of the fields, the method returns the class name
and, in braces, the fields with their values in the given order. -/
theorem generated_source_is_as_specified {typeName : String} {fields : List String}
    (htype : isQualifiedIdentifier typeName = true)
    (hfields : ∀ field ∈ fields, isIdentifier field = true) :
    ∃ (package : List String) (simple : String),
      QualifiedName.segments typeName = package ++ [simple] ∧
      (package = [] ↔ '.' ∉ typeName.toList) ∧
      Lexer.lex (Subclass.render typeName fields).toList = some (tokens package simple fields) ∧
      ∀ value : String → String,
        printed? value (Subclass.render typeName fields) =
          some (simple ++ "WithToString\x7b" ++
            String.intercalate "," (fields.map fun field => field ++ "=" ++ value field) ++
            "\x7d") := by
  have hpackage : ∀ segment ∈ QualifiedName.packageSegments typeName,
      isIdentifier segment = true :=
    fun _ => QualifiedName.isIdentifier_of_mem_packageSegments htype
  have hsimple := QualifiedName.isIdentifier_simple htype
  have hlex := lex_render htype hfields
  refine ⟨QualifiedName.packageSegments typeName, QualifiedName.simple typeName,
    QualifiedName.segments_eq typeName, QualifiedName.packageSegments_eq_nil_iff, hlex, ?_⟩
  intro value
  have hopen : "WithToString\x7b" = nameSuffix ++ "\x7b" := rfl
  rw [printed?, hlex, Option.bind_some, returned_tokens fields hpackage hsimple,
    evaluate?_expression (Subclass.isIdentifier_append_nameSuffix hsimple) hfields, hopen,
    ← String.append_assoc]

/-- A class in a package, with fields whose names occur in one another. -/
theorem generated_source_of_nested_names :
    isQualifiedIdentifier "p.q.Simple" = true ∧
      (∀ field ∈ ["this_", "this_$", "é1"], isIdentifier field = true) ∧
      ∃ (package : List String) (simple : String),
        QualifiedName.segments "p.q.Simple" = package ++ [simple] ∧
        (package = [] ↔ '.' ∉ "p.q.Simple".toList) ∧
        Lexer.lex (Subclass.render "p.q.Simple" ["this_", "this_$", "é1"]).toList =
          some (tokens package simple ["this_", "this_$", "é1"]) ∧
        ∀ value : String → String,
          printed? value (Subclass.render "p.q.Simple" ["this_", "this_$", "é1"]) =
            some (simple ++ "WithToString\x7b" ++
              String.intercalate ","
                (["this_", "this_$", "é1"].map fun field => field ++ "=" ++ value field) ++
              "\x7d") := by
  have htype : isQualifiedIdentifier "p.q.Simple" = true := by decide +kernel
  have hfields : ∀ field ∈ ["this_", "this_$", "é1"], isIdentifier field = true := by
    decide +kernel
  exact ⟨htype, hfields, generated_source_is_as_specified htype hfields⟩

end Source

end ToStringGen.Java
