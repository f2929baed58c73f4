import Mathlib.Data.List.Chain
import ToStringGen.Proofs.Java.Name

/-!
# The tokens of source text

A reference lexer for the part of Java that generated classes use: words are
maximal runs of identifier characters, a string literal ends at the first quote
that is not escaped, and punctuation is read character by character. The main
statement says that a text laid out from tokens and blanks is read as exactly
these tokens, provided that no two words touch.
-/

namespace ToStringGen.Java

/-- A token of source text. -/
inductive Token where
  | word (text : String)
  /-- A string literal, by the characters between its quotes. -/
  | literal (text : String)
  | mark (c : Char)
  deriving DecidableEq, Repr

namespace Lexer

/-- White space between tokens. -/
def blanks : List Char := [' ', '\t', '\n', '\r', '\x0c']

/-- The characters that are tokens by themselves. -/
def marks : List Char :=
  ['.', ';', ',', '+', '-', '*', '=', '<', '>', '@', '(', ')', '[', ']', '\x7b', '\x7d']

/-- The rest of a string literal whose first quote has been read, and the text after it. A
backslash takes the next character with it, and a literal does not go beyond its line. -/
def literal? : List Char → Option (List Char × List Char)
  | [] => none
  | '"' :: rest => some ([], rest)
  | '\\' :: c :: rest => (literal? rest).map fun (text, after) => ('\\' :: c :: text, after)
  | c :: rest =>
      if c = '\n' ∨ c = '\r' then none
      else (literal? rest).map fun (text, after) => (c :: text, after)

/-- Reading a literal consumes its closing quote. -/
theorem length_of_literal? {text body after : List Char}
    (h : literal? text = some (body, after)) : after.length < text.length := by
  fun_induction literal? text generalizing body after with
  | case1 => simp at h
  | case2 rest => simp_all
  | case3 c rest ih =>
    obtain ⟨⟨body', after'⟩, hrest, heq⟩ := Option.map_eq_some_iff.mp h
    have := ih hrest
    simp_all
    omega
  | case4 => simp at h
  | case5 c rest _ _ _ ih =>
    obtain ⟨⟨body', after'⟩, hrest, heq⟩ := Option.map_eq_some_iff.mp h
    have := ih hrest
    simp_all
    omega

/-- The tokens of a text, if every character belongs to one or is blank. -/
def lex : List Char → Option (List Token)
  | [] => some []
  | c :: rest =>
      if c ∈ blanks then lex rest
      else if isIdentifierPart c then
        (lex (rest.dropWhile isIdentifierPart)).map
          (.word (String.ofList (c :: rest.takeWhile isIdentifierPart)) :: ·)
      else if c ∈ marks then (lex rest).map (.mark c :: ·)
      else if c = '"' then
        match _h : literal? rest with
        | none => none
        | some (text, after) => (lex after).map (.literal (String.ofList text) :: ·)
      else none
termination_by text => text.length
decreasing_by
  · simp
  · have := (List.dropWhile_sublist (l := rest) isIdentifierPart).length_le
    simp only [List.length_cons]
    omega
  · simp
  · have := length_of_literal? _h
    simp only [List.length_cons]
    omega

/-- A piece of a text that is laid out: a token, or a blank beside it. -/
inductive Piece where
  | token (token : Token)
  | blank (c : Char)
  deriving DecidableEq, Repr

namespace Piece

/-- The text of a piece. -/
def text : Piece → List Char
  | token (.word word) => word.toList
  | token (.literal body) => '"' :: body.toList ++ ['"']
  | token (.mark c) => [c]
  | blank c => [c]

/-- The token of a piece, unless it is blank. -/
def tokens : Piece → List Token
  | token t => [t]
  | blank _ => []

/-- Whether a piece would run into a word beside it. -/
def isWord : Piece → Bool
  | token (.word _) => true
  | _ => false

/-- A piece is legal when it is read as itself where nothing runs into it. -/
def IsLegal : Piece → Prop
  | token (.word word) => word.toList ≠ [] ∧ ∀ c ∈ word.toList, isIdentifierPart c = true
  | token (.literal body) => ∀ c ∈ body.toList, c ≠ '"' ∧ c ≠ '\\' ∧ c ≠ '\n' ∧ c ≠ '\r'
  | token (.mark c) => c ∈ marks
  | blank c => c ∈ blanks

end Piece

/-- No two words touch. -/
def Separated (pieces : List Piece) : Prop :=
  pieces.IsChain fun left right => ¬(left.isWord = true ∧ right.isWord = true)

/-- The text of pieces one after the other. -/
def textOf (pieces : List Piece) : List Char :=
  pieces.flatMap Piece.text

/-- Two layouts may follow each other when the first does not end with a word or the second does
not begin with one. -/
theorem Separated.append {left right : List Piece} (hleft : Separated left)
    (hright : Separated right)
    (h : (∀ piece ∈ left.getLast?, piece.isWord = false) ∨
      ∀ piece ∈ right.head?, piece.isWord = false) :
    Separated (left ++ right) := by
  refine List.isChain_append.mpr ⟨hleft, hright, ?_⟩
  rintro x hx y hy ⟨hxword, hyword⟩
  rcases h with h | h
  · simp [h x hx] at hxword
  · simp [h y hy] at hyword

/-- Layouts may follow each other with a separator between them that neither begins nor ends with
a word. -/
theorem separated_intercalate {separator : List Piece} {layouts : List (List Piece)}
    (hseparator : Separated separator)
    (hends : ∀ piece ∈ separator, piece.isWord = false) (hne : separator ≠ [])
    (hlayouts : ∀ layout ∈ layouts, Separated layout) :
    Separated (List.intercalate separator layouts) := by
  induction layouts with
  | nil => simp [Separated]
  | cons layout layouts ih =>
    have hlayout := hlayouts layout (by simp)
    have hrest := ih fun l hl => hlayouts l (by simp [hl])
    cases layouts with
    | nil => simpa using hlayout
    | cons next layouts =>
      rw [List.intercalate_cons_cons]
      have hlast : ∀ piece ∈ (layout ++ separator).getLast?, piece.isWord = false := by
        intro piece hpiece
        rw [List.getLast?_append_of_ne_nil _ hne] at hpiece
        exact hends piece (List.mem_of_getLast? hpiece)
      have hhead : ∀ piece ∈ separator.head?, piece.isWord = false :=
        fun piece hpiece => hends piece (List.mem_of_head? hpiece)
      exact (hlayout.append hseparator (Or.inr hhead)).append hrest (Or.inl hlast)

/-- What pieces spell and mean is put together in the same way as the pieces. -/
theorem flatMap_intercalate {α β : Type} (f : α → List β) (separator : List α)
    (parts : List (List α)) :
    (List.intercalate separator parts).flatMap f =
      List.intercalate (separator.flatMap f) (parts.map fun part => part.flatMap f) := by
  induction parts with
  | nil => simp
  | cons part parts ih =>
    cases parts with
    | nil => simp
    | cons next parts => simpa using ih

/-- No blank can continue a word. -/
theorem isIdentifierPart_eq_false_of_mem_blanks {c : Char} (hc : c ∈ blanks) :
    isIdentifierPart c = false := by
  have hall : blanks.all (fun c => !isIdentifierPart c) = true := by decide +kernel
  simpa using List.all_eq_true.mp hall c hc

/-- No punctuation character can continue a word, and none is blank. -/
theorem isIdentifierPart_eq_false_of_mem_marks {c : Char} (hc : c ∈ marks) :
    isIdentifierPart c = false ∧ c ∉ blanks := by
  have hall : marks.all (fun c => !isIdentifierPart c && !blanks.contains c) = true := by
    decide +kernel
  simpa using List.all_eq_true.mp hall c hc

/-- A quote begins a literal and nothing else. -/
theorem isIdentifierPart_quote : isIdentifierPart '"' = false := by
  decide +kernel

/-- The characters of a legal literal are read up to its closing quote. -/
theorem literal?_append {body : List Char}
    (hbody : ∀ c ∈ body, c ≠ '"' ∧ c ≠ '\\' ∧ c ≠ '\n' ∧ c ≠ '\r') (rest : List Char) :
    literal? (body ++ '"' :: rest) = some (body, rest) := by
  induction body with
  | nil => rfl
  | cons c body ih =>
    obtain ⟨hquote, hbackslash, hline, hreturn⟩ := hbody c (by simp)
    have hrest := ih fun d hd => hbody d (by simp [hd])
    rw [List.cons_append, literal?.eq_4]
    · simp [hline, hreturn, hrest]
    · exact hquote
    · rintro d after heq
      exact absurd heq hbackslash

/-- The text of a legal piece that is no word does not begin with a character that could continue
a word. -/
theorem head?_text_of_not_isWord {piece : Piece} (hlegal : piece.IsLegal)
    (hword : piece.isWord = false) :
    ∃ c after, piece.text = c :: after ∧ isIdentifierPart c = false := by
  match piece, hlegal, hword with
  | .token (.literal body), _, _ => exact ⟨'"', _, rfl, isIdentifierPart_quote⟩
  | .token (.mark c), hlegal, _ =>
    exact ⟨c, [], rfl, (isIdentifierPart_eq_false_of_mem_marks hlegal).1⟩
  | .blank c, hlegal, _ =>
    exact ⟨c, [], rfl, isIdentifierPart_eq_false_of_mem_blanks hlegal⟩

/-- A blank is passed over. -/
theorem lex_blank {c : Char} (hc : c ∈ blanks) (rest : List Char) : lex (c :: rest) = lex rest := by
  rw [lex, if_pos hc]

/-- A punctuation character is a token by itself. -/
theorem lex_mark {c : Char} (hc : c ∈ marks) (rest : List Char) :
    lex (c :: rest) = (lex rest).map (.mark c :: ·) := by
  obtain ⟨hpart, hblank⟩ := isIdentifierPart_eq_false_of_mem_marks hc
  rw [lex, if_neg hblank, if_neg (by simp [hpart]), if_pos hc]

/-- A legal literal is read as one token. -/
theorem lex_literal {body : List Char}
    (hbody : ∀ c ∈ body, c ≠ '"' ∧ c ≠ '\\' ∧ c ≠ '\n' ∧ c ≠ '\r') (rest : List Char) :
    lex ('"' :: (body ++ '"' :: rest)) =
      (lex rest).map (.literal (String.ofList body) :: ·) := by
  have hread := literal?_append hbody rest
  rw [lex, if_neg (by decide), if_neg (by simp [isIdentifierPart_quote]), if_neg (by decide),
    if_pos rfl]
  split
  · next hnone => rw [hnone] at hread; cases hread
  · next text after hsome =>
    rw [hsome] at hread
    cases hread
    rfl

/-- A word ends where the next character cannot continue it. -/
theorem lex_word {word : List Char} (hne : word ≠ [])
    (hword : ∀ c ∈ word, isIdentifierPart c = true) {rest : List Char}
    (hrest : ∀ c ∈ rest.head?, isIdentifierPart c = false) :
    lex (word ++ rest) = (lex rest).map (.word (String.ofList word) :: ·) := by
  obtain ⟨c, tail, rfl⟩ := List.exists_cons_of_ne_nil hne
  have hc : isIdentifierPart c = true := hword c (by simp)
  have hblank : c ∉ blanks := by
    intro hmem
    rw [isIdentifierPart_eq_false_of_mem_blanks hmem] at hc
    exact Bool.noConfusion hc
  have htail : ∀ d ∈ tail, isIdentifierPart d = true := fun d hd => hword d (by simp [hd])
  have hstop : rest.takeWhile isIdentifierPart = [] ∧ rest.dropWhile isIdentifierPart = rest := by
    cases rest with
    | nil => exact ⟨rfl, rfl⟩
    | cons d rest =>
      have hd : isIdentifierPart d = false := hrest d (by simp)
      simp [hd]
  rw [List.cons_append, lex, if_neg hblank, if_pos hc,
    List.takeWhile_append_of_pos htail, List.dropWhile_append_of_pos htail, hstop.1, hstop.2,
    List.append_nil]

/-- **Reading back a layout.** Legal pieces among which no two words touch are read as their
tokens, in order. -/
theorem lex_textOf {pieces : List Piece} (hlegal : ∀ piece ∈ pieces, piece.IsLegal)
    (hseparated : Separated pieces) :
    lex (textOf pieces) = some (pieces.flatMap Piece.tokens) := by
  induction pieces with
  | nil => simp [textOf, lex]
  | cons piece pieces ih =>
    have hpiece := hlegal piece (by simp)
    have hrest := ih (fun p hp => hlegal p (by simp [hp])) hseparated.of_cons
    have htext : textOf (piece :: pieces) = piece.text ++ textOf pieces := rfl
    rw [htext]
    match piece, hpiece with
    | .blank c, hc =>
      rw [Piece.text, List.singleton_append, lex_blank hc, hrest]
      rfl
    | .token (.mark c), hc =>
      rw [Piece.text, List.singleton_append, lex_mark hc, hrest]
      rfl
    | .token (.literal body), hbody =>
      rw [Piece.text, List.append_assoc, List.singleton_append, List.cons_append,
        lex_literal hbody, hrest, String.ofList_toList]
      rfl
    | .token (.word word), ⟨hne, hword⟩ =>
      -- What follows a word is the end of the text or a piece that cannot continue the word.
      have hstop : ∀ c ∈ (textOf pieces).head?, isIdentifierPart c = false := by
        intro c hc
        cases pieces with
        | nil => simp [textOf] at hc
        | cons next pieces =>
          have hnext : next.isWord = false := by
            have h := (List.isChain_cons_cons.mp hseparated).1
            simpa [Piece.isWord] using h
          obtain ⟨d, after, hd, hpart⟩ :=
            head?_text_of_not_isWord (hlegal next (by simp)) hnext
          have hhead : (textOf (next :: pieces)).head? = some d := by simp [textOf, hd]
          rw [hhead] at hc
          cases hc
          exact hpart
      rw [Piece.text, lex_word hne hword hstop, hrest, String.ofList_toList]
      rfl

end Lexer

end ToStringGen.Java
