import ToStringGen.Json.Writer
import ToStringGen.Proofs.Text.Utf8

/-!
# Cutting written JSON into tokens

A string is written so that its closing quotation mark is the first one that is not escaped,
and its pieces denote the characters that were written. Every token is therefore recovered
from its bytes, whatever follows them.
-/

namespace ToStringGen.Json

open Text (Bytes)

variable {c : Char} {read : List Piece} {done : List Token}

section Steps

variable {σ τ : Type} {step : σ → τ → Option σ} {state next : σ}

/-- After a first step, the remaining ones are taken from where it leads. -/
theorem foldlM_cons_of_eq_some {input : τ} (h : step state input = some next) (inputs : List τ) :
    (input :: inputs).foldlM step state = inputs.foldlM step next := by
  rw [List.foldlM_cons, h]
  rfl

/-- After the steps of one part, those of the other are taken from where they lead. -/
theorem foldlM_append_of_eq_some {inputs : List τ} (h : inputs.foldlM step state = some next)
    (further : List τ) : (inputs ++ further).foldlM step state = further.foldlM step next := by
  rw [List.foldlM_append, h]
  rfl

end Steps

/-- Hexadecimal digits have their value. -/
theorem hexDigit?_hexDigit : ∀ n < 16, hexDigit? (hexDigit n) = some n := by decide

/-- A short escape stands for its character. -/
theorem escaped?_of_shortEscape? {letter : UInt8} (h : shortEscape? c = some letter) :
    letter ≠ 117 ∧ ∃ b, escaped? letter = some b ∧ String.utf8EncodeChar c = [b] := by
  unfold shortEscape? at h
  split at h <;> cases h <;> exact ⟨by decide, _, rfl, by decide⟩

/-- Characters other than control characters, quotation marks and backslashes consist of bytes
that have no meaning of their own within a string. -/
theorem plain_of_mem_utf8EncodeChar (hcontrol : 32 ≤ c.toNat) (hquote : c ≠ '"')
    (hbackslash : c ≠ '\\') {b : UInt8} (hb : b ∈ String.utf8EncodeChar c) :
    b ≠ 34 ∧ b ≠ 92 ∧ ¬b < 32 := by
  have hquote' : c.toNat ≠ 34 := fun h => hquote (Char.toNat_inj.mp h)
  have hbackslash' : c.toNat ≠ 92 := fun h => hbackslash (Char.toNat_inj.mp h)
  rw [UInt8.lt_iff_toNat_lt, ne_eq, ← UInt8.toNat_inj, ne_eq, ← UInt8.toNat_inj]
  rw [Text.Utf8.utf8EncodeChar_eq] at hb
  split_ifs at hb
  all_goals
    simp only [List.mem_cons, List.not_mem_nil, or_false] at hb
    rcases hb with rfl | rfl | rfl | rfl <;> simp <;> omega

/-- The pieces that a character within a string is read as. -/
def pieces (c : Char) : List Piece :=
  if shortEscape? c = none ∧ c.toNat < 32 then [.unit c.toNat]
  else (String.utf8EncodeChar c).map .byte

/-- Bytes without a meaning of their own are read as they stand. -/
theorem foldlM_step_plain {bytes : Bytes} (h : ∀ b ∈ bytes, b ≠ 34 ∧ b ≠ 92 ∧ ¬b < 32) :
    bytes.foldlM Lexer.step { mode := .string read, done } =
      some { mode := .string ((bytes.map Piece.byte).reverse ++ read), done } := by
  induction bytes generalizing read with
  | nil => rfl
  | cons b bytes ih =>
    obtain ⟨hquote, hbackslash, hcontrol⟩ := h b List.mem_cons_self
    have hstep : Lexer.step { mode := .string read, done } b =
        some { mode := .string (.byte b :: read), done } := by
      simp only [Lexer.step, if_neg hquote, if_neg hbackslash, if_neg hcontrol]
    rw [foldlM_cons_of_eq_some hstep, ih fun b hb => h b (List.mem_cons_of_mem _ hb)]
    simp

/-- Within a string, a written character is read as its pieces. -/
theorem foldlM_step_escape (c : Char) :
    (escape c).foldlM Lexer.step { mode := .string read, done } =
      some { mode := .string ((pieces c).reverse ++ read), done } := by
  unfold escape pieces
  split
  · next letter hletter =>
    obtain ⟨hunicode, b, hescaped, hencode⟩ := escaped?_of_shortEscape? hletter
    simp [hletter, hencode, Lexer.step, hunicode, hescaped]
  · next hletter =>
    by_cases hcontrol : c.toNat < 32
    · have hhigh := hexDigit?_hexDigit (c.toNat / 16) (by omega)
      have hlow := hexDigit?_hexDigit (c.toNat % 16) (by omega)
      have hzero : hexDigit? 48 = some 0 := by decide
      have hvalue : c.toNat / 16 * 16 + c.toNat % 16 = c.toNat := by omega
      simp [hletter, hcontrol, Lexer.step, hzero, hhigh, hlow, hvalue]
    · -- What is neither escaped in short nor a control character is written as it stands.
      rw [if_neg hcontrol, if_neg (fun h => hcontrol h.2)]
      refine foldlM_step_plain fun b hb => ?_
      refine plain_of_mem_utf8EncodeChar (by omega) ?_ ?_ hb <;> rintro rfl <;> cases hletter

/-- A unit that is no surrogate denotes its character, whatever follows. -/
theorem content?_unit_cons {value : Nat} (hvalue : value < 0xD800) (rest : List Piece) :
    content? (.unit value :: rest) =
      (content? rest).map (String.utf8EncodeChar (Char.ofNat value) ++ ·) := by
  match rest with
  | [] => exact if_neg (by omega)
  | .byte b :: rest => exact if_neg (by omega)
  | .unit low :: rest => exact (if_neg (by omega)).trans (if_neg (by omega))

/-- Bytes as they stand denote themselves. -/
theorem content?_map_byte_append (bytes : Bytes) (rest : List Piece) :
    content? (bytes.map .byte ++ rest) = (content? rest).map (bytes ++ ·) := by
  induction bytes with
  | nil => simp
  | cons b bytes ih =>
    rw [List.map_cons, List.cons_append, content?, ih, Option.map_map]
    rfl

/-- The pieces of a character denote that character. -/
theorem content?_pieces_append (c : Char) (rest : List Piece) :
    content? (pieces c ++ rest) = (content? rest).map (String.utf8EncodeChar c ++ ·) := by
  unfold pieces
  split
  · next h =>
    rw [List.singleton_append, content?_unit_cons (by omega), Char.ofNat_toNat]
  · exact content?_map_byte_append _ rest

/-- The pieces of a text denote that text. -/
theorem text?_flatMap_pieces (text : String) : text? (text.toList.flatMap pieces) = some text := by
  have hcontent : ∀ chars : List Char,
      content? (chars.flatMap pieces) = some (chars.flatMap String.utf8EncodeChar) := by
    intro chars
    induction chars with
    | nil => rfl
    | cons c chars ih => rw [List.flatMap_cons, content?_pieces_append, ih]; rfl
  rw [text?, hcontent]
  exact Text.Utf8.decode?_encode text

/-- Within a string, written characters are read as their pieces. -/
theorem foldlM_step_flatMap_escape (chars : List Char) :
    (chars.flatMap escape).foldlM Lexer.step { mode := .string read, done } =
      some { mode := .string ((chars.flatMap pieces).reverse ++ read), done } := by
  induction chars generalizing read with
  | nil => rfl
  | cons c chars ih =>
    rw [List.flatMap_cons, foldlM_append_of_eq_some (foldlM_step_escape c), ih]
    simp

/-- A written string is read as one token. -/
theorem foldlM_step_quote (text : String) :
    (quote text).foldlM Lexer.step { done } = some { done := .text (some text) :: done } := by
  have hopen : Lexer.step { done } 34 = some { mode := .string [], done } := rfl
  rw [quote, foldlM_cons_of_eq_some hopen,
    foldlM_append_of_eq_some (foldlM_step_flatMap_escape text.toList)]
  simp [Lexer.step, text?_flatMap_pieces]

/-- A written token is read as that token. -/
theorem foldlM_step_bytes? {token : Token} {bytes : Bytes} (h : token.bytes? = some bytes) :
    bytes.foldlM Lexer.step { done } = some { done := token :: done } := by
  cases token with
  | openList | closeList | openTable | closeTable | comma | colon => cases h; rfl
  | text value =>
    obtain ⟨content, rfl, rfl⟩ := Option.map_eq_some_iff.mp h
    exact foldlM_step_quote content
  | word => cases h

/-- Written tokens are read one after the other. -/
theorem foldlM_step_flatten {tokens : List Token} {written : List Bytes}
    (h : tokens.mapM Token.bytes? = some written) :
    written.flatten.foldlM Lexer.step { done } = some { done := tokens.reverse ++ done } := by
  induction tokens generalizing written done with
  | nil => cases h; rfl
  | cons token tokens ih =>
    rw [List.mapM_cons] at h
    obtain ⟨bytes, hbytes, h⟩ := Option.bind_eq_some_iff.mp h
    obtain ⟨rest, hrest, h⟩ := Option.bind_eq_some_iff.mp h
    cases h
    rw [List.flatten_cons, foldlM_append_of_eq_some (foldlM_step_bytes? hbytes), ih hrest]
    simp

/-- Written tokens are the tokens of their text. -/
theorem tokens?_flatten {tokens : List Token} {written : List Bytes}
    (h : tokens.mapM Token.bytes? = some written) : tokens? written.flatten = some tokens := by
  rw [tokens?, foldlM_step_flatten h]
  simp [Lexer.settle]

end ToStringGen.Json
