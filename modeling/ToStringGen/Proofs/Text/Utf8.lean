import Mathlib.Tactic.SplitIfs
import ToStringGen.Text.Utf8

/-!
# Reading back encoded text

Decoding undoes encoding. A character is recovered from its first byte, which
announces how many bytes follow and in which range the first of them lies, and
from six bits of each byte that follows.
-/

namespace ToStringGen.Text.Utf8

/-- The bytes of a character, by the number of bits that it takes. -/
theorem utf8EncodeChar_eq (c : Char) : String.utf8EncodeChar c =
    if c.toNat ≤ 127 then [UInt8.ofNat c.toNat]
    else if c.toNat ≤ 2047 then
      [UInt8.ofNat (c.toNat / 64 % 32 + 192), UInt8.ofNat (c.toNat % 64 + 128)]
    else if c.toNat ≤ 65535 then
      [UInt8.ofNat (c.toNat / 4096 % 16 + 224), UInt8.ofNat (c.toNat / 64 % 64 + 128),
        UInt8.ofNat (c.toNat % 64 + 128)]
    else
      [UInt8.ofNat (c.toNat / 262144 % 8 + 240), UInt8.ofNat (c.toNat / 4096 % 64 + 128),
        UInt8.ofNat (c.toNat / 64 % 64 + 128), UInt8.ofNat (c.toNat % 64 + 128)] := rfl

/-- A following byte in the announced range contributes its six bits. -/
theorem tails_cons {low high : UInt8} {bits : Nat} (hbits : bits < 64)
    (hlow : low.toNat ≤ bits + 128) (hhigh : bits + 128 ≤ high.toNat)
    (seen bitsBefore count : Nat) (rest : Bytes) :
    tails low high seen bitsBefore (count + 1) (UInt8.ofNat (bits + 128) :: rest) =
      tails 0x80 0xBF (seen + 1) (bitsBefore * 64 + bits) count rest := by
  have hbyte : (UInt8.ofNat (bits + 128)).toNat = bits + 128 := by
    rw [UInt8.toNat_ofNat']
    omega
  have hrange : low ≤ UInt8.ofNat (bits + 128) ∧ UInt8.ofNat (bits + 128) ≤ high := by
    rw [UInt8.le_iff_toNat_le, UInt8.le_iff_toNat_le, hbyte]
    exact ⟨hlow, hhigh⟩
  rw [tails, if_pos hrange, hbyte, Nat.add_sub_cancel]

/-- The bytes that announce one following byte. -/
theorem lead?_two {b : UInt8} (hlow : 0xC2 ≤ b.toNat) (hhigh : b.toNat < 0xE0) :
    lead? b = some (1, 0x80, 0xBF) := by
  simp only [lead?, UInt8.lt_iff_toNat_lt, ← UInt8.toNat_inj]
  rw [if_neg (by simp; omega), if_pos (by simp; omega)]

/-- The bytes that announce two following bytes. The range of the first of them leaves out what
fewer bytes would do for, and the surrogates. -/
theorem lead?_three {b : UInt8} (hlow : 0xE0 ≤ b.toNat) (hhigh : b.toNat < 0xF0) :
    lead? b = some (2, if b.toNat = 0xE0 then 0xA0 else 0x80,
      if b.toNat = 0xED then 0x9F else 0xBF) := by
  simp only [lead?, UInt8.lt_iff_toNat_lt, ← UInt8.toNat_inj]
  rw [if_neg (by simp; omega), if_neg (by simp; omega)]
  split
  · simp_all
  · split <;> simp_all

/-- The bytes that announce three following bytes. The range of the first of them leaves out what
fewer bytes would do for, and what lies beyond the last code point. -/
theorem lead?_four {b : UInt8} (hlow : 0xF0 ≤ b.toNat) (hhigh : b.toNat ≤ 0xF4) :
    lead? b = some (3, if b.toNat = 0xF0 then 0x90 else 0x80,
      if b.toNat = 0xF4 then 0x8F else 0xBF) := by
  simp only [lead?, UInt8.lt_iff_toNat_lt, ← UInt8.toNat_inj]
  rw [if_neg (by simp; omega), if_neg (by simp; omega), if_neg (by simp; omega),
    if_neg (by simp; omega), if_neg (by simp; omega)]
  split
  · simp_all
  · split
    · simp_all
      omega
    · have hfour : b.toNat = 0xF4 := by simp_all; omega
      simp [hfour]

/-- A further following byte may have any six bits. -/
theorem tails_cons_mod (seen bitsBefore count v : Nat) (rest : Bytes) :
    tails 0x80 0xBF seen bitsBefore (count + 1) (UInt8.ofNat (v % 64 + 128) :: rest) =
      tails 0x80 0xBF (seen + 1) (bitsBefore * 64 + v % 64) count rest := by
  have hbits : v % 64 < 64 := Nat.mod_lt v (by decide)
  refine tails_cons hbits ?_ ?_ seen bitsBefore count rest
  · simp
  · simp
    omega

/-- A leading byte and its following bytes give the character that their bits spell. -/
theorem first_of_lead? {b : UInt8} {rest : Bytes} {count bits : Nat} {low high : UInt8}
    (hb : 0x80 ≤ b.toNat) (hlead : lead? b = some (count, low, high))
    (htails : tails low high 1 (b.toNat % Nat.pow 2 (6 - count)) count rest = .ok bits) :
    first b rest = .ok (Char.ofNat bits, count) := by
  have hascii : ¬ b < 0x80 := by
    rw [UInt8.lt_iff_toNat_lt]
    simpa using hb
  simp only [first, if_neg hascii, hlead, htails]

/-- Every character is recovered from its bytes, whatever follows them. -/
theorem first_utf8EncodeChar (c : Char) (rest : Bytes) :
    ∃ b tail, String.utf8EncodeChar c = b :: tail ∧
      first b (tail ++ rest) = .ok (c, tail.length) := by
  have hchar : Char.ofNat c.toNat = c := Char.ofNat_toNat c
  have hvalid : c.toNat < 0xD800 ∨ 0xDFFF < c.toNat ∧ c.toNat < 0x110000 := c.valid
  have hencode := utf8EncodeChar_eq c
  generalize c.toNat = v at hchar hvalid hencode
  rw [hencode]
  split_ifs with h1 h2 h3
  · have hb : (UInt8.ofNat v).toNat = v := by rw [UInt8.toNat_ofNat']; omega
    refine ⟨_, _, rfl, ?_⟩
    have hascii : UInt8.ofNat v < 0x80 := by
      rw [UInt8.lt_iff_toNat_lt, hb]
      simp
      omega
    simp only [first, if_pos hascii, hb, hchar, List.length_nil]
  · have hb : (UInt8.ofNat (v / 64 % 32 + 192)).toNat = v / 64 + 192 := by
      rw [UInt8.toNat_ofNat']
      omega
    refine ⟨_, _, rfl, ?_⟩
    rw [← hchar]
    refine first_of_lead? (by omega) (lead?_two (by omega) (by omega)) ?_
    simp only [List.length_cons, List.length_nil, List.cons_append, List.nil_append]
    rw [tails_cons_mod, tails, hb]
    congr 1
    simp only [Nat.pow_eq]
    omega
  · have hb : (UInt8.ofNat (v / 4096 % 16 + 224)).toNat = v / 4096 + 224 := by
      rw [UInt8.toNat_ofNat']
      omega
    refine ⟨_, _, rfl, ?_⟩
    rw [← hchar]
    refine first_of_lead? (by omega) (lead?_three (by omega) (by omega)) ?_
    simp only [List.length_cons, List.length_nil, List.cons_append, List.nil_append, hb]
    rw [tails_cons (Nat.mod_lt _ (by decide)) (by split <;> simp; omega)
      (by split <;> simp <;> omega), tails_cons_mod, tails]
    congr 1
    simp only [Nat.pow_eq]
    omega
  · have hb : (UInt8.ofNat (v / 262144 % 8 + 240)).toNat = v / 262144 + 240 := by
      rw [UInt8.toNat_ofNat']
      omega
    refine ⟨_, _, rfl, ?_⟩
    rw [← hchar]
    refine first_of_lead? (by omega) (lead?_four (by omega) (by omega)) ?_
    simp only [List.length_cons, List.length_nil, List.cons_append, List.nil_append, hb]
    rw [tails_cons (Nat.mod_lt _ (by decide)) (by split <;> simp; omega)
      (by split <;> simp <;> omega), tails_cons_mod, tails_cons_mod, tails]
    congr 1
    simp only [Nat.pow_eq]
    omega

/-- Encoded characters are decoded one after the other. -/
theorem decodeFrom_flatMap_utf8EncodeChar (index : Nat) (chars : List Char) :
    decodeFrom index (chars.flatMap String.utf8EncodeChar) = .ok chars := by
  induction chars generalizing index with
  | nil => simp [decodeFrom]
  | cons c chars ih =>
    obtain ⟨b, tail, hencode, hfirst⟩ :=
      first_utf8EncodeChar c (chars.flatMap String.utf8EncodeChar)
    rw [List.flatMap_cons, hencode, List.cons_append, decodeFrom, hfirst]
    simp only [List.drop_left, ih]

/-- Decoding undoes encoding. -/
theorem decode?_encode (text : String) : decode? (encode text) = some text := by
  simp [decode?, decode, encode, decodeFrom_flatMap_utf8EncodeChar, Except.map, Except.toOption]

/-- Decoding the bytes of a text does not fail. -/
theorem decode_encode (text : String) : decode (encode text) = .ok text := by
  simp [decode, encode, decodeFrom_flatMap_utf8EncodeChar, Except.map]

/-- A text that is not empty has a byte. -/
theorem encode_ne_nil {text : String} (h : text ≠ "") : encode text ≠ [] := by
  intro heq
  have hdecode := decode?_encode text
  rw [heq, ← show encode "" = [] from rfl, decode?_encode, Option.some.injEq] at hdecode
  exact h hdecode.symm

end ToStringGen.Text.Utf8
