import ToStringGen.Proofs.Text.Utf8

/-!
# The order of texts and of their bytes

Texts are in the order of their characters. UTF-8 keeps this order: the bytes of a
character come before those of a greater one, whatever follows them. What is sorted as
text is therefore sorted by its bytes.
-/

namespace ToStringGen.Text.Utf8

/-- A code for the numbers below a bound that keeps their order, whatever follows the codes. -/
def KeepsOrder (code : Nat → Bytes) (bound : Nat) : Prop :=
  ∀ v w rest more, v < w → w < bound → code v ++ rest < code w ++ more

/-- Lists that begin alike are in the order of what follows. -/
theorem append_lt_append_left {bytes more : Bytes} (start : Bytes) (h : bytes < more) :
    start ++ bytes < start ++ more := by
  induction start with
  | nil => exact h
  | cons b start ih => exact List.cons_lt_cons_iff.mpr (Or.inr ⟨rfl, ih⟩)

/-- Lists whose first bytes stand for numbers are in the order of these. -/
theorem ofNat_cons_lt_ofNat_cons {v w : Nat} (h : v < w) (hbound : w < 256) (rest more : Bytes) :
    UInt8.ofNat v :: rest < UInt8.ofNat w :: more := by
  refine List.cons_lt_cons_iff.mpr (Or.inl ?_)
  rw [UInt8.lt_iff_toNat_lt, UInt8.toNat_ofNat', UInt8.toNat_ofNat']
  omega

/-- A leading byte keeps the order of the numbers that it can hold. -/
theorem keepsOrder_lead {base count : Nat} (h : base + count ≤ 256) :
    KeepsOrder (fun v => [UInt8.ofNat (v % count + base)]) count := by
  intro v w rest more hlt hbound
  have hv : v % count = v := Nat.mod_eq_of_lt (by omega)
  have hw : w % count = w := Nat.mod_eq_of_lt hbound
  simp only [hv, hw]
  exact ofNat_cons_lt_ofNat_cons (by omega) (by omega) rest more

/-- A further byte keeps the order of six more bits. -/
theorem KeepsOrder.follow {code : Nat → Bytes} {bound : Nat} (h : KeepsOrder code bound) :
    KeepsOrder (fun v => code (v / 64) ++ [UInt8.ofNat (v % 64 + 128)]) (bound * 64) := by
  intro v w rest more hlt hbound
  rw [List.append_assoc, List.append_assoc]
  by_cases hsame : v / 64 = w / 64
  · rw [hsame]
    apply append_lt_append_left
    exact ofNat_cons_lt_ofNat_cons (by omega) (by omega) rest more
  · have hless : v / 64 < w / 64 := by omega
    have hbounded : w / 64 < bound := by omega
    exact h _ _ _ _ hless hbounded

/-- The bytes of a character come before those of a greater one, whatever follows them. -/
theorem utf8EncodeChar_append_lt {c d : Char} (h : c.toNat < d.toNat) (rest more : Bytes) :
    String.utf8EncodeChar c ++ rest < String.utf8EncodeChar d ++ more := by
  have hvalid : d.toNat < 0xD800 ∨ 0xDFFF < d.toNat ∧ d.toNat < 0x110000 := d.valid
  have htwo := (keepsOrder_lead (show 192 + 32 ≤ 256 by decide)).follow
  have hthree := (keepsOrder_lead (show 224 + 16 ≤ 256 by decide)).follow.follow
  have hfour := (keepsOrder_lead (show 240 + 8 ≤ 256 by decide)).follow.follow.follow
  simp only [KeepsOrder, Nat.div_div_eq_div_mul] at htwo hthree hfour
  rw [utf8EncodeChar_eq, utf8EncodeChar_eq]
  generalize c.toNat = v at h
  generalize d.toNat = w at h hvalid
  split_ifs
  -- A greater character does not have fewer bytes. If it has more, the first byte tells.
  any_goals omega
  · exact ofNat_cons_lt_ofNat_cons h (by omega) ..
  · exact ofNat_cons_lt_ofNat_cons (by omega) (by omega) ..
  · exact ofNat_cons_lt_ofNat_cons (by omega) (by omega) ..
  · exact ofNat_cons_lt_ofNat_cons (by omega) (by omega) ..
  · exact htwo v w rest more h (by omega)
  · exact ofNat_cons_lt_ofNat_cons (by omega) (by omega) ..
  · exact ofNat_cons_lt_ofNat_cons (by omega) (by omega) ..
  · exact hthree v w rest more h (by omega)
  · exact ofNat_cons_lt_ofNat_cons (by omega) (by omega) ..
  · exact hfour v w rest more h (by omega)

/-- Texts are in the order of their bytes. -/
theorem encode_lt_encode {text other : String} (h : text < other) : encode text < encode other := by
  rw [String.lt_iff, ← List.lex_lt] at h
  unfold encode
  generalize text.toList = chars at h
  generalize other.toList = others at h
  induction h with
  | nil =>
    rename_i c others
    obtain ⟨b, tail, hencode, _⟩ := first_utf8EncodeChar c []
    rw [List.flatMap_cons, hencode]
    exact List.nil_lt_cons ..
  | cons _ ih => exact append_lt_append_left _ ih
  | rel hlt => exact utf8EncodeChar_append_lt hlt _ _

end ToStringGen.Text.Utf8
