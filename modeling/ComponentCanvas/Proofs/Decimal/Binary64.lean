import ComponentCanvas.Decimal.Style
import Mathlib

/-!
# Stored Floats

How the fields of a binary64 pattern relate to the number they store.  `IsStored` says which
mantissas and exponents a finite float is stored with: packing such a number and reading it back
gives the number again, and what is read from any pattern is such a number.
-/

namespace ComponentCanvas.Decimal

open Float.Model (UnpackedFloat Format)
open Float.Model.UnpackedFloat

/-! ## Packing and unpacking -/

/-- Whether a mantissa and an exponent are those that a finite float is stored with. -/
structure IsStored (m : ℕ) (e : ℤ) : Prop where
  mantissa_pos : 0 < m
  mantissa_lt : m < 2 ^ 53
  least : -1074 ≤ e
  greatest : e ≤ 971
  full : 2 ^ 52 ≤ m ∨ e = -1074

/-- The mantissa of a normal float has the leading bit that is not stored. -/
theorem toNat_implicit (m : BitVec 52) : (1#1 ++ m).toNat = 2 ^ 52 + m.toNat := by
  rw [BitVec.toNat_append, ← Nat.shiftLeft_add_eq_or_of_lt m.isLt]
  simp [Nat.shiftLeft_eq]

private theorem log2_add_one_eq {m : ℕ} (h : 2 ^ 52 ≤ m) (h' : m < 2 ^ 53) : m.log2 + 1 = 53 := by
  have : m.log2 = 52 := (Nat.log2_eq_iff (by omega)).mpr ⟨h, h'⟩
  omega

/-- Helper: the packing of a finite float, with the exponent field written out. -/
private theorem pack_finite (s : Sign) {m : ℕ} {e : ℤ} (hm : 0 < m) :
    pack Format.binary64 (.finite s m e hm) =
      if 2 ^ 11 ≤ (e + 1075).toNat + 1 then packedInfinity Format.binary64 s
      else if m.log2 + 1 = 53 then
        packComponents Format.binary64 s (BitVec.ofNat 11 (e + 1075).toNat) (BitVec.ofNat 52 m)
      else packComponents Format.binary64 s 0#11 (BitVec.ofNat 52 m) := by
  have : e + 1075 = e + (Format.binary64.exponentBias : ℤ) +
      (Format.binary64.mantissaBitsWithoutImplicit : ℤ) := by
    simp [Format.exponentBias, add_assoc]
  rw [this]
  rfl

/-- A float beyond the range is stored as infinity. -/
theorem pack_finite_of_le (s : Sign) {m : ℕ} {e : ℤ} (hm : 0 < m) (h : 972 ≤ e) :
    pack Format.binary64 (.finite s m e hm) = packedInfinity Format.binary64 s := by
  rw [pack_finite, if_pos (by omega)]

/-- A finite float that is stored is read as it was stored. -/
theorem unpack_pack_finite (s : Sign) {m : ℕ} {e : ℤ} (hm : 0 < m) (h : IsStored m e) :
    unpack Format.binary64 (pack Format.binary64 (.finite s m e hm)) = .finite s m e hm := by
  rcases le_or_gt (2 ^ 52) m with hf | hf
  -- a normal number: the exponent field is neither all zeros nor all ones
  · have := h.least
    have := h.greatest
    have hb : (BitVec.ofNat 11 (e + 1075).toNat).toNat = (e + 1075).toNat :=
      Nat.mod_eq_of_lt (by omega)
    have hmant : (1#1 ++ BitVec.ofNat 52 m).toNat = m := by
      have := h.mantissa_lt
      rw [toNat_implicit, BitVec.toNat_ofNat]
      omega
    -- all ones would be the exponent of an infinity
    have hmax : BitVec.ofNat 11 (e + 1075).toNat ≠ -1#11 := by
      intro hc
      have := congrArg BitVec.toNat hc
      rw [hb] at this
      simp at this
      omega
    -- zero would be the exponent of a subnormal number
    have hmin : BitVec.ofNat 11 (e + 1075).toNat ≠ 0#11 := by
      intro hc
      have := congrArg BitVec.toNat hc
      rw [hb] at this
      simp at this
      omega
    rw [pack_finite, if_neg (by omega), if_pos (log2_add_one_eq hf h.mantissa_lt), unpack]
    simp only [unpackExponent_packComponents, unpackMantissa_packComponents,
      unpackSign_packComponents, Sign.ofBitVec_toBitVec]
    rw [if_neg hmax, if_neg hmin]
    congr 1
    rw [hb]
    simp [Format.exponentBias]
    omega
  -- a subnormal number: the exponent field is zero and the mantissa is stored as it is
  · obtain rfl : e = -1074 := h.full.resolve_left (by omega)
    have hmant : (BitVec.ofNat 52 m).toNat = m := Nat.mod_eq_of_lt hf
    -- a stored mantissa is not zero
    have hne : BitVec.ofNat 52 m ≠ 0#52 := by
      intro hc
      have := congrArg BitVec.toNat hc
      rw [hmant] at this
      simp at this
      omega
    have hl : ¬ m.log2 + 1 = 53 := by
      have := (Nat.log2_lt (by omega)).mpr hf
      omega
    rw [pack_finite, if_neg (by decide), if_neg hl, unpack]
    simp only [unpackExponent_packComponents, unpackMantissa_packComponents,
      unpackSign_packComponents, Sign.ofBitVec_toBitVec]
    rw [if_neg (by decide), if_pos trivial, dif_neg hne]
    congr 1

/-! ## What a pattern is read as -/

section Unpack

variable {b : BitVec 64} {s : Sign}

/-- A pattern that is read as zero: no bit is set in its exponent and in its mantissa. -/
theorem unpack_eq_zero (h : unpack Format.binary64 b = .zero s) :
    s = Sign.ofBitVec (@unpackSign Format.binary64 b) ∧
      @unpackExponent Format.binary64 b = 0#11 ∧ @unpackMantissa Format.binary64 b = 0#52 := by
  unfold unpack at h
  dsimp only at h
  -- by the exponent: all ones, all zeros, anything else
  split at h
  · split at h <;> cases h
  split at h
  · next hexp =>
    split at h
    · next hmant =>
      cases h
      exact ⟨rfl, hexp, hmant⟩
    · cases h
  · cases h

/-- A pattern that is read as a finite float: its exponent has no bit set, or the mantissa has
another leading bit, and the exponent has a bit that is not set. -/
theorem unpack_eq_finite {m : ℕ} {e : ℤ} {hm : 0 < m}
    (h : unpack Format.binary64 b = .finite s m e hm) :
    s = Sign.ofBitVec (@unpackSign Format.binary64 b) ∧
      ((@unpackExponent Format.binary64 b).toNat = 0 ∧
          m = (@unpackMantissa Format.binary64 b).toNat ∧ e = -1074 ∨
        (@unpackExponent Format.binary64 b).toNat ≠ 0 ∧
          (@unpackExponent Format.binary64 b).toNat ≠ 2047 ∧
          m = 2 ^ 52 + (@unpackMantissa Format.binary64 b).toNat ∧
          e = (@unpackExponent Format.binary64 b).toNat - 1075) := by
  have hbias : (Format.binary64.exponentBias : ℤ) = 1023 := rfl
  unfold unpack at h
  dsimp only at h
  split at h
  · split at h <;> cases h
  next hmax =>
  -- with an exponent of zero the number is subnormal or zero
  split at h
  · next hmin =>
    split at h
    · cases h
    · cases h
      exact ⟨rfl, Or.inl ⟨congrArg BitVec.toNat hmin, rfl, by simp [hmin, hbias]⟩⟩
  · next hmin =>
    -- a normal number, with the leading bit in front of its mantissa
    cases h
    refine ⟨rfl, Or.inr ⟨fun hc => hmin (BitVec.eq_of_toNat_eq hc),
      fun hc => hmax (BitVec.eq_of_toNat_eq hc), toNat_implicit _, ?_⟩⟩
    rw [hbias]
    simp

/-- A finite float that is read has a mantissa and an exponent of one that is stored. -/
theorem isStored_of_unpack {m : ℕ} {e : ℤ} {hm : 0 < m}
    (h : unpack Format.binary64 b = .finite s m e hm) : IsStored m e := by
  have hmant : (@unpackMantissa Format.binary64 b).toNat < 2 ^ 52 := BitVec.isLt _
  have hexp : (@unpackExponent Format.binary64 b).toNat < 2 ^ 11 := BitVec.isLt _
  obtain ⟨-, ⟨-, rfl, rfl⟩ | ⟨hmin, hmax, rfl, rfl⟩⟩ := unpack_eq_finite h
  · exact ⟨hm, by omega, le_rfl, by omega, Or.inr rfl⟩
  · exact ⟨hm, by omega, by omega, by omega, Or.inl (by omega)⟩

end Unpack

/-! ## The fields of a float -/

/-- The sign field of a float is its highest bit. -/
theorem toNat_unpackSign (x : Float) :
    (@unpackSign Format.binary64 x.toBits.toBitVec).toNat = (x.toBits >>> 63).toNat := by
  have := x.toBits.toNat_lt
  simp [unpackSign, UInt64.toNat_shiftRight, Nat.shiftRight_eq_div_pow]
  omega

/-- The exponent field of a float is what `Binary.ofFloat` takes for it. -/
theorem toNat_unpackExponent (x : Float) :
    (@unpackExponent Format.binary64 x.toBits.toBitVec).toNat
      = ((x.toBits >>> 52) &&& 0x7FF).toNat := by
  simp [unpackExponent, UInt64.toNat_and, Nat.and_two_pow_sub_one_eq_mod _ 11]

/-- The mantissa field of a float is what `Binary.ofFloat` takes for it. -/
theorem toNat_unpackMantissa (x : Float) :
    (@unpackMantissa Format.binary64 x.toBits.toBitVec).toNat
      = (x.toBits &&& 0xFFFFFFFFFFFFF).toNat := by
  simp [unpackMantissa, UInt64.toNat_and, Nat.and_two_pow_sub_one_eq_mod _ 52]

end ComponentCanvas.Decimal
