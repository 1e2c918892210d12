import ComponentCanvas.Proofs.Decimal.Value

/-!
# Shortest Decimals Read Back

A finite float is its magnitude with a sign, and the magnitude is a zero or the float of a stored
number.  Whatever `shortest` returns for the magnitude, a candidate that was found or the exact
value, has that float as its nearest one.  So does every decimal of the same value, in whatever
layout it is written: that is `toFloat_eq_abs`.
-/

namespace ComponentCanvas.Decimal

open Float.Model (UnpackedFloat Format totalExponent)
open Float.Model.UnpackedFloat

/-! ## Sign and magnitude -/

/-- Helper: the sign that is read from a float. -/
private theorem ofBitVec_unpackSign (x : Float) :
    Sign.ofBitVec (@unpackSign Format.binary64 x.toBits.toBitVec) =
      if isSignSet x then .negative else .positive := by
  have h := toNat_unpackSign x
  rw [isSignSet, Sign.ofBitVec]
  generalize @unpackSign Format.binary64 x.toBits.toBitVec = b at h
  rcases BitVec.eq_zero_or_eq_one b with rfl | rfl
  · have h0 : x.toBits >>> 63 = 0 := UInt64.toNat_inj.mp (by rw [← h]; rfl)
    simp [h0]
  · have h1 : x.toBits >>> 63 = 1 := UInt64.toNat_inj.mp (by rw [← h]; rfl)
    simp [h1]

/-- The magnitude of a finite float is the number it stores. -/
theorem ofFloat_of_finite {x : Float} {s : Sign} {m : ℕ} {e : ℤ} {hm : 0 < m}
    (h : x.toModel.unpack = .finite s m e hm) :
    Binary.ofFloat x = ⟨m, e⟩ ∧ s = if isSignSet x then .negative else .positive := by
  have hread : unpack Format.binary64 x.toBits.toBitVec = .finite s m e hm := h
  rw [Binary.ofFloat, ← toNat_unpackExponent, ← toNat_unpackMantissa, ← ofBitVec_unpackSign]
  obtain ⟨rfl, ⟨hexp, rfl, rfl⟩ | ⟨hexp, -, rfl, rfl⟩⟩ := unpack_eq_finite hread
  · simp [hexp]
  · rw [if_neg (by simpa using hexp)]
    exact ⟨rfl, rfl⟩

theorem ofFloat_of_zero {x : Float} {s : Sign} (h : x.toModel.unpack = .zero s) :
    (Binary.ofFloat x).m = 0 ∧ s = if isSignSet x then .negative else .positive := by
  have hread : unpack Format.binary64 x.toBits.toBitVec = .zero s := h
  rw [Binary.ofFloat, ← toNat_unpackExponent, ← toNat_unpackMantissa, ← ofBitVec_unpackSign]
  obtain ⟨rfl, hexp, hmant⟩ := unpack_eq_zero hread
  simp [hexp, hmant]

private theorem eq_ofModel_pack {x : Float} {u : UnpackedFloat} (h : x.toModel.unpack = u) :
    x = .ofModel (.pack u) := by
  rw [← h]
  exact x.ofBits_toBits.symm

/-- Helper: a finite float is read as a zero or as a number. -/
private theorem unpack_of_isFinite {x : Float} (h : isFinite x = true) :
    (∃ s, x.toModel.unpack = .zero s) ∨ ∃ s m e hm, x.toModel.unpack = .finite s m e hm := by
  have hn : x.isNaN = false ∧ x.isInf = false := by simpa [isFinite] using h
  change x.toModel.unpack.isNaN = false ∧ x.toModel.unpack.isInf = false at hn
  cases hu : x.toModel.unpack with
  | notANumber => simp [hu, UnpackedFloat.isNaN] at hn
  | infinity s => simp [hu, UnpackedFloat.isInf] at hn
  | zero s => exact Or.inl ⟨s, rfl⟩
  | finite s m e hm => exact Or.inr ⟨s, m, e, hm, rfl⟩

/-- The magnitude of a finite float. -/
inductive Magnitude (x : Float) : Prop
  /-- The magnitude is zero. -/
  | zero (digits : (Binary.ofFloat x.abs).m = 0) (abs_eq : x.abs = 0.0)
  /-- The magnitude is a stored number. -/
  | number (m : ℕ) (e : ℤ) (stored : IsStored m e) (digits : Binary.ofFloat x.abs = ⟨m, e⟩)
      (abs_eq : x.abs = floatOf (m * 2 ^ e))

/-- Every finite float has a magnitude. -/
theorem magnitude_of_isFinite {x : Float} (h : isFinite x = true) : Magnitude x := by
  have habs : x.abs = .ofModel (.pack x.toModel.unpack.abs) := rfl
  rcases unpack_of_isFinite h with ⟨s, hu⟩ | ⟨s, m, e, hm, hu⟩
  -- a zero
  · rw [hu] at habs
    have hzero : x.abs = 0.0 := habs.trans zero_eq.symm
    exact .zero (by rw [hzero]; decide +kernel) hzero
  -- a number with a mantissa, which is nearest to itself
  · rw [hu] at habs
    have hs := isStored_of_unpack hu
    have hnumber : x.abs = floatOf (m * 2 ^ e) := by
      rw [floatOf, nearest_of_stored hs]
      exact habs
    refine .number m e hs ?_ hnumber
    rw [hnumber]
    exact (ofFloat_of_finite (unpack_floatOf hs)).1

private theorem eq_of_sign {x : Float} {s : Sign} (u : Sign → UnpackedFloat)
    (hx : x = .ofModel (.pack (u s))) (habs : x.abs = .ofModel (.pack (u .positive)))
    (hneg : -x.abs = .ofModel (.pack (u .negative)))
    (hsign : s = if isSignSet x then .negative else .positive) :
    x = if isSignSet x then -x.abs else x.abs := by
  by_cases hb : isSignSet x = true
  · rw [if_pos hb] at hsign ⊢
    rw [hneg, ← hsign]
    exact hx
  · rw [if_neg hb] at hsign ⊢
    rw [habs, ← hsign]
    exact hx

/-- A finite float is its magnitude with its sign. -/
theorem eq_abs_with_sign {x : Float} (h : isFinite x = true) :
    x = if isSignSet x then -x.abs else x.abs := by
  have habs : x.abs = .ofModel (.pack x.toModel.unpack.abs) := rfl
  rcases unpack_of_isFinite h with ⟨s, hu⟩ | ⟨s, m, e, hm, hu⟩
  · rw [hu, UnpackedFloat.abs] at habs
    -- zero has two signs, too
    have hneg : -x.abs = .ofModel (.pack (.zero .negative)) := by
      rw [habs]
      decide +kernel
    exact eq_of_sign .zero (eq_ofModel_pack hu) habs hneg (ofFloat_of_zero hu).2
  · have hs := isStored_of_unpack hu
    rw [hu, UnpackedFloat.abs] at habs
    -- the magnitude is packed and read again before it is negated
    have hback := unpack_pack_finite .positive hm hs
    have hneg : -x.abs = .ofModel (.pack (.finite .negative m e hm)) := by
      rw [habs]
      show Float.ofModel (.pack (UnpackedFloat.neg (unpack Format.binary64
        (pack Format.binary64 (.finite .positive m e hm))))) = _
      rw [hback]
      rfl
    exact eq_of_sign (.finite · m e hm) (eq_ofModel_pack hu) habs hneg (ofFloat_of_finite hu).2

/-! ## The shortest decimal -/

/-- Helper: the nearer of two neighbours is one of them. -/
private theorem nearer_eq_or (below num den : ℕ) (tie : Tie) :
    nearer below num den tie = below ∨ nearer below num den tie = below + 1 := by
  unfold nearer
  -- below the middle, above it, or on it, where the tie decides
  split
  · exact Or.inl rfl
  · exact Or.inr rfl
  · split
    · exact Or.inr rfl
    · split
      · exact Or.inl rfl
      · exact Or.inr rfl

/-- A candidate of some length reads back. -/
theorem toFloat_of_atLength? {x : Float} {b : Binary} {scale : ℤ} {tie : Tie} {n : ℕ}
    {d : Scientific} (h : atLength? x b scale tie n = some d) : d.toFloat = x := by
  unfold atLength? at h
  dsimp only at h
  split at h
  -- each candidate was compared with the float before it was taken
  · next hbelow habove =>
    cases h
    rcases nearer_eq_or _ _ _ tie with hn | hn <;> rw [hn]
    · exact Float.toBits_inj.mp (eq_of_beq hbelow)
    · exact Float.toBits_inj.mp (eq_of_beq habove)
  · next hbelow _ =>
    cases h
    exact Float.toBits_inj.mp (eq_of_beq hbelow)
  · next _ habove =>
    cases h
    exact Float.toBits_inj.mp (eq_of_beq habove)
  · cases h

/-- Moving trailing zeros into the exponent keeps the value. -/
theorem stripZeros_value (fuel : ℕ) (d : Scientific) : (stripZeros fuel d).value = d.value := by
  induction fuel generalizing d with
  | zero => rfl
  | succ fuel ih =>
    rw [stripZeros]
    split
    · next h =>
      -- the last digit is zero, and the exponent makes up for it
      have h10 : d.digits % 10 = 0 := by
        simp only [Bool.and_eq_true, beq_iff_eq] at h
        exact h.1
      have hdigits : ((d.digits / 10 : ℕ) : ℚ) * 10 = d.digits := by
        exact_mod_cast Nat.div_mul_cancel (Nat.dvd_of_mod_eq_zero h10)
      rw [ih, Scientific.value, Scientific.value]
      dsimp only
      rw [zpow_add₀ (by norm_num), zpow_one, mul_comm (10 ^ d.exponent), ← mul_assoc, hdigits]
    · rfl

/-- The exact decimal of a binary number has its value. -/
theorem exact_value (b : Binary) : b.exact.value = b.m * 2 ^ b.q := by
  rw [Binary.exact]
  split
  · next h =>
    have hq : (b.q.toNat : ℤ) = b.q := Int.toNat_of_nonneg h
    rw [Scientific.value, zpow_zero, mul_one]
    dsimp only
    rw [Nat.pow_eq, Nat.cast_mul, Nat.cast_pow, ← zpow_natCast _ b.q.toNat, hq]
    rfl
  · next h =>
    -- a division by two is a multiplication by five with a smaller exponent
    have hq : (b.q.natAbs : ℤ) = -b.q := by omega
    rw [Scientific.value]
    dsimp only
    rw [Nat.pow_eq, Nat.cast_mul, Nat.cast_pow, ← zpow_natCast _ b.q.natAbs, hq, mul_assoc,
      show (10 : ℚ) = (5 : ℕ) * 2 by norm_num, mul_zpow, ← mul_assoc (_ ^ (-b.q)),
      ← zpow_add₀ (by norm_num)]
    simp

theorem value_eq_zero {d : Scientific} : d.value = 0 ↔ d.digits = 0 := by
  simp [Scientific.value, zpow_ne_zero]

/-- The shortest decimal of a stored number has its float as its nearest one. -/
theorem floatOf_shortest {x : Float} {m : ℕ} {e : ℤ} (hs : IsStored m e)
    (hb : Binary.ofFloat x = ⟨m, e⟩) (hx : x = floatOf (m * 2 ^ e)) (tie : Tie) :
    (shortest x tie).value ≠ 0 ∧ floatOf (shortest x tie).value = x := by
  have hm := hs.mantissa_pos
  rw [shortest, hb]
  dsimp only
  rw [if_neg (by simpa using hm.ne'), stripZeros_value]
  cases hf : (List.range 17).findSome? fun i =>
      atLength? x ⟨m, e⟩ (Binary.scale ⟨m, e⟩) tie (i + 1) with
  -- no short text reads back, so the exact digits are taken
  | none =>
    rw [Option.getD_none, exact_value]
    exact ⟨by positivity, hx.symm⟩
  | some d =>
    obtain ⟨i, -, hi⟩ := List.exists_of_findSome?_eq_some hf
    have hd := toFloat_of_atLength? hi
    -- zero reads as another float than a stored number
    have hne : d.digits ≠ 0 := by
      intro hc
      rw [Scientific.toFloat, if_pos (by simpa using hc), zero_eq, hx] at hd
      have hu := unpack_floatOf hs
      rw [← hd] at hu
      cases hu
    rw [Option.getD_some, ← toFloat_eq_floatOf hne]
    exact ⟨fun h => hne (value_eq_zero.mp h), hd⟩

/-- A decimal with the value of the shortest one of a finite float reads as its magnitude. -/
theorem toFloat_eq_abs {x : Float} (h : isFinite x = true) {tie : Tie} {d : Scientific}
    (hd : d.value = (shortest x.abs tie).value) : d.toFloat = x.abs := by
  cases magnitude_of_isFinite h with
  -- zero is read without scaling it
  | zero digits abs_eq =>
    have hzero : d.digits = 0 := by
      rw [← value_eq_zero, hd, shortest, if_pos (by simpa using digits)]
      simp [Scientific.value]
    rw [Scientific.toFloat, if_pos (by simpa using hzero), abs_eq]
  | number m e stored digits abs_eq =>
    obtain ⟨hne, hvalue⟩ := floatOf_shortest stored digits abs_eq tie
    rw [← hd] at hne hvalue
    rw [toFloat_eq_floatOf fun hc => hne (value_eq_zero.mpr hc), hvalue]

end ComponentCanvas.Decimal
