import ComponentCanvas.Proofs.Decimal.Nearest

/-!
# The Value of a Decimal

`Scientific.toFloat` reads a decimal in several ways: it cuts exponents far out of range short,
looks small powers of ten up in a table, and rounds an exact product or quotient otherwise.
`toFloat_eq_floatOf` says that all of them give the float nearest to the value of the decimal, so
decimals of one value read as one float.
-/

namespace ComponentCanvas.Decimal

open Float.Model (UnpackedFloat Format totalExponent)
open Float.Model.UnpackedFloat

/-- The number that a decimal stands for. -/
def Scientific.value (d : Scientific) : ℚ := d.digits * 10 ^ d.exponent

/-! ## The scale of a decimal -/

/-- A power of ten that is not above one is below the power of two with the same exponent. -/
theorem log_natCast_mul_le {m : ℕ} {e : ℤ} (hm : 0 < m) (he : e ≤ 0) :
    Int.log 2 (m * 10 ^ e : ℚ) ≤ m.log2 + e := by
  have hr : (0 : ℚ) < m * 10 ^ e := by positivity
  have h1 : (m : ℚ) < 2 ^ (m.log2 + 1 : ℤ) := by exact_mod_cast Nat.lt_log2_self
  have h2 : (10 : ℚ) ^ e ≤ 2 ^ e := by
    have hp : (2 : ℚ) ^ (-e) ≤ 10 ^ (-e) := zpow_le_zpow_left₀ (by omega) two_pos.le (by norm_num)
    rw [zpow_neg, zpow_neg] at hp
    exact (inv_le_inv₀ (by positivity) (by positivity)).mp hp
  -- the exponent is not positive, so powers of ten lie below those of two
  have hlt : (m * 10 ^ e : ℚ) < 2 ^ (m.log2 + e + 1) :=
    calc (m * 10 ^ e : ℚ) ≤ m * 2 ^ e := by gcongr
      _ < 2 ^ (m.log2 + 1 : ℤ) * 2 ^ e := by gcongr
      _ = 2 ^ (m.log2 + e + 1) := by rw [← zpow_add₀ two_ne_zero]; congr 1; ring
  have := (Int.lt_zpow_iff_log_lt one_lt_two hr).mp (by exact_mod_cast hlt)
  omega

/-- A power of ten that is not below one is above the power of eight with the same exponent. -/
theorem le_log_natCast_mul {m : ℕ} {e : ℤ} (hm : 0 < m) (he : 0 ≤ e) :
    3 * e ≤ Int.log 2 (m * 10 ^ e : ℚ) := by
  have hr : (0 : ℚ) < m * 10 ^ e := by positivity
  rw [← Int.zpow_le_iff_le_log one_lt_two hr]
  have h1 : (1 : ℚ) ≤ m := by exact_mod_cast hm
  calc ((2 : ℕ) : ℚ) ^ (3 * e) = 8 ^ e := by rw [zpow_mul]; norm_num
    _ ≤ 10 ^ e := zpow_le_zpow_left₀ he (by norm_num) (by norm_num)
    _ ≤ m * 10 ^ e := le_mul_of_one_le_left (by positivity) h1

/-! ## Reading a decimal -/

/-- A decimal is rounded to the nearest float. -/
theorem pack_ofScientific {m : ℕ} (e : ℤ) (hm : 0 < m) :
    pack Format.binary64 (UnpackedFloat.ofScientific Format.binary64 m e)
      = pack Format.binary64 (nearest (m * 10 ^ e)) := by
  have hr : (0 : ℚ) < m * 10 ^ e := by positivity
  have hbits : ((2 : ℤ) ^ Format.binary64.exponentBits) = 2048 := by rfl
  unfold UnpackedFloat.ofScientific
  rw [dif_neg hm.ne', hbits]
  -- exponents far out of range are cut short, to infinity and to zero
  split
  · next he =>
    have := le_log_natCast_mul hm (e := e) (by omega)
    rw [pack_nearest_of_overflow hr (by omega)]
    rfl
  split
  · next he =>
    have := log_natCast_mul_le hm (e := e) (by omega)
    rw [nearest_of_underflow hr (by omega)]
  -- the digits are shifted by the bits of a mantissa, so that the product has enough of them
  split
  · next he =>
    refine congrArg (pack Format.binary64) ?_
    have hm1 : 1 ≤ m := hm
    have h10 : 1 ≤ 10 ^ e.toNat := Nat.one_le_pow _ _ (by norm_num)
    have hshift : m <<< Format.binary64.mantissaBits = m * 2 ^ 53 := Nat.shiftLeft_eq _ _
    -- the shifted mantissa fills the format, so rounding sees all bits that it needs
    have hle : 2 ^ 52 ≤ (m <<< Format.binary64.mantissaBits) * 10 ^ e.toNat := by
      rw [hshift]
      calc 2 ^ 52 ≤ 1 * 2 ^ 53 * 1 := by norm_num
        _ ≤ m * 2 ^ 53 * 10 ^ e.toNat := by gcongr
    rw [mul_eq_nearest _ _ hle, hshift]
    refine congrArg nearest ?_
    have htoNat : (e.toNat : ℤ) = e := by omega
    have hcancel : ((m * 2 ^ 53 : ℕ) : ℚ) * 2 ^ (-(Format.binary64.mantissaBits : ℤ)) = m := by
      rw [show -((Format.binary64.mantissaBits : ℕ) : ℤ) = -(53 : ℕ) from rfl, zpow_neg,
        zpow_natCast]
      push_cast
      exact mul_inv_cancel_right₀ (by positivity) _
    rw [hcancel, zpow_zero, mul_one, Nat.cast_pow, ← zpow_natCast _ e.toNat, htoNat]
    rfl
  · next he =>
    refine congrArg (pack Format.binary64) ?_
    -- a negative exponent divides by a power of ten
    rw [div_eq_nearest hm (Nat.pow_pos (by decide))]
    refine congrArg nearest ?_
    have : ((-e).toNat : ℤ) = -e := by omega
    push_cast
    rw [← zpow_natCast 10 (-e).toNat, this]
    simp

/-- The float nearest to a positive number. -/
def floatOf (r : ℚ) : Float := .ofModel (.pack (nearest r))

theorem unpack_floatOf {m : ℕ} {e : ℤ} (h : IsStored m e) :
    (floatOf (m * 2 ^ e)).toModel.unpack = .finite .positive m e h.mantissa_pos := by
  rw [floatOf, nearest_of_stored h]
  exact unpack_pack_finite .positive h.mantissa_pos h

/-- Helper: the tabulated powers of ten are what the conversion of natural numbers gives. -/
private theorem powersOfTen_get (i : Fin Float.exactlyRepresentablePowersOfTen.size) :
    Float.exactlyRepresentablePowersOfTen[i] = Float.ofModel (Float.Model.ofNat (10 ^ i.val)) := by
  -- the table has 23 entries
  revert i
  decide +kernel

/-- A word is converted to the nearest float. -/
theorem toFloat_toUInt64 {m : ℕ} (hm : 0 < m) (hm' : m < 2 ^ 64) :
    m.toUInt64.toFloat = floatOf m := by
  have hto : m.toUInt64.toNat = m := Nat.mod_eq_of_lt hm'
  rw [floatOf, ← ofNat_eq_nearest hm]
  show Float.ofModel (.pack (UnpackedFloat.ofNat Format.binary64 m.toUInt64.toNat)) = _
  rw [hto]

/-- The tabulated powers of ten are stored exactly. -/
theorem powersOfTen_eq_floatOf (i : Fin Float.exactlyRepresentablePowersOfTen.size) :
    Float.exactlyRepresentablePowersOfTen[i] = floatOf (10 ^ i.val) := by
  rw [powersOfTen_get, floatOf, Float.Model.ofNat, ofNat_eq_nearest (by positivity)]
  push_cast
  rfl

/-- Helper: the tabulated powers of ten can be stored. -/
private theorem exists_isStored_pow_ten {k : ℕ} (h : k ≤ 22) :
    ∃ c d, IsStored c d ∧ (10 ^ k : ℚ) = c * 2 ^ d := by
  -- the factors of two go into the exponent, so only the power of five needs bits
  have hfive : 5 ^ k < 2 ^ 53 :=
    calc 5 ^ k ≤ 5 ^ 22 := Nat.pow_le_pow_right (by norm_num) h
      _ < 2 ^ 53 := by norm_num
  obtain ⟨c, d, hs, -, hvalue⟩ :=
    exists_isStored (m := 5 ^ k) (e := k) (by positivity) hfive (by omega) (by omega)
  refine ⟨c, d, hs, ?_⟩
  rw [← hvalue, zpow_natCast]
  push_cast
  rw [← mul_pow]
  norm_num

/-- The product of two stored numbers is the float nearest to their product. -/
theorem mul_floatOf {a c : ℕ} {b d : ℤ} (h : IsStored a b) (h' : IsStored c d)
    (hfull : 2 ^ 52 ≤ a) :
    floatOf (a * 2 ^ b) * floatOf (c * 2 ^ d) = floatOf ((a * 2 ^ b) * (c * 2 ^ d)) := by
  have hle : 2 ^ 52 ≤ a * c := hfull.trans (Nat.le_mul_of_pos_right _ h'.mantissa_pos)
  show Float.ofModel (.pack (UnpackedFloat.mul Format.binary64
    (floatOf (a * 2 ^ b)).toModel.unpack (floatOf (c * 2 ^ d)).toModel.unpack)) = _
  rw [unpack_floatOf h, unpack_floatOf h', mul_eq_nearest _ _ hle]
  rfl

/-- The quotient of two stored numbers is the float nearest to their quotient. -/
theorem div_floatOf {a c : ℕ} {b d : ℤ} (h : IsStored a b) (h' : IsStored c d) :
    floatOf (a * 2 ^ b) / floatOf (c * 2 ^ d) = floatOf ((a * 2 ^ b) / (c * 2 ^ d)) := by
  show Float.ofModel (.pack (UnpackedFloat.div Format.binary64
    (floatOf (a * 2 ^ b)).toModel.unpack (floatOf (c * 2 ^ d)).toModel.unpack)) = _
  rw [unpack_floatOf h, unpack_floatOf h', div_eq_nearest]
  rfl

/-- Helper: an exponent is put together from its sign and its magnitude. -/
private theorem signed_natAbs (e : ℤ) :
    (if decide (e < 0) = true then Int.negOfNat e.natAbs else Int.ofNat e.natAbs) = e := by
  split
  · next he =>
    have : e < 0 := by simpa using he
    rw [Int.negOfNat_eq, Int.ofNat_eq_natCast]
    omega
  · next he =>
    have : 0 ≤ e := by simpa using he
    show (e.natAbs : ℤ) = e
    omega

/-- Products and quotients of a short number and a tabulated power of ten are rounded once. -/
theorem ofScientific_eq_floatOf {m : ℕ} (e : ℤ) (hm : 0 < m) :
    Float.ofScientific m (decide (e < 0)) e.natAbs = floatOf (m * 10 ^ e) := by
  rw [Float.ofScientific]
  split
  · next h =>
    -- both operands are stored exactly, so the only rounding is that of the operation
    obtain ⟨a, b, hs, hfull, hnumber⟩ := exists_isStored (e := 0) hm h.1 (by omega) (by omega)
    obtain ⟨c, d, hs', hpower⟩ := exists_isStored_pow_ten h.2
    have htable := powersOfTen_eq_floatOf ⟨e.natAbs, Nat.lt_succ_of_le h.2⟩
    simp only [Fin.getElem_fin] at htable
    rw [zpow_zero, mul_one] at hnumber
    rw [htable, toFloat_toUInt64 hm (h.1.trans (by norm_num)), hnumber, hpower]
    rcases lt_or_ge e 0 with he | he
    · have hexp : (e.natAbs : ℤ) = -e := by omega
      rw [if_pos (by simpa using he), div_floatOf hs hs', ← hpower, ← zpow_natCast, hexp, zpow_neg,
        div_inv_eq_mul]
    · have hexp : (e.natAbs : ℤ) = e := by omega
      rw [if_neg (by simpa using he), mul_floatOf hs hs' hfull, ← hpower, ← zpow_natCast, hexp]
  -- beyond exact operands the model rounds once as well
  · show Float.ofModel (Float.Model.ofScientific m (if _ then _ else _)) = _
    have hpack := pack_ofScientific e hm
    rw [signed_natAbs, floatOf, Float.Model.ofScientific, Float.Model.pack, Float.Model.pack]
    simp only [hpack]

theorem lt_pow_length_digitsOf (n : ℕ) : n < 10 ^ (digitsOf n).length :=
  (Nat.length_toDigits_le_iff (by norm_num) Nat.length_toDigits_pos).mp le_rfl

/-- A decimal whose digits all stand behind the point is below a power of eight. -/
theorem log_value_lt {d : Scientific} (h : d.digits ≠ 0)
    (h' : d.exponent + (digitsOf d.digits).length ≤ 0) :
    Int.log 2 d.value < 3 * (d.exponent + (digitsOf d.digits).length) := by
  have hpos : 0 < d.digits := Nat.pos_of_ne_zero h
  have hr : 0 < d.value := by
    rw [Scientific.value]
    positivity
  set k : ℤ := d.exponent + (digitsOf d.digits).length with hk
  rw [← Int.lt_zpow_iff_log_lt one_lt_two hr]
  -- the exponent is not positive, so the greater base gives the lesser power
  have h10 : (10 : ℚ) ^ k ≤ 8 ^ k := by
    have hp : (8 : ℚ) ^ (-k) ≤ 10 ^ (-k) :=
      zpow_le_zpow_left₀ (by omega) (by norm_num) (by norm_num)
    rw [zpow_neg, zpow_neg] at hp
    exact (inv_le_inv₀ (by positivity) (by positivity)).mp hp
  -- a number is less than the power of ten with one place more
  have hdigits : (d.digits : ℚ) < 10 ^ ((digitsOf d.digits).length : ℤ) := by
    exact_mod_cast lt_pow_length_digitsOf d.digits
  calc d.value < 10 ^ ((digitsOf d.digits).length : ℤ) * 10 ^ d.exponent := by
        rw [Scientific.value]
        gcongr
    _ = 10 ^ k := by rw [← zpow_add₀ (by norm_num), hk, add_comm]
    _ ≤ 8 ^ k := h10
    _ = ((2 : ℕ) : ℚ) ^ (3 * k) := by rw [zpow_mul]; norm_num

theorem zero_eq : (0.0 : Float) = .ofModel (.pack (.zero .positive)) := by
  decide +kernel

theorem infinity_eq : infinity = .ofModel (.pack (.infinity .positive)) := by
  decide +kernel

/-- What a decimal reads as is the float nearest to its value. -/
theorem toFloat_eq_floatOf {d : Scientific} (h : d.digits ≠ 0) : d.toFloat = floatOf d.value := by
  have hpos : 0 < d.digits := Nat.pos_of_ne_zero h
  have hr : 0 < d.value := by
    rw [Scientific.value]
    positivity
  rw [Scientific.toFloat, if_neg (by simpa using h)]
  -- the two cuts agree with rounding: beyond them the nearest float is infinity or zero
  split
  · next he =>
    have hlog : 1024 ≤ Int.log 2 d.value := by
      have := le_log_natCast_mul hpos (e := d.exponent) (by omega)
      rw [Scientific.value]
      omega
    have hpack := pack_nearest_of_overflow hr hlog
    rw [infinity_eq, floatOf, Float.Model.pack, Float.Model.pack]
    congr 2
    rw [hpack]
    rfl
  split
  · next he =>
    have hlog := log_value_lt h (by omega)
    rw [zero_eq, floatOf, nearest_of_underflow hr (by omega)]
  · exact ofScientific_eq_floatOf d.exponent hpos

end ComponentCanvas.Decimal
