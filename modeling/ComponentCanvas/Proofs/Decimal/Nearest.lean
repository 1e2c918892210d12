import ComponentCanvas.Proofs.Decimal.Binary64
import Mathlib.Data.Int.Log
import Mathlib.Data.Rat.Floor
import Mathlib.Algebra.Order.Floor.Semifield

/-!
# The Nearest Float

Products and quotients of floats are rounded in stages: the mantissa is shifted to the unit in the
last place, two residual bits record what was shifted out, the mantissa is rounded, and a carry
moves into the exponent.  `nearest` is that rounding as one function of a rational number, and
`mul_eq_nearest` and `div_eq_nearest` say that a product and a quotient are rounded by it.  What a
decimal reads as is thereby a matter of its value alone.
-/

namespace ComponentCanvas.Decimal

open Float.Model (UnpackedFloat Format totalExponent)
open Float.Model.UnpackedFloat

/-! ## Cutting a number to a mantissa -/

/-- A non-negative number cut to a mantissa, with what the two residual bits keep of the rest. -/
def cut (q : ℚ) : ExtendedMantissa where
  mantissa := ⌊q⌋₊
  roundBit := decide ((⌊q⌋₊ : ℚ) + 1 / 2 ≤ q)
  stickyBit := decide (q ≠ ⌊q⌋₊ ∧ q ≠ ⌊q⌋₊ + 1 / 2)

theorem cut_natCast_add (n : ℕ) {f : ℚ} (h : 0 ≤ f) (h' : f < 1) :
    cut (n + f) = ⟨n, decide (1 / 2 ≤ f), decide (f ≠ 0 ∧ f ≠ 1 / 2)⟩ := by
  have hn : ⌊(n : ℚ) + f⌋₊ = n :=
    (Nat.floor_eq_iff (by positivity)).mpr ⟨by linarith, by linarith⟩
  simp [cut, hn]

theorem cut_natCast (n : ℕ) : cut n = ⟨n, false, false⟩ := by
  have h := cut_natCast_add n (le_refl (0 : ℚ)) one_pos
  rw [add_zero] at h
  rw [h]
  norm_num

theorem exists_natCast_add {q : ℚ} (h : 0 ≤ q) : ∃ (n : ℕ) (f : ℚ), q = n + f ∧ 0 ≤ f ∧ f < 1 :=
  ⟨⌊q⌋₊, q - ⌊q⌋₊, by ring, by linarith [Nat.floor_le h], by linarith [Nat.lt_floor_add_one q]⟩

/-- Shifting what was cut is cutting half of the number. -/
theorem shiftRightOne_cut {q : ℚ} (h : 0 ≤ q) : (cut q).shiftRightOne = cut (q / 2) := by
  obtain ⟨n, f, rfl, hf, hf'⟩ := exists_natCast_add h
  -- the new sticky bit keeps whether anything at all was behind the point
  have hbits : (decide (1 / 2 ≤ f) || decide (f ≠ 0 ∧ f ≠ 1 / 2)) = decide (f ≠ 0) := by
    rw [← Bool.decide_or, decide_eq_decide]
    constructor
    · rintro (h | h)
      · exact (lt_of_lt_of_le (by norm_num) h).ne'
      · exact h.1
    · intro h0
      rcases lt_or_ge f (1 / 2) with h1 | h1
      · exact Or.inr ⟨h0, h1.ne⟩
      · exact Or.inl h1
  rw [cut_natCast_add n hf hf', ExtendedMantissa.shiftRightOne]
  dsimp only
  rw [hbits]
  -- the last bit of the mantissa becomes the round bit
  rcases Nat.even_or_odd' n with ⟨k, rfl | rfl⟩
  · rw [show ((2 * k : ℕ) + f) / 2 = (k : ℚ) + f / 2 by push_cast; ring,
      cut_natCast_add k (by linarith) (by linarith)]
    have h1 : ¬ (1 / 2 ≤ f / 2) := by linarith
    have h2 : f / 2 ≠ 1 / 2 := by linarith
    simp [-one_div, h1, h2]
  · rw [show ((2 * k + 1 : ℕ) + f) / 2 = (k : ℚ) + (1 + f) / 2 by push_cast; ring,
      cut_natCast_add k (by linarith) (by linarith)]
    have h1 : 1 / 2 ≤ (1 + f) / 2 := by linarith
    have h2 : (1 + f) / 2 ≠ 0 := by linarith
    have h3 : (1 + f) / 2 = 1 / 2 ↔ f = 0 := by constructor <;> intro h <;> linarith
    have h4 : (2 * k + 1) / 2 = k := by omega
    simp [-one_div, h1, h2, h3, h4, Nat.add_mod]

/-- Shifting several times is cutting a fraction of the number. -/
theorem shiftRight_cut {q : ℚ} (h : 0 ≤ q) (k : ℕ) : cut q >>> k = cut (q / 2 ^ k) := by
  induction k with
  | zero => simp [HShiftRight.hShiftRight, Nat.repeat]
  | succ k ih =>
    show (cut q >>> k).shiftRightOne = _
    rw [ih, shiftRightOne_cut (by positivity)]
    congr 1
    rw [pow_succ]
    field_simp

/-- Dividing with a remainder is cutting the quotient. -/
theorem ofMantissaAndAccuracy_div (a : ℕ) {d : ℕ} (h : 0 < d) :
    ExtendedMantissa.ofMantissaAndAccuracy (a / d) (accuracyOfFraction (a % d) d)
      = cut (a / d) := by
  have hd : (0 : ℚ) < d := by exact_mod_cast h
  have hlt : ((a % d : ℕ) : ℚ) < d := by exact_mod_cast Nat.mod_lt a h
  -- the quotient is the whole part and the remainder over the divisor
  have hq : (a : ℚ) / d = (a / d : ℕ) + ((a % d : ℕ) : ℚ) / d := by
    have : (a : ℚ) = (d : ℚ) * (a / d : ℕ) + (a % d : ℕ) := by
      exact_mod_cast (Nat.div_add_mod a d).symm
    field_simp
    linarith
  rw [hq, cut_natCast_add _ (by positivity) ((div_lt_one hd).mpr hlt), accuracyOfFraction]
  have hhalf : (1 / 2 ≤ ((a % d : ℕ) : ℚ) / d) ↔ d ≤ 2 * (a % d) := by
    rw [div_le_div_iff₀ two_pos hd, one_mul, mul_comm]
    exact_mod_cast Iff.rfl
  have heq : ((a % d : ℕ) : ℚ) / d = 1 / 2 ↔ 2 * (a % d) = d := by
    rw [div_eq_div_iff hd.ne' two_ne_zero, one_mul, mul_comm]
    exact_mod_cast Iff.rfl
  -- the accuracy compares the remainder with half of the divisor, as the residual bits do
  simp only [hhalf, ne_eq, heq, div_eq_zero_iff, hd.ne', or_false, Nat.cast_eq_zero]
  split
  · next h0 => simp [h0, ExtendedMantissa.ofMantissaAndAccuracy, h.ne']
  · next h0 =>
    rcases lt_trichotomy (2 * (a % d)) d with hc | hc | hc
    · rw [Nat.compare_eq_lt.mpr hc]
      simp [ExtendedMantissa.ofMantissaAndAccuracy, h0, hc, hc.ne]
    · rw [Nat.compare_eq_eq.mpr hc]
      simp [ExtendedMantissa.ofMantissaAndAccuracy, h0, hc]
    · rw [Nat.compare_eq_gt.mpr hc]
      simp [ExtendedMantissa.ofMantissaAndAccuracy, h0, hc.le, hc.ne']

/-! ## The unit in the last place -/

/-- The exponent of the unit in the last place of the binary64 numbers around a number. -/
def unitExponent (r : ℚ) : ℤ := max (Int.log 2 r - 52) (-1074)

theorem targetExponent_eq (t : ℤ) : Format.binary64.targetExponent t = max (t - 53) (-1074) := rfl

/-- The order of magnitude of a number is that of the mantissa that was cut from it. -/
theorem log_eq_of_floor {m : ℕ} {e : ℤ} {r : ℚ} (hm : 0 < m) (h : ⌊r / 2 ^ e⌋₊ = m) :
    Int.log 2 r = m.log2 + e := by
  have he : (0 : ℚ) < 2 ^ e := by positivity
  have hr : 0 < r / 2 ^ e := by
    by_contra hc
    rw [Nat.floor_of_nonpos (by linarith)] at h
    omega
  have hr' : 0 < r := by
    rwa [lt_div_iff₀ he, zero_mul] at hr
  -- between the powers of two around the mantissa, moved by the exponent
  have hlow : (2 : ℚ) ^ (m.log2 + e : ℤ) ≤ r := by
    have h1 : ((2 ^ m.log2 : ℕ) : ℚ) ≤ m := by exact_mod_cast Nat.log2_self_le hm.ne'
    have h2 : (m : ℚ) ≤ r / 2 ^ e := (Nat.le_floor_iff hr.le).mp h.ge
    rw [zpow_add₀ two_ne_zero, ← le_div_iff₀ he]
    push_cast at h1
    exact_mod_cast h1.trans h2
  have hhigh : r < (2 : ℚ) ^ (m.log2 + e + 1 : ℤ) := by
    have h1 : ((m + 1 : ℕ) : ℚ) ≤ (2 ^ (m.log2 + 1) : ℕ) := by exact_mod_cast Nat.lt_log2_self
    have h2 : r / 2 ^ e < (m + 1 : ℕ) := by
      have := Nat.lt_floor_add_one (r / 2 ^ e)
      rw [h] at this
      exact_mod_cast this
    rw [show (m.log2 + e + 1 : ℤ) = ((m.log2 + 1 : ℕ) : ℤ) + e by push_cast; ring,
      zpow_add₀ two_ne_zero, ← div_lt_iff₀ he]
    push_cast at h1 h2
    exact_mod_cast h2.trans_le h1
  -- the logarithm is the one exponent between the two
  have h1 := (Int.zpow_le_iff_le_log one_lt_two hr').mp (by exact_mod_cast hlow)
  have h2 := (Int.lt_zpow_iff_log_lt one_lt_two hr').mp (by exact_mod_cast hhigh)
  omega

theorem log_lt_of_floor_eq_zero {e : ℤ} {r : ℚ} (hr : 0 < r) (h : ⌊r / 2 ^ e⌋₊ = 0) :
    Int.log 2 r < e := by
  have he : (0 : ℚ) < 2 ^ e := by positivity
  rw [Nat.floor_eq_zero, div_lt_one he] at h
  exact (Int.lt_zpow_iff_log_lt one_lt_two hr).mp (by exact_mod_cast h)

/-- The exponent to which a mantissa is shifted is that of the number it was cut from. -/
theorem targetExponent_totalExponent {m : ℕ} {e : ℤ} {r : ℚ} (hr : 0 < r)
    (h : ⌊r / 2 ^ e⌋₊ = m) (he : e ≤ unitExponent r) :
    Format.binary64.targetExponent (totalExponent m e) = unitExponent r := by
  rw [targetExponent_eq, totalExponent]
  unfold unitExponent at *
  rcases Nat.eq_zero_or_pos m with rfl | hm
  · have := log_lt_of_floor_eq_zero hr h
    simp only [Nat.log2_zero]
    omega
  · rw [log_eq_of_floor hm h]
    omega

/-! ## Rounding -/

/-- The number of a rounded mantissa; a carry out of its 53 bits moves into the exponent. -/
def carry (m : ℕ) (e : ℤ) : UnpackedFloat :=
  let shifted := shiftToTargetExponent Format.binary64 m e .exact
  if h : shifted.1.mantissa = 0 then .zero .positive
  else .finite .positive shifted.1.mantissa shifted.2 (Nat.pos_of_ne_zero h)

/-- The binary64 number nearest to a positive number. -/
def nearest (r : ℚ) : UnpackedFloat :=
  carry (cut (r / 2 ^ unitExponent r)).roundedMantissa (unitExponent r)

/-- Rounding a mantissa that was cut from a number gives the nearest number, whatever the exponent
it was cut at, as long as that is not above the unit in the last place. -/
theorem roundWithAccuracy_eq_nearest {m : ℕ} {e : ℤ} {accuracy : Accuracy} {r : ℚ} (hr : 0 < r)
    (h : ExtendedMantissa.ofMantissaAndAccuracy m accuracy = cut (r / 2 ^ e))
    (he : e ≤ unitExponent r) :
    roundWithAccuracy Format.binary64 .positive m e accuracy = nearest r := by
  -- the mantissa is the same for every accuracy
  have hm : ⌊r / 2 ^ e⌋₊ = m := by
    have := congrArg ExtendedMantissa.mantissa h
    refine this.symm.trans ?_
    cases accuracy with
    | exact => rfl
    | inexact o => cases o <;> rfl
  have hshift : shiftToTargetExponent Format.binary64 m e accuracy
      = (cut (r / 2 ^ unitExponent r), unitExponent r) := by
    have hk : e + (unitExponent r - e).toNat = unitExponent r := by omega
    rw [shiftToTargetExponent, targetExponent_totalExponent hr hm he, shiftToExponent, h,
      shiftRight_cut (by positivity), div_div, ← zpow_natCast, ← zpow_add₀ two_ne_zero, hk]
  rw [roundWithAccuracy, hshift]
  rfl

/-- A product of mantissas that has enough bits is rounded to the nearest number. -/
theorem mul_eq_nearest {a b : ℕ} {e f : ℤ} (ha : 0 < a) (hb : 0 < b) (h : 2 ^ 52 ≤ a * b) :
    mul Format.binary64 (.finite .positive a e ha) (.finite .positive b f hb)
      = nearest ((a * 2 ^ e) * (b * 2 ^ f)) := by
  have hab : 0 < a * b := Nat.mul_pos ha hb
  have hr : (a * 2 ^ e * (b * 2 ^ f) : ℚ) = (a * b : ℕ) * 2 ^ (e + f) := by
    rw [zpow_add₀ two_ne_zero]
    push_cast
    ring
  have hq : (a * b : ℕ) * 2 ^ (e + f) / 2 ^ (e + f) = ((a * b : ℕ) : ℚ) :=
    mul_div_cancel_right₀ _ (by positivity)
  have hr0 : (0 : ℚ) < (a * b : ℕ) * 2 ^ (e + f) := by positivity
  -- the product has 53 bits at least, so its unit is not below the exponent it comes with
  have hu : e + f ≤ unitExponent ((a * b : ℕ) * 2 ^ (e + f)) := by
    have hlog := log_eq_of_floor hab (e := e + f) (r := (a * b : ℕ) * 2 ^ (e + f))
      (by rw [hq, Nat.floor_natCast])
    have := (Nat.le_log2 hab.ne').mpr h
    rw [unitExponent, hlog]
    omega
  rw [hr]
  exact roundWithAccuracy_eq_nearest hr0 (by rw [hq, cut_natCast]; rfl) hu

/-- A quotient is rounded to the nearest number. -/
theorem div_eq_nearest {a b : ℕ} {e f : ℤ} (ha : 0 < a) (hb : 0 < b) :
    div Format.binary64 (.finite .positive a e ha) (.finite .positive b f hb)
      = nearest ((a * 2 ^ e) / (b * 2 ^ f)) := by
  have hb' : (0 : ℚ) < b := by exact_mod_cast hb
  -- the exponent at which the division cuts the quotient
  set t := min (e - f) (Format.binary64.targetExponent (totalExponent a e - totalExponent b f))
    with ht
  have hr0 : (0 : ℚ) < (a * 2 ^ e) / (b * 2 ^ f) := by positivity
  have hk : ((e - f - t).toNat : ℤ) = e - f - t := by omega
  -- scaled to that exponent the quotient is a quotient of naturals
  have hq : (a * 2 ^ e) / (b * 2 ^ f) / 2 ^ t = ((a <<< (e - f - t).toNat : ℕ) : ℚ) / b := by
    rw [Nat.shiftLeft_eq]
    push_cast
    rw [← zpow_natCast, hk, zpow_sub₀ two_ne_zero, zpow_sub₀ two_ne_zero]
    field_simp
  have hu : t ≤ unitExponent ((a * 2 ^ e) / (b * 2 ^ f)) := by
    -- the quotient has at most one bit less than the logarithms say
    have hlog : (a.log2 : ℤ) + e - (b.log2 + f) - 1 ≤
        Int.log 2 ((a * 2 ^ e : ℚ) / (b * 2 ^ f)) := by
      rw [← Int.zpow_le_iff_le_log one_lt_two hr0]
      have h1 : (2 : ℚ) ^ (a.log2 : ℤ) ≤ a := by
        exact_mod_cast Nat.log2_self_le ha.ne'
      have h2 : (b : ℚ) ≤ 2 ^ (b.log2 + 1 : ℤ) := by
        exact_mod_cast Nat.lt_log2_self.le
      rw [le_div_iff₀ (by positivity)]
      calc ((2 : ℕ) : ℚ) ^ ((a.log2 : ℤ) + e - (b.log2 + f) - 1) * (b * 2 ^ f)
          ≤ (2 : ℚ) ^ ((a.log2 : ℤ) + e - (b.log2 + f) - 1) * (2 ^ (b.log2 + 1 : ℤ) * 2 ^ f) := by
            push_cast
            gcongr
        _ = 2 ^ (a.log2 : ℤ) * 2 ^ e := by
            rw [← zpow_add₀ two_ne_zero, ← zpow_add₀ two_ne_zero, ← zpow_add₀ two_ne_zero]
            congr 1
            ring
        _ ≤ a * 2 ^ e := by gcongr
    rw [targetExponent_eq, totalExponent, totalExponent] at ht
    rw [unitExponent]
    omega
  -- so no bit that rounding needs is lost
  refine roundWithAccuracy_eq_nearest hr0 ?_ hu
  rw [hq]
  exact ofMantissaAndAccuracy_div _ hb

/-! ## What the nearest number is -/

/-- The unit in the last place of a stored number is its exponent. -/
theorem unitExponent_of_stored {m : ℕ} {e : ℤ} (h : IsStored m e) :
    unitExponent (m * 2 ^ e) = e := by
  have hlog : Int.log 2 ((m : ℚ) * 2 ^ e) = m.log2 + e :=
    log_eq_of_floor h.mantissa_pos
      (by rw [mul_div_cancel_right₀ _ (by positivity), Nat.floor_natCast])
  have hlt : m.log2 < 53 := (Nat.log2_lt h.mantissa_pos.ne').mpr h.mantissa_lt
  rw [unitExponent, hlog]
  -- a normal number has all its bits; a subnormal one has the least exponent
  rcases h.full with hf | rfl
  · have := (Nat.le_log2 h.mantissa_pos.ne').mpr hf
    have := h.least
    omega
  · omega

/-- Helper: a mantissa without residual bits is divided by a power of two. -/
private theorem shiftToTargetExponent_exact (m : ℕ) (e : ℤ) :
    (shiftToTargetExponent Format.binary64 m e .exact).1.mantissa
        = m / 2 ^ (Format.binary64.targetExponent (totalExponent m e) - e).toNat := by
  have h : ExtendedMantissa.ofMantissaAndAccuracy m .exact = cut m := (cut_natCast m).symm
  rw [shiftToTargetExponent, shiftToExponent, h, shiftRight_cut (by positivity)]
  have h2 := Nat.floor_div_eq_div (K := ℚ) m
    (2 ^ (Format.binary64.targetExponent (totalExponent m e) - e).toNat)
  push_cast at h2
  exact h2

/-- A number that can be stored is its own nearest number. -/
theorem nearest_of_stored {m : ℕ} {e : ℤ} (h : IsStored m e) :
    nearest (m * 2 ^ e) = .finite .positive m e h.mantissa_pos := by
  have hu := unitExponent_of_stored h
  have hpos := h.mantissa_pos
  have hshift : Format.binary64.targetExponent (totalExponent m e) = e := by
    rw [targetExponent_totalExponent (r := m * 2 ^ e) (by positivity) _ hu.ge, hu]
    rw [mul_div_cancel_right₀ _ (by positivity), Nat.floor_natCast]
  -- nothing is shifted out, so nothing is rounded and nothing carries
  have hround : (cut m).roundedMantissa = m := by rw [cut_natCast]; rfl
  have hm : (shiftToTargetExponent Format.binary64 m e .exact).1.mantissa = m := by
    rw [shiftToTargetExponent_exact, hshift]
    simp
  have he : (shiftToTargetExponent Format.binary64 m e .exact).2 = e := by
    rw [shiftToTargetExponent, hshift]
    simp [shiftToExponent]
  rw [nearest, hu, mul_div_cancel_right₀ _ (by positivity), hround, carry]
  simp only [hm, he]
  exact dif_neg h.mantissa_pos.ne'

private theorem mantissa_le_roundedMantissa (em : ExtendedMantissa) :
    em.mantissa ≤ em.roundedMantissa := by
  rw [ExtendedMantissa.roundedMantissa]
  rcases em.accuracy with - | (_ | _ | _) <;> simp [Accuracy.roundToNearestEven]

/-- Helper: a full mantissa beyond the greatest exponent is stored as infinity. -/
private theorem pack_carry_of_overflow {m : ℕ} {e : ℤ} (hm : 2 ^ 52 ≤ m) (he : 972 ≤ e) :
    pack Format.binary64 (carry m e) = packedInfinity Format.binary64 .positive := by
  have hpos : m ≠ 0 := by omega
  -- shifting a mantissa that is too long only raises the exponent further
  have hl : 52 ≤ m.log2 := (Nat.le_log2 hpos).mpr hm
  have ht : (Format.binary64.targetExponent (totalExponent m e) - e).toNat = m.log2 - 52 := by
    rw [targetExponent_eq, totalExponent]
    omega
  have hne : (shiftToTargetExponent Format.binary64 m e .exact).1.mantissa ≠ 0 := by
    rw [shiftToTargetExponent_exact, ht]
    have h1 : 2 ^ (m.log2 - 52) ≤ 2 ^ m.log2 := Nat.pow_le_pow_right two_pos (by omega)
    exact (Nat.div_pos (h1.trans (Nat.log2_self_le hpos)) (by positivity)).ne'
  rw [carry]
  simp only [hne, ↓reduceDIte]
  apply pack_finite_of_le
  rw [shiftToTargetExponent, shiftToExponent]
  dsimp only
  omega

/-- A number beyond the range is stored as infinity. -/
theorem pack_nearest_of_overflow {r : ℚ} (hr : 0 < r) (hlog : 1024 ≤ Int.log 2 r) :
    pack Format.binary64 (nearest r) = packedInfinity Format.binary64 .positive := by
  have hu : unitExponent r = Int.log 2 r - 52 := by
    rw [unitExponent]
    omega
  -- the mantissa has all its bits, so rounding can only carry upwards
  have hcut : 2 ^ 52 ≤ (cut (r / 2 ^ unitExponent r)).mantissa := by
    apply Nat.le_floor
    rw [le_div_iff₀ (by positivity), hu, zpow_sub₀ two_ne_zero]
    have := Int.zpow_log_le_self one_lt_two hr
    push_cast at this ⊢
    linarith
  exact pack_carry_of_overflow (hcut.trans (mantissa_le_roundedMantissa _)) (by omega)

/-- A number below half of the least float is rounded to zero. -/
theorem nearest_of_underflow {r : ℚ} (h : 0 < r) (hlog : Int.log 2 r < -1075) :
    nearest r = .zero .positive := by
  have h' : r < 2 ^ (-1075 : ℤ) := by
    exact_mod_cast (Int.lt_zpow_iff_log_lt one_lt_two h).mpr hlog
  -- the number is below the least one that is stored, whose unit is the least of all
  have hu : unitExponent r = -1074 := by
    rw [unitExponent]
    omega
  have hq : r / 2 ^ (-1074 : ℤ) < 1 / 2 := by
    rw [div_lt_iff₀ (by positivity)]
    calc r < 2 ^ (-1 + -1074 : ℤ) := h'
      _ = 1 / 2 * 2 ^ (-1074 : ℤ) := by rw [zpow_add₀ two_ne_zero, zpow_neg_one, one_div]
  have hround : (cut (r / 2 ^ (-1074 : ℤ))).roundedMantissa = 0 := by
    -- less than half of the unit is left, and less than half is rounded away
    have hcut := cut_natCast_add 0 (by positivity : 0 ≤ r / 2 ^ (-1074 : ℤ)) (by linarith)
    rw [Nat.cast_zero, zero_add] at hcut
    have hpos : r / 2 ^ (-1074 : ℤ) ≠ 0 := by positivity
    rw [hcut, decide_eq_false (by linarith), decide_eq_true ⟨hpos, by linarith⟩]
    rfl
  -- nothing is left of the mantissa
  have hm : (shiftToTargetExponent Format.binary64 0 (-1074) .exact).1.mantissa = 0 := by
    rw [shiftToTargetExponent_exact, Nat.zero_div]
  rw [nearest, hu, hround, carry]
  exact dif_pos hm

/-- A natural number is rounded to the nearest float. -/
theorem ofNat_eq_nearest {n : ℕ} (h : 0 < n) :
    UnpackedFloat.ofNat Format.binary64 n = nearest n := by
  have hc : compare (n : ℤ) 0 = .gt := by
    rw [compare_gt_iff_gt]
    omega
  rw [UnpackedFloat.ofNat, UnpackedFloat.ofInt, UnpackedFloat.normalize, hc]
  dsimp only
  rw [UnpackedFloat.round, decreaseExponent]
  dsimp only
  -- the number is shifted to the left first, as far as rounding might need it
  generalize hs : (0 - Format.binary64.targetExponent (totalExponent (n : ℤ).toNat 0)).toNat = s
  -- the logarithm of a natural is the place of its highest bit
  have hlog : Int.log 2 (n : ℚ) = n.log2 := by
    have := log_eq_of_floor h (e := 0) (r := n) (by simp)
    simpa using this
  refine roundWithAccuracy_eq_nearest (by exact_mod_cast h) ?_ ?_
  · rw [Int.toNat_natCast, Nat.shiftLeft_eq]
    have : (n : ℚ) / 2 ^ (0 - (s : ℤ)) = ((n * 2 ^ s : ℕ) : ℚ) := by
      rw [zero_sub, zpow_neg, zpow_natCast, div_inv_eq_mul]
      push_cast
      rfl
    rw [this, cut_natCast]
    rfl
  · rw [targetExponent_eq, totalExponent, Int.toNat_natCast] at hs
    rw [unitExponent, hlog]
    omega

/-- A number with at most 53 bits is stored exactly while its exponent is in the normal range. -/
theorem exists_isStored {m : ℕ} {e : ℤ} (hm : 0 < m) (hm' : m < 2 ^ 53) (he : -1022 ≤ e)
    (he' : e ≤ 971) : ∃ a b, IsStored a b ∧ 2 ^ 52 ≤ a ∧ (m * 2 ^ e : ℚ) = a * 2 ^ b := by
  have hl : m.log2 < 53 := (Nat.log2_lt hm.ne').mpr hm'
  have h1 := Nat.log2_self_le hm.ne'
  have h2 := @Nat.lt_log2_self m
  have hfull : 2 ^ 52 ≤ m * 2 ^ (52 - m.log2) :=
    calc 2 ^ 52 = 2 ^ m.log2 * 2 ^ (52 - m.log2) := by rw [← pow_add]; congr 1; omega
      _ ≤ m * 2 ^ (52 - m.log2) := by gcongr
  have hlt : m * 2 ^ (52 - m.log2) < 2 ^ 53 :=
    calc m * 2 ^ (52 - m.log2) < 2 ^ (m.log2 + 1) * 2 ^ (52 - m.log2) := by gcongr
      _ = 2 ^ 53 := by rw [← pow_add]; congr 1; omega
  -- the mantissa is shifted up until its leading bit is the 53rd
  refine ⟨m * 2 ^ (52 - m.log2), e - (52 - m.log2 : ℕ), ?_, hfull, ?_⟩
  · exact ⟨by positivity, hlt, by omega, by omega, Or.inl hfull⟩
  · rw [zpow_sub₀ two_ne_zero, zpow_natCast]
    push_cast
    field_simp

end ComponentCanvas.Decimal
