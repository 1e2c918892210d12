import ComponentCanvas.Json.Printer
import ComponentCanvas.Json.Reader
import ComponentCanvas.Proofs.Decimal.Shortest
import ComponentCanvas.Text.Identifier

/-!
# Spelled Numbers

Every layout of a decimal has one shape: whole digits, maybe a point with digits behind it, maybe
an exponent mark.  A `Spelling` is a text of that shape together with the facts that a reader of
numbers relies on.  Each way of laying a decimal out spells the value of the decimal, so the
written forms of integers and of finite floats are spellings, with a minus in front below zero.
-/

namespace ComponentCanvas.Decimal

open Json (digitsValue)
open Text (isAsciiDigit)

/-! ## Digits -/

theorem isAsciiDigit_of_mem_digitsOf {n : ℕ} {c : Char} (h : c ∈ digitsOf n) :
    isAsciiDigit c = true :=
  Nat.isDigit_of_mem_toDigits (by decide) (by decide) h

/-- Reading digits goes on from the number that has been read. -/
private theorem foldl_digits (s : List Char) (n : ℕ) :
    s.foldl (fun acc c => acc * 10 + (Json.digit? c).getD 0) n =
      n * 10 ^ s.length + digitsValue s := by
  induction s generalizing n with
  | nil => simp [digitsValue]
  | cons c s ih =>
    rw [digitsValue, List.foldl_cons, List.foldl_cons, ih, ih, List.length_cons, pow_succ]
    ring

theorem digitsValue_append (s t : List Char) :
    digitsValue (s ++ t) = digitsValue s * 10 ^ t.length + digitsValue t := by
  rw [digitsValue, List.foldl_append, foldl_digits]
  rfl

theorem digitsValue_replicate_zero (n : ℕ) : digitsValue (List.replicate n '0') = 0 := by
  induction n with
  | zero => rfl
  | succ n ih =>
    rw [List.replicate_succ', digitsValue_append, ih]
    rfl

/-- The digits of a number have its value. -/
theorem digitsValue_digitsOf (n : ℕ) : digitsValue (digitsOf n) = n := by
  have hchar : ∀ k < 10, digitsValue [Nat.digitChar k] = k := by decide
  induction n using Nat.strong_induction_on with
  | _ n ih =>
    rw [digitsOf, Nat.toDigits_eq_if (by norm_num)]
    split
    -- one digit, or the digits of the tenth part and one more
    · next h => exact hchar n h
    · next h =>
      rw [digitsValue_append, ← digitsOf, ih _ (by omega), hchar _ (Nat.mod_lt _ (by norm_num))]
      simp
      omega

/-- The digits of a number open with a zero only if the number is zero. -/
theorem head_digitsOf {n : ℕ} (h : n ≠ 0) : (digitsOf n).head? ≠ some '0' := by
  induction n using Nat.strong_induction_on with
  | _ n ih =>
    rw [digitsOf, Nat.toDigits_eq_if (by norm_num)]
    split
    · simpa using h
    · next hn =>
      rw [List.head?_append_of_ne_nil _ Nat.toDigits_ne_nil]
      exact ih _ (by omega) (by omega)

/-! ## Spelled numbers -/

/-- An exponent mark, as it is written and as it counts. -/
inductive IsMark : List Char → ℤ → Prop
  | none : IsMark [] 0
  | up (n : ℕ) : IsMark ('e' :: '+' :: digitsOf n) n
  | down (n : ℕ) : IsMark ('e' :: '-' :: digitsOf n) (-n)

/-- A number as it is spelled: whole digits, maybe a point and digits behind it, and maybe an
exponent mark. -/
structure Spelling where
  whole : List Char
  point : Bool
  fraction : List Char
  mark : List Char
  exponent : ℤ
  whole_ne : whole ≠ []
  isDigit : ∀ c ∈ whole ++ fraction, isAsciiDigit c = true
  leading : whole = ['0'] ∨ whole.head? ≠ some '0'
  fraction_eq : point = false → fraction = []
  isMark : IsMark mark exponent

namespace Spelling

/-- The text behind the whole digits. -/
def tail (s : Spelling) : List Char := (if s.point then '.' :: s.fraction else []) ++ s.mark

/-- The text of a spelled number. -/
def text (s : Spelling) : List Char := s.whole ++ s.tail

/-- The decimal of a spelled number. -/
def decimal (s : Spelling) : Scientific :=
  ⟨digitsValue (s.whole ++ s.fraction), s.exponent - s.fraction.length⟩

/-- The spelling of a natural number. -/
def ofNat (n : ℕ) : Spelling where
  whole := digitsOf n
  point := false
  fraction := []
  mark := []
  exponent := 0
  whole_ne := Nat.toDigits_ne_nil
  isDigit := by simpa using fun c h => isAsciiDigit_of_mem_digitsOf h
  leading := by
    rcases eq_or_ne n 0 with rfl | h
    · exact Or.inl rfl
    · exact Or.inr (head_digitsOf h)
  fraction_eq := fun _ => rfl
  isMark := .none

@[simp] theorem text_ofNat (n : ℕ) : (ofNat n).text = digitsOf n := by
  simp [text, tail, ofNat]

/-- The spelling of a number above zero whose digits are parted behind the first `k`. -/
def ofSplit (n k : ℕ) (point : Bool) (mark : List Char) (exponent : ℤ) (hn : n ≠ 0) (hk : 0 < k)
    (hpoint : point = false → (digitsOf n).drop k = []) (hmark : IsMark mark exponent) :
    Spelling where
  whole := (digitsOf n).take k
  point := point
  fraction := (digitsOf n).drop k
  mark := mark
  exponent := exponent
  whole_ne := by
    have hpos : 0 < (digitsOf n).length := Nat.length_toDigits_pos
    rw [← List.length_pos_iff, List.length_take]
    omega
  isDigit := by
    rw [List.take_append_drop]
    exact fun c => isAsciiDigit_of_mem_digitsOf
  leading := by
    right
    rw [List.head?_take, if_neg hk.ne']
    exact head_digitsOf hn
  fraction_eq := hpoint
  isMark := hmark

/-- Parted digits count as the whole number, moved by the digits behind the point. -/
theorem value_decimal_ofSplit {d : Scientific} {k : ℕ} {point : Bool} {mark : List Char}
    {exponent : ℤ} (hd : d.digits ≠ 0) (hk : 0 < k)
    (hpoint : point = false → (digitsOf d.digits).drop k = []) (hmark : IsMark mark exponent)
    (he : exponent - ((digitsOf d.digits).length - k : ℕ) = d.exponent) :
    (ofSplit d.digits k point mark exponent hd hk hpoint hmark).decimal.value = d.value := by
  simp only [decimal, ofSplit, List.take_append_drop, digitsValue_digitsOf, List.length_drop, he]

/-- Whether a point or an exponent mark stands in the text, as in the text of a float. -/
def IsFractional (s : Spelling) : Prop := s.point = true ∨ s.mark ≠ []

end Spelling

/-- The positional text of an integral value spells it. -/
private theorem exists_spelling_integral {d : Scientific} (h : 0 ≤ d.exponent)
    (hd : d.digits = 0 → d.exponent = 0) :
    ∃ s : Spelling, s.text = positionalText true (digitsOf d.digits) d.exponent ∧
      s.IsFractional ∧ s.decimal.value = d.value := by
  have hne : digitsOf d.digits ≠ [] := Nat.toDigits_ne_nil
  have hdigit : ∀ c ∈ (digitsOf d.digits ++ List.replicate d.exponent.toNat '0') ++ ['0'],
      isAsciiDigit c = true := by
    intro c hc
    simp only [List.mem_append, List.mem_replicate, List.mem_singleton] at hc
    rcases hc with (hc | ⟨-, rfl⟩) | rfl
    · exact isAsciiDigit_of_mem_digitsOf hc
    · rfl
    · rfl
  -- zero itself comes with no zeros behind it, so the text never opens with `00`
  have hlead : digitsOf d.digits ++ List.replicate d.exponent.toNat '0' = ['0'] ∨
      (digitsOf d.digits ++ List.replicate d.exponent.toNat '0').head? ≠ some '0' := by
    rcases eq_or_ne d.digits 0 with h0 | h0
    · left
      rw [h0, hd h0]
      rfl
    · right
      rw [List.head?_append_of_ne_nil _ hne]
      exact head_digitsOf h0
  refine ⟨⟨_, true, ['0'], [], 0, by simp [hne], hdigit, hlead, by simp, .none⟩, ?text,
    Or.inl rfl, ?value⟩
  case text => simp [Spelling.text, Spelling.tail, positionalText, h]
  case value =>
    -- zeros behind the digits multiply by the power of ten
    have he : (d.exponent.toNat : ℤ) = d.exponent := Int.toNat_of_nonneg h
    have hone : digitsValue ['0'] = 0 := rfl
    simp only [Spelling.decimal, digitsValue_append, digitsValue_digitsOf, hone,
      digitsValue_replicate_zero, List.length_replicate, Scientific.value]
    generalize d.exponent.toNat = k at he
    rw [← he, zpow_natCast]
    simp

/-- The positional text of a value with a point among its digits spells it. -/
private theorem exists_spelling_pointed {d : Scientific} (h : d.exponent < 0)
    (hlen : d.exponent.natAbs < (digitsOf d.digits).length) (hd : d.digits ≠ 0) :
    ∃ s : Spelling, s.text = positionalText true (digitsOf d.digits) d.exponent ∧
      s.IsFractional ∧ s.decimal.value = d.value := by
  refine ⟨.ofSplit d.digits ((digitsOf d.digits).length - d.exponent.natAbs) true [] 0 hd
    (by omega) (by simp) .none, ?text, Or.inl rfl, Spelling.value_decimal_ofSplit _ _ _ _ ?place⟩
  case text =>
    rw [positionalText, if_neg (by omega), if_pos hlen]
    simp [Spelling.text, Spelling.tail, Spelling.ofSplit, pointAfter]
  case place => omega

/-- The positional text of a value below one spells it. -/
private theorem exists_spelling_below_one {d : Scientific} (h : d.exponent < 0)
    (hlen : (digitsOf d.digits).length ≤ d.exponent.natAbs) :
    ∃ s : Spelling, s.text = positionalText true (digitsOf d.digits) d.exponent ∧
      s.IsFractional ∧ s.decimal.value = d.value := by
  set zeros := List.replicate (d.exponent.natAbs - (digitsOf d.digits).length) '0' with hz
  have hdigit : ∀ c ∈ ['0'] ++ (zeros ++ digitsOf d.digits), isAsciiDigit c = true := by
    intro c hc
    simp only [hz, List.mem_append, List.mem_replicate, List.mem_singleton] at hc
    rcases hc with rfl | ⟨-, rfl⟩ | hc
    · rfl
    · rfl
    · exact isAsciiDigit_of_mem_digitsOf hc
  -- a zero stands in front of the point, and zeros fill up the places behind it
  refine ⟨⟨_, true, _, [], 0, by simp, hdigit, Or.inl rfl, by simp, .none⟩, ?text, Or.inl rfl,
    ?value⟩
  case text =>
    rw [positionalText, if_neg (by omega), if_neg (by omega)]
    simp [Spelling.text, Spelling.tail, hz]
  case value =>
    -- the places behind the point are as many as the exponent says
    have he : (0 : ℤ) - (zeros ++ digitsOf d.digits).length = d.exponent := by
      rw [List.length_append, hz, List.length_replicate]
      omega
    have hone : digitsValue ['0'] = 0 := rfl
    have hzero : digitsValue zeros = 0 := digitsValue_replicate_zero _
    rw [Spelling.decimal]
    dsimp only
    rw [he, digitsValue_append, digitsValue_append, hone, hzero, digitsValue_digitsOf, zero_mul,
      zero_mul, zero_add, zero_add]

/-- Helper: an exponent mark as the layout writes it. -/
private theorem isMark_signed (leading : ℤ) :
    IsMark ('e' :: (if leading < 0 then '-' else '+') :: digitsOf leading.natAbs) leading := by
  -- the mark writes the sign of the exponent out, in either direction
  rcases lt_or_ge leading 0 with h | h
  · have he : -(leading.natAbs : ℤ) = leading := by omega
    have hdown := IsMark.down leading.natAbs
    rw [he] at hdown
    rwa [if_pos h]
  · have he : (leading.natAbs : ℤ) = leading := by omega
    have hup := IsMark.up leading.natAbs
    rw [he] at hup
    rwa [if_neg (by omega)]

/-- The text of a value with an exponent mark spells it. -/
private theorem exists_spelling_exponent {d : Scientific} (hd : d.digits ≠ 0) :
    ∃ s : Spelling,
      s.text = exponentText true (digitsOf d.digits)
        (d.exponent + (digitsOf d.digits).length - 1) ∧
      s.IsFractional ∧ s.decimal.value = d.value := by
  set leading : ℤ := d.exponent + (digitsOf d.digits).length - 1 with hl
  have hpos : 0 < (digitsOf d.digits).length := Nat.length_toDigits_pos
  -- a single digit is written without a point, since nothing stands behind it
  have hpoint : decide (1 < (digitsOf d.digits).length) = false →
      (digitsOf d.digits).drop 1 = [] := by
    intro h
    rw [List.drop_eq_nil_iff]
    simpa using h
  refine ⟨.ofSplit d.digits 1 _ _ leading hd one_pos hpoint (isMark_signed leading), ?text,
    Or.inr (by simp [Spelling.ofSplit]), Spelling.value_decimal_ofSplit _ _ _ _ ?place⟩
  case text =>
    -- the sign is always written
    have hs : (if leading < 0 then ['-'] else if true then ['+'] else []) =
        [if leading < 0 then '-' else '+'] := by
      split <;> rfl
    rw [exponentText, Spelling.text, Spelling.tail, hs]
    rcases lt_or_ge 1 (digitsOf d.digits).length with h | h
    · simp [Spelling.ofSplit, h, h.not_ge, pointAfter]
    · have h1 : (digitsOf d.digits).take 1 = digitsOf d.digits := List.take_of_length_le h
      simp [Spelling.ofSplit, h1, h.not_gt]
  case place => omega

private theorem layout_numberStyle (d : Scientific) :
    Json.numberStyle.layout d =
      if d.digits = 0 ∨ -5 ≤ d.exponent + (digitsOf d.digits).length - 1 ∧
          d.exponent + (digitsOf d.digits).length - 1 ≤ 15 then
        positionalText true (digitsOf d.digits) d.exponent
      else exponentText true (digitsOf d.digits) (d.exponent + (digitsOf d.digits).length - 1) := by
  simp [Style.layout, Json.numberStyle]

/-- The text of a decimal among the numbers of a document spells it, with a point or an exponent
mark. -/
theorem exists_spelling_layout {d : Scientific} (hd : d.digits = 0 → d.exponent = 0) :
    ∃ s : Spelling, s.text = Json.numberStyle.layout d ∧ s.IsFractional ∧
      s.decimal.value = d.value := by
  rw [layout_numberStyle]
  split
  · -- the point stands among the digits, in front of them all, or behind them all
    rcases lt_or_ge d.exponent 0 with h | h
    · have hne : d.digits ≠ 0 := fun h0 => h.ne (hd h0)
      rcases lt_or_ge d.exponent.natAbs (digitsOf d.digits).length with hlen | hlen
      · exact exists_spelling_pointed h hlen hne
      · exact exists_spelling_below_one h hlen
    · exact exists_spelling_integral h hd
  · next hplain => exact exists_spelling_exponent fun h0 => hplain (Or.inl h0)

/-! ## Written numbers -/

/-- Helper: the shortest decimal of a finite float has digits unless it is the plain zero. -/
private theorem exponent_shortest {x : Float} (h : isFinite x = true) (tie : Tie)
    (h0 : (shortest x.abs tie).digits = 0) : (shortest x.abs tie).exponent = 0 := by
  cases magnitude_of_isFinite h with
  | zero digits abs_eq => rw [shortest, if_pos (by simpa using digits)]
  | number m e stored digits abs_eq =>
    exact absurd (value_eq_zero.mpr h0) (floatOf_shortest stored digits abs_eq tie).1

/-- The minus of a number below zero. -/
def signText (negative : Bool) : List Char := if negative then ['-'] else []

/-- The text of a finite float is its sign and a fractional spelling of its magnitude. -/
theorem exists_spelling_floatText {x : Float} (h : isFinite x = true) :
    ∃ s : Spelling, Json.floatText x = signText (isSignSet x) ++ s.text ∧ s.IsFractional ∧
      s.decimal.toFloat = x.abs := by
  obtain ⟨s, htext, hfractional, hvalue⟩ :=
    exists_spelling_layout (exponent_shortest h Json.numberStyle.tie)
  refine ⟨s, ?_, hfractional, toFloat_eq_abs h hvalue⟩
  rw [Json.floatText, if_pos h, Style.render, ← htext, signText]
  split <;> rfl

theorem intText_eq (n : ℤ) :
    Json.intText n = signText (decide (n < 0)) ++ (Spelling.ofNat n.natAbs).text := by
  rw [Json.intText, Spelling.text_ofNat, signText]
  by_cases h : n < 0 <;> simp [h]

/-! ## Words -/

theorem isSignedWord_iff {n : ℤ} :
    isSignedWord n = true ↔ -0x8000000000000000 ≤ n ∧ n < 0x8000000000000000 := by
  rw [isSignedWord, Bool.and_eq_true, decide_eq_true_eq, decide_eq_true_eq]
  rfl

theorem isUnsignedWord_iff {n : ℤ} :
    isUnsignedWord n = true ↔ 0 ≤ n ∧ n < 0x10000000000000000 := by
  rw [isUnsignedWord, Bool.and_eq_true, decide_eq_true_eq, decide_eq_true_eq]
  rfl

theorem fitsWord_iff {n : ℤ} :
    Json.fitsWord n = true ↔ -0x8000000000000000 ≤ n ∧ n < 0x10000000000000000 := by
  rw [Json.fitsWord, Bool.or_eq_true, isSignedWord_iff, isUnsignedWord_iff]
  omega

end ComponentCanvas.Decimal
