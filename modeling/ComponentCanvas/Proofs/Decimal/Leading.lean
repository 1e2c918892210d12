import ComponentCanvas.Decimal.Reading
import ComponentCanvas.Proofs.Text.Pieces
import ComponentCanvas.Proofs.Text.Position

/-!
# The Number at the Start of a Text

A number is read off the start of a text by moving an offset past the characters that belong to it.
The offset comes to rest between two characters, and in front of it stands the leading part of the
text.  What has been cut off is its own leading part.
-/

namespace ComponentCanvas.Decimal

open Text (byteSize takeBytes? takeBytes?_eq_some isBlank)

variable {integer : Bool} {offset : ℕ} {c : Char} {s : List Char}

/-! ## The sign and the rest -/

/-- Whether a character is a sign. -/
def isSign (c : Char) : Bool := c == '+' || c == '-'

/-- The sign of a number, if there is one, and what follows it. -/
def splitSign : List Char → List Char × List Char
  | '+' :: rest => (['+'], rest)
  | '-' :: rest => (['-'], rest)
  | s => ([], s)

/-- The start of a text that spells a number without a sign. -/
def unsignedPart (integer : Bool) (s : List Char) : List Char :=
  match s.dropWhile isDigit with
  | '.' :: rest =>
    if integer then s.takeWhile isDigit else s.takeWhile isDigit ++ '.' :: rest.takeWhile isDigit
  | _ => s.takeWhile isDigit

/-- The part at the start is a sign, if there is one, and an unsigned part. -/
theorem leadingPart_eq (integer : Bool) (s : List Char) :
    leadingPart integer s = (splitSign s).1 ++ unsignedPart integer (splitSign s).2 := by
  show (match (splitSign s).2.dropWhile isDigit with
    | '.' :: rest => if integer then (splitSign s).1 ++ (splitSign s).2.takeWhile isDigit
      else (splitSign s).1 ++ (splitSign s).2.takeWhile isDigit ++ '.' :: rest.takeWhile isDigit
    | _ => (splitSign s).1 ++ (splitSign s).2.takeWhile isDigit) = _
  -- both sides look for a point behind the digits
  rw [unsignedPart]
  split
  · split
    · rfl
    · exact List.append_assoc _ _ _
  · rfl

theorem leadingPart_cons (h : isSign c = true) :
    leadingPart integer (c :: s) = c :: unsignedPart integer s := by
  have hc : c = '+' ∨ c = '-' := by simpa [isSign] using h
  rcases hc with rfl | rfl
  · exact leadingPart_eq integer ('+' :: s)
  · exact leadingPart_eq integer ('-' :: s)

theorem leadingPart_of_unsigned (h : ∀ c ∈ s.head?, isSign c = false) :
    leadingPart integer s = unsignedPart integer s := by
  rw [leadingPart_eq]
  fun_cases splitSign s with
  | case1 rest => exact absurd (h '+' rfl) (by decide)
  | case2 rest => exact absurd (h '-' rfl) (by decide)
  | case3 s hplus hminus => rfl

/-- A number goes on behind a sign, or it has none. -/
theorem leadingPart_cases (integer : Bool) (s : List Char) :
    (∃ c rest, isSign c = true ∧ s = c :: rest ∧
      leadingPart integer s = c :: unsignedPart integer rest) ∨
    ((∀ c ∈ s.head?, isSign c = false) ∧ leadingPart integer s = unsignedPart integer s) := by
  cases s with
  | nil => exact .inr ⟨by simp, rfl⟩
  | cons c rest =>
    -- whether the first character is a sign
    cases hsign : isSign c with
    | true => exact .inl ⟨c, rest, hsign, rfl, leadingPart_cons hsign⟩
    | false =>
      have hhead : ∀ d ∈ (c :: rest).head?, isSign d = false := by
        rintro _ ⟨⟩
        exact hsign
      exact .inr ⟨hhead, leadingPart_of_unsigned hhead⟩

theorem unsignedPart_true (s : List Char) : unsignedPart true s = s.takeWhile isDigit := by
  rw [unsignedPart]
  split <;> rfl

/-- A number goes on with a digit, and with a point unless it shall be an integer; behind a point
there are digits only. -/
theorem unsignedPart_cons (integer : Bool) (c : Char) (s : List Char) :
    unsignedPart integer (c :: s) =
      if isDigit c then c :: unsignedPart integer s
      else if c == '.' && !integer then c :: unsignedPart true s
      else [] := by
  split
  -- a digit belongs to the part, whatever follows
  · next hdigit =>
    simp only [unsignedPart, List.takeWhile_cons_of_pos hdigit, List.dropWhile_cons_of_pos hdigit]
    split
    · split <;> rfl
    · rfl
  -- the digits end here, and a point may follow
  · next hdigit =>
    rw [unsignedPart_true]
    simp only [unsignedPart, List.takeWhile_cons_of_neg hdigit,
      List.dropWhile_cons_of_neg hdigit]
    split
    · next hpoint =>
      obtain ⟨rfl, rfl⟩ := List.cons.inj hpoint
      cases integer <;> rfl
    · next hpoint =>
      have hc : (c == '.') = false := beq_false_of_ne fun h => hpoint s (h ▸ rfl)
      rw [hc, Bool.false_and, if_neg Bool.false_ne_true]

/-! ## The offset of the end -/

/-- The offset at which the number at the start of a text ends.  It moves past a sign in front of
everything else, past digits, and past the first point unless only an integer is wanted. -/
def numberEnd : Bool → ℕ → List Char → ℕ
  | _, offset, [] => offset
  | integer, offset, c :: rest =>
    if (isSign c && offset == 0) || isDigit c then numberEnd integer (offset + c.utf8Size) rest
    else if c == '.' && !integer then numberEnd true (offset + c.utf8Size) rest
    else offset

/-- The end lies behind the unsigned part, where no sign is looked for. -/
theorem numberEnd_eq (h : offset = 0 → ∀ c ∈ s.head?, isSign c = false) :
    numberEnd integer offset s = offset + byteSize (unsignedPart integer s) := by
  induction s generalizing integer offset with
  | nil => rfl
  | cons c rest ih =>
    have hpos := c.utf8Size_pos
    have hmoved : offset + c.utf8Size = 0 → ∀ d ∈ rest.head?, isSign d = false := by omega
    -- a sign is passed at offset zero only, and there none stands
    have hsign : (isSign c && offset == 0) = false := by
      by_cases hzero : offset = 0
      · rw [h hzero c rfl, Bool.false_and]
      · rw [beq_false_of_ne hzero, Bool.and_false]
    rw [numberEnd, hsign, Bool.false_or, unsignedPart_cons]
    split
    · rw [ih hmoved, byteSize, Nat.add_assoc]
    · split
      · rw [ih hmoved, byteSize, Nat.add_assoc]
      · rfl

theorem numberEnd_zero (integer : Bool) (s : List Char) :
    numberEnd integer 0 s = byteSize (leadingPart integer s) := by
  rcases leadingPart_cases integer s with ⟨c, rest, hsign, rfl, hpart⟩ | ⟨hunsigned, hpart⟩
  · have hpos := c.utf8Size_pos
    rw [hpart, byteSize, numberEnd, hsign, Nat.zero_add]
    exact numberEnd_eq (by omega)
  · rw [hpart, numberEnd_eq (fun _ => hunsigned), Nat.zero_add]

/-- The unsigned part stands at the start of the text. -/
theorem unsignedPart_isPrefix (integer : Bool) (s : List Char) : unsignedPart integer s <+: s := by
  induction s generalizing integer with
  | nil => exact List.prefix_rfl
  | cons c s ih =>
    rw [unsignedPart_cons]
    split
    · exact (List.prefix_cons_inj c).mpr (ih _)
    · split
      · exact (List.prefix_cons_inj c).mpr (ih _)
      · exact List.nil_prefix

theorem leadingPart_isPrefix (integer : Bool) (s : List Char) : leadingPart integer s <+: s := by
  rcases leadingPart_cases integer s with ⟨c, rest, -, rfl, hpart⟩ | ⟨-, hpart⟩
  · rw [hpart]
    exact (List.prefix_cons_inj c).mpr (unsignedPart_isPrefix integer rest)
  · rw [hpart]
    exact unsignedPart_isPrefix integer s

/-- The end of the number lies between two characters, and the leading part stands before it. -/
theorem takeBytes?_numberEnd (integer : Bool) (s : List Char) :
    takeBytes? s (numberEnd integer 0 s) = some (leadingPart integer s) :=
  takeBytes?_eq_some.mpr ⟨leadingPart_isPrefix integer s, (numberEnd_zero integer s).symm⟩

/-! ## Reading again what has been cut off -/

/-- Reading the unsigned part again gives all of it. -/
theorem unsignedPart_unsignedPart (integer : Bool) (s : List Char) :
    unsignedPart integer (unsignedPart integer s) = unsignedPart integer s := by
  induction s generalizing integer with
  | nil => rfl
  | cons c s ih =>
    rw [unsignedPart_cons]
    split
    · next hdigit => rw [unsignedPart_cons, if_pos hdigit, ih]
    · next hdigit =>
      split
      · next hpoint => rw [unsignedPart_cons, if_neg hdigit, if_pos hpoint, ih]
      · rfl

/-- The leading part of a text is all that counts in it. -/
theorem leadingPart_leadingPart (integer : Bool) (s : List Char) :
    leadingPart integer (leadingPart integer s) = leadingPart integer s := by
  rcases leadingPart_cases integer s with ⟨c, rest, hsign, rfl, hpart⟩ | ⟨hunsigned, hpart⟩
  · rw [hpart, leadingPart_cons hsign, unsignedPart_unsignedPart]
  · -- what has been cut off starts as the text does, so it has no sign either
    have hhead : ∀ c ∈ (unsignedPart integer s).head?, isSign c = false := by
      intro c hc
      obtain ⟨rest, hrest⟩ := List.head?_eq_some_iff.mp hc
      obtain ⟨back, hback⟩ := unsignedPart_isPrefix integer s
      refine hunsigned c ?_
      rw [← hback, hrest]
      rfl
    rw [hpart, leadingPart_of_unsigned hhead, unsignedPart_unsignedPart]

theorem isBlank_of_isDigit (h : isDigit c = true) : isBlank c = false := by
  rw [isDigit, Bool.and_eq_true, decide_eq_true_iff, decide_eq_true_iff] at h
  have hlow : 48 ≤ c.toNat := h.1
  have hhigh : c.toNat ≤ 57 := h.2
  simp only [isBlank, Text.inRanges, Text.blankRanges, List.any_cons, List.any_nil,
    Bool.or_false, Bool.or_eq_false_iff, Bool.and_eq_false_iff, decide_eq_false_iff_not]
  omega

theorem isBlank_of_isSign (h : isSign c = true) : isBlank c = false := by
  have hc : c = '+' ∨ c = '-' := by simpa [isSign] using h
  rcases hc with rfl | rfl <;> decide

/-- No number starts with a blank. -/
theorem isBlank_of_mem_head?_leadingPart (integer : Bool) (s : List Char) :
    ∀ c ∈ (leadingPart integer s).head?, isBlank c = false := by
  rcases leadingPart_cases integer s with ⟨c, rest, hsign, rfl, hpart⟩ | ⟨hunsigned, hpart⟩
  · rw [hpart]
    rintro _ ⟨⟩
    -- it opens with the sign
    exact isBlank_of_isSign hsign
  · rw [hpart]
    -- without a sign the part opens with a digit or with the point, if it is not empty
    cases s with
    | nil => rintro _ ⟨⟩
    | cons c s =>
      rw [unsignedPart_cons]
      split
      · next hdigit =>
        rintro _ ⟨⟩
        exact isBlank_of_isDigit hdigit
      · split
        · next hpoint =>
          obtain ⟨rfl, -⟩ : c = '.' ∧ integer = false := by simpa using hpoint
          rintro _ ⟨⟩
          decide
        · rintro _ ⟨⟩

end ComponentCanvas.Decimal
