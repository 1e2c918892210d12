import ComponentCanvas.Blueprint.Calls
import ComponentCanvas.Proofs.Blueprint.Machine
import ComponentCanvas.Proofs.Decimal.Leading

/-!
# Cutting and Filling Texts and Lists

Components cut texts and lists at places that they compute, fill texts up to widths that they
compute, and read numbers off the start of texts.  The places and widths are arbitrary values.  All
the same the two ends of a part are in order and within what is cut, a length is taken off a width
only if the width is greater, and a number ends between two characters.
-/

namespace ComponentCanvas.Blueprint

/-! ## Parts -/

section Parts

variable {α : Type} (items : List α) (length : ℕ) (start : Value) (stop : Option Value)

/-- Bounds are in range if they are in order and the second one is within the length. -/
structure InRange (length : ℕ) (bounds : ℕ × ℕ) : Prop where
  ordered : bounds.1 ≤ bounds.2
  within : bounds.2 ≤ length

theorem bound_le {default : ℕ} (h : default ≤ length) (v : Value) :
    bound length default v ≤ length := by
  fun_cases bound length default v with
  | case1 => exact h
  | case2 => exact Nat.zero_le _
  | case3 => exact Nat.sub_le _ _
  | case4 => exact Nat.min_le_right _ _

theorem inRange_sliceBounds : InRange length (sliceBounds length start stop) := by
  have hfirst : bound length 0 start ≤ length := bound_le length (Nat.zero_le _) start
  have hlast : (stop.map (bound length length)).getD length ≤ length := by
    cases stop with
    | none => exact Nat.le_refl _
    | some v => exact bound_le length (Nat.le_refl _) v
  exact ⟨Nat.le_max_right _ _, Nat.max_le.mpr ⟨hlast, hfirst⟩⟩

/-- Whether a list is the stretch of another one between two places. -/
def IsStretch (items part : List α) (bounds : ℕ × ℕ) : Prop :=
  ∃ front back, items = front ++ part ++ back ∧
    front.length = bounds.1 ∧ (front ++ part).length = bounds.2

/-- What is cut out is the stretch between the bounds. -/
theorem isStretch_slice :
    IsStretch items (slice items start stop) (sliceBounds items.length start stop) := by
  obtain ⟨hordered, hwithin⟩ := inRange_sliceBounds items.length start stop
  rw [slice]
  generalize sliceBounds items.length start stop = bounds at *
  obtain ⟨first, last⟩ := bounds
  -- the part is what the first items leave of those in front of the second bound
  have hfront : items.take first ++ (items.take last).drop first = items.take last := by
    conv_rhs => rw [← List.take_append_drop first (items.take last), List.take_take,
      Nat.min_eq_left hordered]
  refine ⟨items.take first, items.drop last, ?_, ?_, ?_⟩
  · rw [hfront, List.take_append_drop]
  · exact List.length_take_of_le (Nat.le_trans hordered hwithin)
  · rw [hfront]
    exact List.length_take_of_le hwithin

end Parts

/-! ## Filling up -/

section Filling

variable {env : Env} {fill : List Char}

/-- The first characters of a text that is repeated over and over. -/
def repeated (fill : List Char) (n : ℕ) : List Char := (List.replicate n fill).flatten.take n

theorem le_length_flatten (h : fill ≠ []) (n : ℕ) : n ≤ (List.replicate n fill).flatten.length := by
  rw [List.length_flatten, List.map_replicate, List.sum_replicate_nat]
  exact Nat.le_mul_of_pos_right n (List.length_pos_iff.mpr h)

theorem length_repeated (h : fill ≠ []) (n : ℕ) : (repeated fill n).length = n :=
  List.length_take_of_le (le_length_flatten h n)

/-- Characters are taken one by one, from what is left of the text and then from its repetitions.
Each of them costs a step. -/
theorem run_padChars (h : fill ≠ []) {n m : ℕ} {rest : List Char} (taken : List Char) (s : State)
    (hn : n ≤ (rest ++ (List.replicate m fill).flatten).length) :
    (padChars env fill n rest taken : Run _) s =
      if n = 0 ∨ s.steps + n ≤ env.budget then
        .ok (taken.reverse ++ (rest ++ (List.replicate m fill).flatten).take n,
          ⟨s.steps + n, s.frames⟩)
      else .error .steps := by
  induction n generalizing m rest taken s with
  | zero =>
    rw [if_pos (.inl rfl), List.take_zero, List.append_nil]
    rfl
  | succ n ih =>
    simp only [padChars]
    rw [run_bind, run_tick]
    split
    · next hspent =>
      -- the budget is spent before all characters are taken
      rw [if_neg (by omega)]
      rfl
    · next hleft =>
      -- one step is taken, and the budget for the others is what it was for all of them
      have hsteps : s.steps + (n + 1) = s.steps + 1 + n := by omega
      have hbudget : (n + 1 = 0 ∨ s.steps + 1 + n ≤ env.budget) ↔
          (n = 0 ∨ s.steps + 1 + n ≤ env.budget) := by omega
      simp only [hsteps, hbudget]
      cases rest with
      | cons c rest =>
        -- the next character stands in what is left of the filler
        refine (ih (c :: taken) ⟨s.steps + 1, s.frames⟩ (Nat.le_of_succ_le_succ hn)).trans ?_
        rw [List.reverse_cons, List.append_assoc]
        rfl
      | nil =>
        -- the text begins anew, which uses up one of its repetitions
        obtain ⟨c, fill, rfl⟩ := List.exists_cons_of_ne_nil h
        cases m with
        | zero => cases hn
        | succ m =>
          refine (ih (c :: taken) ⟨s.steps + 1, s.frames⟩ (Nat.le_of_succ_le_succ hn)).trans ?_
          rw [List.reverse_cons, List.append_assoc]
          rfl

/-- A text with a filler in front of it or behind it. -/
def withFiller (atStart : Bool) (s filler : List Char) : List Char :=
  if atStart then filler ++ s else s ++ filler

theorem length_withFiller (atStart : Bool) (s filler : List Char) :
    (withFiller atStart s filler).length = s.length + filler.length := by
  cases atStart with
  | true => rw [withFiller, if_pos rfl, List.length_append, Nat.add_comm]
  | false => exact List.length_append

/-- How the filling of a text ends. -/
inductive Padded (env : Env) (s : String) (atStart : Bool) (padding : Padding) (state : State) :
    Except Halt (Value × State) → Prop where
  /-- The text is as wide as it shall be, or there is nothing to fill it with. -/
  | unchanged (h : padding.width ≤ s.toList.length ∨ padding.fill = []) :
      Padded env s atStart padding state (.ok (.string s, state))
  /-- The missing characters are added. -/
  | filled {missing : ℕ} {result : List Char} (hpos : 0 < missing)
      (hwidth : padding.width = s.toList.length + missing) (hfill : padding.fill ≠ [])
      (hresult : result = withFiller atStart s.toList (repeated padding.fill missing))
      (hlength : result.length = padding.width)
      (hbudget : state.steps + missing ≤ env.budget) :
      Padded env s atStart padding state
        (.ok (.string (String.ofList result), ⟨state.steps + missing, state.frames⟩))
  /-- The steps do not suffice for the missing characters. -/
  | spent {missing : ℕ} (hpos : 0 < missing)
      (hwidth : padding.width = s.toList.length + missing) (hfill : padding.fill ≠ [])
      (hbudget : env.budget < state.steps + missing) :
      Padded env s atStart padding state (.error .steps)

/-- Padding gives a text of the width with the text at one end, or stops as the steps run out. -/
theorem padded_pad (s : String) (atStart : Bool) (padding : Padding) (state : State) :
    Padded env s atStart padding state ((pad env s atStart padding : Run Value) state) := by
  rw [pad]
  split
  · next h =>
    rw [Bool.or_eq_true, decide_eq_true_iff, List.isEmpty_iff] at h
    -- it is as wide already, or nothing is there to fill with
    exact .unchanged h
  · next h =>
    rw [Bool.or_eq_true, decide_eq_true_iff, List.isEmpty_iff, not_or, Nat.not_le] at h
    obtain ⟨hlt, hfill⟩ := h
    -- the width is greater, so the difference is a true one and not cut off at zero
    obtain ⟨n, hwidth⟩ := Nat.exists_eq_add_of_lt hlt
    have hmissing : padding.width - s.toList.length = n + 1 := by omega
    have hlength : (withFiller atStart s.toList (repeated padding.fill (n + 1))).length =
        padding.width := by
      rw [length_withFiller, length_repeated hfill, hwidth, Nat.add_assoc]
    rw [hmissing, run_bind, run_padChars hfill [] state (le_length_flatten hfill (n + 1))]
    split
    · next hbudget =>
      exact .filled (Nat.succ_pos n) hwidth hfill rfl hlength (by omega)
    · next hbudget =>
      exact .spent (Nat.succ_pos n) hwidth hfill (by omega)

end Filling

/-! ## Numbers at the start of texts -/

/-- The leading part of a text that is trimmed decides on the number that the text starts with. -/
theorem leadingNumber_leadingPart (s : String) (integer : Bool) :
    leadingNumber (String.ofList (Decimal.leadingPart integer (Text.trimStart s.toList))) integer =
      leadingNumber s integer := by
  have hstart := Text.trimStart_eq_self
    (Decimal.isBlank_of_mem_head?_leadingPart integer (Text.trimStart s.toList))
  rw [leadingNumber, leadingNumber, String.toList_ofList, hstart,
    Decimal.leadingPart_leadingPart]

/-- Cutting and filling stay within what they work on, whatever arguments they get.  The bounds of
a part are in order and within the length, so the methods for parts give the stretch between them.
A text is filled up by as many characters as it lacks, to exactly the width, or left as it is if
none are lacking.  The offset at which a number at the start of a text ends lies between two
characters, and what is in front of it decides on the number. -/
theorem cutting_and_filling_in_range (env : Env) (call : Caller Run) :
    (∀ length start stop, InRange length (sliceBounds length start stop)) ∧
    (∀ items args, ∃ part,
      callMethod env call (.list items) "slice" args = pure (.list part) ∧
      IsStretch items part (sliceBounds items.length (argument args 0) args[1]?)) ∧
    (∀ s args, ∃ part,
      callMethod env call (.string s) "slice" args = pure (.string (String.ofList part)) ∧
      callMethod env call (.string s) "substring" args = pure (.string (String.ofList part)) ∧
      IsStretch s.toList part (sliceBounds s.toList.length (argument args 0) args[1]?)) ∧
    (∀ s atStart args state, Padded env s atStart (.ofArguments args) state
      (callMethod env call (.string s) (if atStart then "padStart" else "padEnd") args state)) ∧
    ∀ s integer, ∃ part,
      Text.takeBytes? (Text.trimStart s.toList)
        (Decimal.numberEnd integer 0 (Text.trimStart s.toList)) = some part ∧
      leadingNumber (String.ofList part) integer = leadingNumber s integer := by
  refine ⟨inRange_sliceBounds, ?lists, ?texts, ?filled, ?numbers⟩
  case lists =>
    intro items args
    exact ⟨slice items (argument args 0) args[1]?, rfl, isStretch_slice _ _ _⟩
  case texts =>
    intro s args
    exact ⟨slice s.toList (argument args 0) args[1]?, rfl, rfl, isStretch_slice _ _ _⟩
  case filled =>
    intro s atStart args state
    cases atStart with
    | true => exact padded_pad s true (.ofArguments args) state
    | false => exact padded_pad s false (.ofArguments args) state
  -- the number is read again from the part of the text that ends where reading stopped
  case numbers =>
    intro s integer
    exact ⟨_, Decimal.takeBytes?_numberEnd integer _, leadingNumber_leadingPart s integer⟩

example : sliceBounds 5 (.number (-2.0)) (some (.number Decimal.infinity)) = (3, 5) ∧
    sliceBounds 5 (.number 9.5) (some (.number Decimal.nan)) = (5, 5) := by
  decide +kernel

end ComponentCanvas.Blueprint
