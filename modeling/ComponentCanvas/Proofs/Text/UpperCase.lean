import ComponentCanvas.Text.LetterCase
import Mathlib

/-!
# Raised Letters

The upper case of a letter opens with a letter that is in upper case already.  The tables list the
letters that are raised and what they become; that no code point is in both lists is computed once,
on sets of code points as the bits of one number.
-/

namespace ComponentCanvas.Text

/-! ## Sets of code points -/

/-- The code points of a stride. -/
def Stride.codes (r : Stride) : List Nat :=
  (List.range ((r.last - r.first) / r.step + 1)).map (r.first + r.step * ·)

theorem Stride.mem_codes {r : Stride} {n : Nat} (h : r.covers n = true) : n ∈ r.codes := by
  simp only [Stride.covers, Bool.and_eq_true, decide_eq_true_eq, beq_iff_eq] at h
  obtain ⟨⟨hfirst, hlast⟩, hstep⟩ := h
  refine List.mem_map.mpr ⟨(n - r.first) / r.step, List.mem_range.mpr ?_, ?_⟩
  · exact Nat.lt_succ_of_le (Nat.div_le_div_right (Nat.sub_le_sub_right hlast _))
  · rw [Nat.mul_div_cancel' (Nat.dvd_of_mod_eq_zero hstep)]
    omega

/-- The set of code points as a number that has these bits. -/
def bits : List Nat → Nat
  | [] => 0
  | n :: rest => 1 <<< n ||| bits rest

/-- A code point of a list is a set bit. -/
theorem testBit_bits {codes : List Nat} {n : Nat} (h : n ∈ codes) :
    (bits codes).testBit n = true := by
  induction codes with
  | nil => cases h
  | cons m rest ih =>
    rw [bits, Nat.testBit_or, Bool.or_eq_true]
    rcases List.mem_cons.mp h with rfl | h
    · exact Or.inl (by rw [Nat.one_shiftLeft, Nat.testBit_two_pow_self])
    · exact Or.inr (ih h)

/-- Sets without a bit in common have no code point in common. -/
theorem notMem_of_bits {codes others : List Nat} (h : bits codes &&& bits others = 0) {n : Nat}
    (hn : n ∈ codes) : n ∉ others := by
  intro hother
  have hbit : (bits codes &&& bits others).testBit n = true := by
    rw [Nat.testBit_and, testBit_bits hn, testBit_bits hother]
    rfl
  rw [h, Nat.zero_testBit] at hbit
  cases hbit

/-! ## The tables of the upper case -/

/-- The letters that a table raises. -/
def raised : List Nat :=
  upperRuns.flatMap (fun r => r.codes) ++ upperSequences.map (·.1)

/-- What the upper case of a raised letter opens with. -/
def raisedHeads : List Nat :=
  upperRuns.flatMap (fun r => r.codes.map fun n : Nat => ((n : Int) + r.delta).toNat) ++
    upperSequences.map fun s => s.2.headD 0

/-- What follows in the upper case of a raised letter. -/
def raisedTails : List Nat := upperSequences.flatMap fun s => s.2.tail

/-- No upper case opens with a letter that is raised. -/
theorem raisedHeads_disjoint : bits raisedHeads &&& bits raised = 0 := by decide +kernel

theorem upperSequences_ne_nil : ∀ s ∈ upperSequences, s.2 ≠ [] := by decide +kernel

theorem isValidChar_raisedHeads : ∀ n ∈ raisedHeads, n.isValidChar := by decide +kernel

theorem isValidChar_raisedTails : ∀ n ∈ raisedTails, n.isValidChar := by decide +kernel

/-! ## The upper case of a letter -/

/-- Helper: the small letters of ASCII are raised. -/
private theorem mem_raised_of_isLower {c : Char} (h : c.isLower = true) :
    c.toNat ∈ raised ∧ (c.toUpper).toNat ∈ raisedHeads := by
  have hbounds : 97 ≤ c.toNat ∧ c.toNat ≤ 122 := by
    simpa [Char.isLower, UInt32.le_iff_toNat_le] using h
  -- the small letters from a to z are the first run of the tables
  have hrun : (⟨⟨0x61, 0x7a, 1⟩, -32⟩ : CaseRun) ∈ upperRuns := List.mem_cons_self ..
  have hcode : c.toNat ∈ (⟨0x61, 0x7a, 1⟩ : Stride).codes := by
    apply Stride.mem_codes
    simp only [Stride.covers, Bool.and_eq_true, decide_eq_true_eq, beq_iff_eq]
    exact ⟨hbounds, Nat.mod_one _⟩
  refine ⟨List.mem_append_left _ (List.mem_flatMap.mpr ⟨_, hrun, hcode⟩),
    List.mem_append_left _ (List.mem_flatMap.mpr ⟨_, hrun, List.mem_map.mpr ⟨_, hcode, ?_⟩⟩)⟩
  have hvalid : (c.toNat - 32).isValidChar := Or.inl (by omega)
  rw [Char.toUpper_eq_of_isLower h, Char.toNat_ofNat, if_pos hvalid]
  show ((c.toNat : Int) + -32).toNat = _
  omega

/-- A letter that no table raises is its own upper case. -/
theorem upperChar_of_notMem {c : Char} (h : c.toNat ∉ raised) : upperChar c = [c] := by
  have hrun : upperRuns.find? (·.covers c.toNat) = none := by
    rw [List.find?_eq_none]
    intro r hr hcovers
    exact h (List.mem_append_left _ (List.mem_flatMap.mpr ⟨r, hr, Stride.mem_codes hcovers⟩))
  have hsequence : upperSequences.lookup c.toNat = none := by
    rw [List.lookup_eq_none_iff]
    intro s hs
    rw [bne_iff_ne]
    intro heq
    exact h (List.mem_append_right _ (List.mem_map.mpr ⟨s, hs, heq.symm⟩))
  -- such a character is in no run and has no sequence
  rw [upperChar]
  split
  · next hascii =>
    rw [Char.toUpper_eq_of_not_isLower fun hlower => h (mem_raised_of_isLower hlower).1]
  · rw [mapCase, hrun]
    simp only [hsequence]

/-- A letter is its own upper case, or it becomes characters of the tables. -/
theorem upperChar_cases (c : Char) : upperChar c = [c] ∨
    ∃ (n : Nat) (ns : List Nat), n ∈ raisedHeads ∧ (∀ m ∈ ns, m ∈ raisedTails) ∧
      upperChar c = Char.ofNat n :: ns.map Char.ofNat := by
  rw [upperChar]
  split
  · by_cases hlower : c.isLower = true
    · right
      refine ⟨c.toUpper.toNat, [], (mem_raised_of_isLower hlower).2, by simp, ?_⟩
      simp
    · left
      rw [Char.toUpper_eq_of_not_isLower hlower]
  · rw [mapCase]
    -- a run moves the letter by a distance, and a sequence replaces it
    cases hrun : upperRuns.find? (·.covers c.toNat) with
    | some r =>
      right
      have hmem := List.mem_of_find?_eq_some hrun
      have hcovers : r.covers c.toNat = true :=
        List.find?_some (p := fun r : CaseRun => r.covers c.toNat) hrun
      have hcode := Stride.mem_codes hcovers
      exact ⟨_, [], List.mem_append_left _ (List.mem_flatMap.mpr ⟨r, hmem,
        List.mem_map.mpr ⟨_, hcode, rfl⟩⟩), by simp, rfl⟩
    | none =>
      cases hsequence : upperSequences.lookup c.toNat with
      -- the tables do not mention the letter
      | none => exact Or.inl rfl
      | some codes =>
        right
        have hmem : (c.toNat, codes) ∈ upperSequences := by
          obtain ⟨l₁, l₂, heq, -⟩ := List.lookup_eq_some_iff.mp hsequence
          simp [heq]
        obtain ⟨n, ns, rfl⟩ := List.exists_cons_of_ne_nil (upperSequences_ne_nil _ hmem)
        refine ⟨n, ns, List.mem_append_right _ (List.mem_map.mpr ⟨_, hmem, rfl⟩), ?_, rfl⟩
        exact fun m hm => List.mem_flatMap.mpr ⟨_, hmem, hm⟩

/-- A character that is in no table becomes part of no upper case but its own. -/
theorem notMem_upperChar {c d : Char} (htables : d.toNat ∉ raisedHeads ++ raisedTails)
    (hne : c ≠ d) : d ∉ upperChar c := by
  have hcode : ∀ n ∈ raisedHeads ++ raisedTails, Char.ofNat n ≠ d := by
    rintro n hn rfl
    have hvalid : n.isValidChar := by
      rcases List.mem_append.mp hn with hn | hn
      · exact isValidChar_raisedHeads n hn
      · exact isValidChar_raisedTails n hn
    rw [Char.toNat_ofNat, if_pos hvalid] at htables
    exact htables hn
  -- a character is left as it is, or everything comes from the tables
  rcases upperChar_cases c with h | ⟨n, ns, hn, hns, h⟩
  · rw [h, List.mem_singleton]
    exact hne.symm
  · rw [h, List.mem_cons, List.mem_map]
    rintro (heq | ⟨m, hm, heq⟩)
    · exact hcode n (List.mem_append_left _ hn) heq.symm
    · exact hcode m (List.mem_append_right _ (hns m hm)) heq

/-- The upper case of a letter opens with its own upper case. -/
theorem upperChar_head (c : Char) :
    ∃ d ds, upperChar c = d :: ds ∧ upperChar d = [d] := by
  rcases upperChar_cases c with h | ⟨n, ns, hn, -, h⟩
  · exact ⟨c, [], h, h⟩
  · refine ⟨Char.ofNat n, _, h, upperChar_of_notMem ?_⟩
    rw [Char.toNat_ofNat, if_pos (isValidChar_raisedHeads n hn)]
    exact notMem_of_bits raisedHeads_disjoint hn

end ComponentCanvas.Text
