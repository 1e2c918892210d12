import ComponentCanvas.Text.Blank
import ComponentCanvas.Text.Lines
import Mathlib.Data.List.DropRight

/-!
# Pieces of Texts

Trimming changes nothing where no blank stands at the ends, and blanks that are put there make no
difference to it.  Splitting gives pieces without the characters that part them.
-/

namespace ComponentCanvas.Text

variable {p : Char → Bool} {s : List Char}

/-- A text is parted where the first character without a property stands. -/
theorem takeWhile_append_of_head {p : Char → Bool} {ds rest : List Char}
    (hd : ∀ c ∈ ds, p c = true) (hr : ∀ c ∈ rest.head?, p c = false) :
    (ds ++ rest).takeWhile p = ds ∧ (ds ++ rest).dropWhile p = rest := by
  rw [List.takeWhile_append_of_pos hd, List.dropWhile_append_of_pos hd]
  cases rest with
  | nil => simp
  | cons c r =>
    have := hr c (by simp)
    simp [this]

/-- Nothing is taken off the end of a text exactly if no blank stands there. -/
theorem trimEnd_eq_self_iff : trimEnd s = s ↔ ¬ ∃ c ∈ s.getLast?, isBlank c = true := by
  rw [trimEnd, ← List.rdropWhile, List.rdropWhile_eq_self_iff]
  rcases s.eq_nil_or_concat' with rfl | ⟨front, c, rfl⟩ <;> simp

/-- Nothing is taken off the start of a text if no blank stands there. -/
theorem trimStart_eq_self (h : ∀ c ∈ s.head?, isBlank c = false) : trimStart s = s := by
  cases s with
  | nil => rfl
  | cons c rest => exact List.dropWhile_cons_of_neg (by simp [h c rfl])

/-- A text without blanks at its ends is trimmed already. -/
theorem trim_eq_self (hfirst : ∀ c ∈ s.head?, isBlank c = false)
    (hlast : ∀ c ∈ s.getLast?, isBlank c = false) : trim s = s := by
  rw [trim, trimStart_eq_self hfirst, trimEnd_eq_self_iff]
  rintro ⟨c, hc, hblank⟩
  rw [hlast c hc] at hblank
  cases hblank

theorem trim_of_forall (h : ∀ c ∈ s, isBlank c = false) : trim s = s :=
  trim_eq_self (fun c hc => h c (List.mem_of_mem_head? hc))
    fun c hc => h c (List.mem_of_mem_getLast? hc)

theorem splitBy_eq_singleton (h : ∀ c ∈ s, p c = false) : splitBy p s = [s] := by
  induction s with
  | nil => rfl
  | cons c s ih =>
    have hc := h c (by simp)
    rw [splitBy, if_neg (by simp [hc]), ih fun d hd => h d (by simp [hd])]

/-- No piece has a parting character. -/
theorem eq_false_of_mem_splitBy {piece : List Char} (h : piece ∈ splitBy p s) :
    ∀ c ∈ piece, p c = false := by
  induction s generalizing piece with
  | nil =>
    obtain rfl : piece = [] := by simpa [splitBy] using h
    simp
  | cons c s ih =>
    rw [splitBy] at h
    split at h
    -- a separator opens an empty piece, any other character joins the first one
    · rcases List.mem_cons.mp h with rfl | h
      · simp
      · exact ih h
    · next hc =>
      split at h
      · next first others hsplit =>
        rcases List.mem_cons.mp h with rfl | h
        · rw [List.forall_mem_cons]
          exact ⟨by simpa using hc, ih (by simp [hsplit])⟩
        · exact ih (by simp [hsplit, h])
      · obtain rfl : piece = [c] := by simpa using h
        simpa using hc

/-- The pieces are made of characters of the text. -/
theorem mem_of_mem_splitBy {piece : List Char} (h : piece ∈ splitBy p s) : ∀ c ∈ piece, c ∈ s := by
  induction s generalizing piece with
  | nil =>
    obtain rfl : piece = [] := by simpa [splitBy] using h
    simp
  | cons c s ih =>
    rw [splitBy] at h
    split at h
    -- a separator is dropped, any other character joins the first piece
    · rcases List.mem_cons.mp h with rfl | h
      · simp
      · exact fun d hd => List.mem_cons_of_mem _ (ih h d hd)
    · split at h
      · next first others hsplit =>
        rcases List.mem_cons.mp h with rfl | h
        · have hfirst : first ∈ splitBy p s := by simp [hsplit]
          exact fun d hd => (List.mem_cons.mp hd).elim (· ▸ List.mem_cons_self ..)
            fun hd => List.mem_cons_of_mem _ (ih hfirst d hd)
        · exact fun d hd => List.mem_cons_of_mem _ (ih (by simp [hsplit, h]) d hd)
      · obtain rfl : piece = [c] := by simpa using h
        simp

/-- There is always a piece. -/
theorem splitBy_ne_nil (s : List Char) : splitBy p s ≠ [] := by
  cases s with
  | nil => exact List.cons_ne_nil _ _
  | cons c s =>
    rw [splitBy]
    split
    · exact List.cons_ne_nil _ _
    · split <;> exact List.cons_ne_nil _ _

/-- A parting character parts the pieces before it from those behind it. -/
theorem splitBy_append_cons {c : Char} (hc : p c = true) (s rest : List Char) :
    splitBy p (s ++ c :: rest) = splitBy p s ++ splitBy p rest := by
  induction s with
  | nil => simp [splitBy, hc]
  | cons d s ih =>
    rw [List.cons_append, splitBy, splitBy, ih]
    split
    · rfl
    -- the character joins the first piece on both sides
    · cases hsplit : splitBy p s with
      | nil => exact absurd hsplit (splitBy_ne_nil s)
      | cons piece pieces => rfl

/-- Characters that part nothing, behind a text, belong to its last piece. -/
theorem splitBy_append {ending : List Char} (hending : ∀ c ∈ ending, p c = false)
    (s : List Char) :
    ∃ first last, splitBy p s = first ++ [last] ∧
      splitBy p (s ++ ending) = first ++ [last ++ ending] := by
  induction s with
  | nil => exact ⟨[], [], rfl, splitBy_eq_singleton hending⟩
  | cons c s ih =>
    obtain ⟨first, last, hs, hboth⟩ := ih
    rw [List.cons_append, splitBy, splitBy, hs, hboth]
    split
    · exact ⟨[] :: first, last, rfl, rfl⟩
    -- the character joins the first piece, which may be the last one as well
    · cases first with
      | nil => exact ⟨[], c :: last, rfl, rfl⟩
      | cons piece pieces => exact ⟨(c :: piece) :: pieces, last, rfl, rfl⟩

/-- No character gets lost but those that part the pieces. -/
theorem mem_splitBy {c : Char} (h : c ∈ s) : p c = true ∨ ∃ piece ∈ splitBy p s, c ∈ piece := by
  induction s with
  | nil => cases h
  | cons d s ih =>
    rw [splitBy]
    split
    · next hd =>
      rcases List.mem_cons.mp h with rfl | h
      · exact .inl hd
      rcases ih h with hc | ⟨piece, hpiece, hc⟩
      · exact .inl hc
      · exact .inr ⟨piece, List.mem_cons_of_mem _ hpiece, hc⟩
    -- what is no separator joins the first piece
    · cases hsplit : splitBy p s with
      | nil => exact absurd hsplit (splitBy_ne_nil s)
      | cons first others =>
        rcases List.mem_cons.mp h with rfl | h
        · exact .inr ⟨_, List.mem_cons_self .., List.mem_cons_self ..⟩
        rcases ih h with hc | ⟨piece, hpiece, hc⟩
        · exact .inl hc
        rw [hsplit] at hpiece
        rcases List.mem_cons.mp hpiece with rfl | hpiece
        · exact .inr ⟨_, List.mem_cons_self .., List.mem_cons_of_mem _ hc⟩
        · exact .inr ⟨piece, List.mem_cons_of_mem _ hpiece, hc⟩

/-! ## Lines -/

/-- Only a carriage return is dropped from a line. -/
theorem mem_dropCarriageReturn {line : List Char} {c : Char} (h : c ∈ line) :
    c = '\r' ∨ c ∈ dropCarriageReturn line := by
  unfold dropCarriageReturn
  split
  · next hlast =>
    obtain ⟨first, rfl⟩ := List.getLast?_eq_some_iff.mp hlast
    rw [List.dropLast_concat]
    simpa [or_comm] using h
  · exact .inr h

/-- Closing lines loses nothing but carriage returns and an empty last line. -/
theorem mem_closeLines {pieces : List (List Char)} {piece : List Char} {c : Char}
    (hpiece : piece ∈ pieces) (hc : c ∈ piece) :
    c = '\r' ∨ ∃ line ∈ closeLines pieces, c ∈ line := by
  fun_induction closeLines pieces with
  | case1 => cases hpiece
  -- the last piece is empty and dropped
  | case2 last hempty =>
    obtain rfl := List.mem_singleton.mp hpiece
    rw [List.isEmpty_iff.mp hempty] at hc
    cases hc
  | case3 last hempty =>
    exact .inr ⟨piece, hpiece, hc⟩
  | case4 first others hothers ih =>
    rcases List.mem_cons.mp hpiece with rfl | hpiece
    · exact (mem_dropCarriageReturn hc).imp_right fun hc => ⟨_, List.mem_cons_self .., hc⟩
    rcases ih hpiece with hc | ⟨line, hline, hc⟩
    · exact .inl hc
    · exact .inr ⟨line, List.mem_cons_of_mem _ hline, hc⟩

/-- Lines hold all characters of the text that end no line. -/
theorem mem_lines {c : Char} (h : c ∈ s) : c = '\n' ∨ c = '\r' ∨ ∃ line ∈ lines s, c ∈ line := by
  rcases mem_splitBy (p := (· == '\n')) h with h | ⟨piece, hpiece, hc⟩
  · exact .inl (beq_iff_eq.mp h)
  · exact .inr (mem_closeLines hpiece hc)

/-! ## Blanks -/

theorem mem_trimStart {c : Char} (h : c ∈ s) : isBlank c = true ∨ c ∈ trimStart s := by
  rw [← List.takeWhile_append_dropWhile (p := isBlank) (l := s)] at h
  exact (List.mem_append.mp h).imp_left (List.all_eq_true.mp List.all_takeWhile c)

theorem mem_trimEnd {c : Char} (h : c ∈ s) : isBlank c = true ∨ c ∈ trimEnd s :=
  (mem_trimStart (List.mem_reverse.mpr h)).imp_right List.mem_reverse.mpr

/-- Trimming adds nothing. -/
theorem mem_of_mem_trim {c : Char} (h : c ∈ trim s) : c ∈ s := by
  have hstart : c ∈ trimStart s := by
    rw [trim, trimEnd, List.mem_reverse] at h
    exact List.mem_reverse.mp ((List.dropWhile_sublist _).subset h)
  exact (List.dropWhile_sublist _).subset hstart

variable {blanks : List Char}

theorem trimStart_append (h : ∀ c ∈ blanks, isBlank c = true) (s : List Char) :
    trimStart (blanks ++ s) = trimStart s :=
  List.dropWhile_append_of_pos h

theorem trimEnd_append (h : ∀ c ∈ blanks, isBlank c = true) (s : List Char) :
    trimEnd (s ++ blanks) = trimEnd s := by
  rw [trimEnd, List.reverse_append, List.dropWhile_append_of_pos (by simpa using h), ← trimEnd]

theorem trim_append_left (h : ∀ c ∈ blanks, isBlank c = true) (s : List Char) :
    trim (blanks ++ s) = trim s := by
  rw [trim, trimStart_append h, ← trim]

/-- Trimming removes further blanks behind. -/
theorem trim_append_right (h : ∀ c ∈ blanks, isBlank c = true) (s : List Char) :
    trim (s ++ blanks) = trim s := by
  rw [trim, trim, trimStart, List.dropWhile_append]
  split
  · next hempty =>
    -- the text was blank, so nothing is left of either
    have hblanks : blanks.dropWhile isBlank = [] := List.dropWhile_eq_nil_iff.mpr h
    rw [hblanks, trimStart, List.isEmpty_iff.mp hempty]
  · rw [trimEnd_append h, trimStart]

end ComponentCanvas.Text
