import ComponentCanvas.Payload.Shape
import ComponentCanvas.Proofs.Blueprint.Compilation
import ComponentCanvas.Proofs.Text.Pieces

/-!
# Fences Do Not Show

A fence is a line that opens it and a mark that closes it.  The line that opens a text tells where
it ends, and the mark that closes it is the last one in the text: what stands behind it is blank, so
no other mark is in its place, whatever the text inside holds.  So a text without blanks around it
is what is found inside any fence around it, and it is compiled and read from inside the fence as it
is on its own.
-/

namespace ComponentCanvas.Payload

open Text (isBlank trim trimEnd)

/-! ## Fences -/

/-- A line feed, with a carriage return in front of it or without one. -/
inductive IsLineEnd : List Char → Prop
  | lineFeed : IsLineEnd ['\n']
  | carriageReturn : IsLineEnd ['\r', '\n']

/-- A line that opens a fence: the mark behind blanks, the name of a language, which may be empty,
and spaces up to the end of the line. -/
inductive IsOpening : List Char → Prop
  | line {before info spaces lineEnd : List Char} (hbefore : ∀ c ∈ before, isBlank c = true)
      (hinfo : ∀ c ∈ info, isInfoChar c = true) (hspaces : ∀ c ∈ spaces, c = ' ' ∨ c = '\t')
      (hend : IsLineEnd lineEnd) :
      IsOpening (before ++ (fenceMark ++ (info ++ (spaces ++ lineEnd))))

/-- What closes a fence: the mark with blanks around it, such as the line break and the indentation
in front of it. -/
inductive IsClosing : List Char → Prop
  | mark {before behind : List Char} (hbefore : ∀ c ∈ before, isBlank c = true)
      (hbehind : ∀ c ∈ behind, isBlank c = true) :
      IsClosing (before ++ (fenceMark ++ behind))

/-- Whether a text opens with a line that opens a fence. -/
def HasOpening (text : String) : Prop :=
  ∃ opening body, IsOpening opening ∧ text.toList = opening ++ body

/-- Whether a text is another one inside a fence, with blanks around it. -/
def Wraps (wrapped text : String) : Prop :=
  ∃ opening above closing, IsOpening opening ∧ (∀ c ∈ above, isBlank c = true) ∧
    IsClosing closing ∧ wrapped.toList = opening ++ (above ++ (text.toList ++ closing))

/-! ## The line that opens a fence -/

variable {s body : List Char}

/-- What remains behind an expected text. -/
theorem after?_eq_some {expected rest : List Char} :
    after? expected s = some rest ↔ s = expected ++ rest := by
  fun_induction after? expected s with
  | case1 s => simp [eq_comm]
  | case2 => simp
  -- the first characters agree, so the rest is to be found behind the others
  | case3 c expected d others heq ih =>
    rw [ih, List.cons_append, List.cons.injEq, beq_iff_eq.mp heq]
    simp
  | case4 c expected d others hne =>
    have hne : d ≠ c := fun heq => hne (beq_iff_eq.mpr heq.symm)
    simp [hne]

private theorem isBlank_of_mem_fenceMark {c : Char} (h : c ∈ fenceMark) : isBlank c = false := by
  rw [List.eq_of_mem_replicate h]
  decide

private theorem isSpace_iff {c : Char} : (c == ' ' || c == '\t') = true ↔ c = ' ' ∨ c = '\t' := by
  simp

/-- The text behind a line that opens a fence. -/
theorem afterOpening?_append {opening : List Char} (h : IsOpening opening) (body : List Char) :
    afterOpening? (opening ++ body) = some body := by
  cases h with
  | @line before info spaces lineEnd hbefore hinfo hspaces hend =>
    -- each part of the line ends where the next one starts
    have hmark : (before ++ (fenceMark ++ (info ++ (spaces ++ (lineEnd ++ body))))).dropWhile
        isBlank = fenceMark ++ (info ++ (spaces ++ (lineEnd ++ body))) := by
      refine (Text.takeWhile_append_of_head hbefore fun c hc => isBlank_of_mem_fenceMark ?_).2
      obtain rfl := Option.some.inj hc
      exact List.mem_cons_self ..
    have hafterInfo : (info ++ (spaces ++ (lineEnd ++ body))).dropWhile isInfoChar =
        spaces ++ (lineEnd ++ body) := by
      refine (Text.takeWhile_append_of_head hinfo ?_).2
      cases spaces with
      | nil => cases hend <;> simp <;> decide
      | cons c spaces =>
        rcases hspaces c (List.mem_cons_self ..) with rfl | rfl <;> simp <;> decide
    have hafterSpaces : (spaces ++ (lineEnd ++ body)).dropWhile (fun c => c == ' ' || c == '\t') =
        lineEnd ++ body := by
      refine (Text.takeWhile_append_of_head (fun c hc => isSpace_iff.mpr (hspaces c hc)) ?_).2
      cases hend <;> simp
    rw [afterOpening?]
    simp only [List.append_assoc]
    rw [hmark, after?_eq_some.mpr rfl]
    dsimp only [bind, Option.bind]
    rw [hafterInfo, hafterSpaces]
    -- either kind of line end is taken off
    cases hend <;> rfl

/-- A fence is found behind a line that opens it. -/
theorem exists_opening_of_afterOpening? (h : afterOpening? s = some body) :
    ∃ opening, IsOpening opening ∧ s = opening ++ body := by
  obtain ⟨rest, hrest, h⟩ := Option.bind_eq_some_iff.mp h
  -- the mark and its line have an end, and the body is what follows it
  have hline : ∃ lineEnd, IsLineEnd lineEnd ∧ (rest.dropWhile isInfoChar).dropWhile
      (fun c => c == ' ' || c == '\t') = lineEnd ++ body := by
    dsimp only at h
    split at h
    · next hline => exact ⟨_, .lineFeed, by simpa using hline.trans (by simpa using h)⟩
    · next hline => exact ⟨_, .carriageReturn, by simpa using hline.trans (by simpa using h)⟩
    · cases h
  obtain ⟨lineEnd, hend, hline⟩ := hline
  -- what was dropped on the way makes up the line
  have hbefore : ∀ c ∈ s.takeWhile isBlank, isBlank c = true := fun c => List.mem_takeWhile_imp
  have hinfo : ∀ c ∈ rest.takeWhile isInfoChar, isInfoChar c = true :=
    fun c => List.mem_takeWhile_imp
  have hspaces : ∀ c ∈ (rest.dropWhile isInfoChar).takeWhile (fun c => c == ' ' || c == '\t'),
      c = ' ' ∨ c = '\t' := fun c hc =>
    isSpace_iff.mp (List.mem_takeWhile_imp (p := fun c => c == ' ' || c == '\t') hc)
  refine ⟨_, .line hbefore hinfo hspaces hend, ?_⟩
  simp only [List.append_assoc]
  rw [← hline, List.takeWhile_append_dropWhile, List.takeWhile_append_dropWhile,
    ← after?_eq_some.mp hrest, List.takeWhile_append_dropWhile]

/-- Whether a text opens a fence can be decided. -/
theorem hasOpening_iff {text : String} :
    HasOpening text ↔ (afterOpening? text.toList).isSome = true := by
  rw [Option.isSome_iff_exists]
  constructor
  · rintro ⟨opening, body, hopening, htext⟩
    exact ⟨body, htext ▸ afterOpening?_append hopening body⟩
  · rintro ⟨body, hbody⟩
    obtain ⟨opening, hopening, htext⟩ := exists_opening_of_afterOpening? hbody
    exact ⟨opening, body, hopening, htext⟩

/-! ## The mark that closes a fence -/

/-- The text in front of a mark that closes it, up to the blanks around that text. -/
theorem trim_beforeClosing {closing : List Char} (h : IsClosing closing) (front : List Char) :
    trim (beforeClosing (front ++ closing)) = trim front := by
  cases h with
  | @mark before behind hbefore hbehind =>
    have hmark : trimEnd (front ++ before ++ fenceMark) = front ++ before ++ fenceMark := by
      -- the mark itself is not blank, so trimming stops behind it
      rw [Text.trimEnd_eq_self_iff, List.getLast?_append]
      rintro ⟨c, hc, hblank⟩
      obtain rfl := Option.some.inj hc
      exact absurd hblank (by decide)
    have htext : trimEnd (front ++ (before ++ (fenceMark ++ behind))) =
        front ++ before ++ fenceMark := by
      simpa only [List.append_assoc] using (Text.trimEnd_append hbehind _).trans hmark
    have hafter : after? fenceMark (front ++ before ++ fenceMark).reverse =
        some (front ++ before).reverse :=
      after?_eq_some.mpr (by rw [List.reverse_append]; rfl)
    rw [beforeClosing, htext, hafter]
    dsimp only
    rw [List.reverse_reverse, Text.trim_append_right hbefore]

/-! ## Texts in fences -/

variable {text wrapped : String}

theorem stripFence_of_not_hasOpening (h : ¬ HasOpening text) :
    stripFence text = Text.trimmed text := by
  rw [hasOpening_iff, Bool.not_eq_true, Option.isSome_eq_false_iff, Option.isNone_iff_eq_none] at h
  rw [stripFence, withoutFence, h]
  rfl

/-- What is inside a fence is what is left without the blanks around it. -/
theorem stripFence_of_wraps (h : Wraps wrapped text) : stripFence wrapped = Text.trimmed text := by
  obtain ⟨opening, above, closing, hopening, habove, hclosing, hwrapped⟩ := h
  rw [stripFence, withoutFence, hwrapped, afterOpening?_append hopening]
  dsimp only
  rw [← List.append_assoc, trim_beforeClosing hclosing, Text.trim_append_left habove]
  rfl

theorem read_congr (h : stripFence wrapped = stripFence text) : read wrapped = read text := by
  unfold read
  rw [h]

/-- Fences do not show.  A text that opens with no fence is trimmed and otherwise left as it is; a
trimmed text, whatever it holds, is what is found in any fence around it; and a text that opens with
no fence itself compiles in a fence as it does on its own, up to the digest of the text as given,
and the same payload is read from it. -/
theorem fence_invisible :
    (∀ text, ¬ HasOpening text → stripFence text = Text.trimmed text) ∧
    (∀ text wrapped, Text.trimmed text = text → Wraps wrapped text → stripFence wrapped = text) ∧
    (∀ text wrapped, Wraps wrapped text → ¬ HasOpening text →
      (∀ typeId scope, Blueprint.compile typeId wrapped scope =
        (Blueprint.compile typeId text scope).map
          fun b => { b with sourceHash := Digest.ofText wrapped }) ∧
      read wrapped = read text) := by
  refine ⟨fun text => stripFence_of_not_hasOpening, ?inside, ?same⟩
  case inside =>
    intro text wrapped htrimmed hwraps
    rw [stripFence_of_wraps hwraps, htrimmed]
  case same =>
    intro text wrapped hwraps hopening
    -- both texts come down to the trimmed one, which is all that compiling and reading see
    have hsame : stripFence wrapped = stripFence text := by
      rw [stripFence_of_wraps hwraps, stripFence_of_not_hasOpening hopening]
    exact ⟨fun typeId scope => Blueprint.compile_eq_map hsame, read_congr hsame⟩

/-- A source with two marks of its own, one of them at its end, in a fence with carriage returns and
blanks around its parts. -/
theorem fence_invisible_of_marks :
    let text := "const mark = 1; // ```\n```"
    let wrapped := "\n ```tsx-1 \t\r\n\r\nconst mark = 1; // ```\n```\r\n  ``` \n"
    ¬ HasOpening text ∧ Text.trimmed text = text ∧ Wraps wrapped text ∧
      stripFence text = Text.trimmed text ∧ stripFence wrapped = text ∧
      (∀ typeId scope, Blueprint.compile typeId wrapped scope =
        (Blueprint.compile typeId text scope).map
          fun b => { b with sourceHash := Digest.ofText wrapped }) ∧
      read wrapped = read text := by
  intro text wrapped
  have hopening : ¬ HasOpening text := by
    rw [hasOpening_iff]
    decide +kernel
  have htrimmed : Text.trimmed text = text := by decide +kernel
  -- blanks may stand in front of the mark and behind the info string
  have hline : IsOpening (['\n', ' '] ++ (fenceMark ++ ("tsx-1".toList ++ ([' ', '\t'] ++
      ['\r', '\n'])))) :=
    .line (List.all_eq_true.mp (by decide)) (List.all_eq_true.mp (by decide)) (by simp)
      .carriageReturn
  have hclosing : IsClosing (['\r', '\n', ' ', ' '] ++ (fenceMark ++ [' ', '\n'])) :=
    .mark (List.all_eq_true.mp (by decide)) (List.all_eq_true.mp (by decide))
  have hwraps : Wraps wrapped text :=
    ⟨_, ['\r', '\n'], _, hline, List.all_eq_true.mp (by decide), hclosing, by decide +kernel⟩
  exact ⟨hopening, htrimmed, hwraps, fence_invisible.1 text hopening,
    fence_invisible.2.1 text wrapped htrimmed hwraps,
    fence_invisible.2.2 text wrapped hwraps hopening⟩

end ComponentCanvas.Payload
