import ComponentCanvas.Blueprint.MarkupText
import ComponentCanvas.Proofs.Text.Pieces

/-!
# Blanks at Line Breaks

The rule for text between tags, by pieces: a text is split at every line feed, each piece loses the
blanks next to a line break, and what is left is joined by single spaces.  What is shown of a text
is what the rule shows of the text without its final line break.  So the line in front of that break
keeps its trailing blanks, and the two differ exactly where it has any.
-/

namespace ComponentCanvas.Blueprint

open Text (isBlank trimStart trimEnd splitBy dropCarriageReturn closeLines)

/-! ## The rule -/

/-- The pieces of a text between its line feeds.  One carriage return in front of a line feed
belongs to the line break. -/
def textPieces (s : List Char) : List (List Char) :=
  let pieces := splitBy (· == '\n') s
  pieces.dropLast.map dropCarriageReturn ++ pieces.getLast?.toList

/-- The piece at an index of a number of pieces without the blanks at line breaks: those in front of
it, unless it is the first piece, and those behind it, unless it is the last. -/
def pieceBetweenBreaks (count index : ℕ) (piece : List Char) : List Char :=
  let opened := if index = 0 then piece else trimStart piece
  if index + 1 = count then opened else trimEnd opened

/-- The pieces of a text without the blanks at line breaks. -/
def spacedPieces (s : List Char) : List (List Char) :=
  (textPieces s).mapIdx (pieceBetweenBreaks (textPieces s).length)

/-- Pieces joined by single spaces, if any of them is not empty. -/
def joined? (pieces : List (List Char)) : Option String :=
  let parts := pieces.filter (!·.isEmpty)
  if parts.isEmpty then none else some (" ".intercalate (parts.map String.ofList))

/-- What the rule shows of a text, if anything. -/
def spacedText? (s : List Char) : Option String := joined? (spacedPieces s)

/-- The text without the line break that it ends with, if it ends with one. -/
def withoutFinalBreak (s : List Char) : List Char :=
  if s.getLast? = some '\n' then dropCarriageReturn s.dropLast else s

/-! ## Pieces -/

variable {s : List Char}

theorem textPieces_of_splitBy {first : List (List Char)} {last : List Char}
    (h : splitBy (· == '\n') s = first ++ [last]) :
    textPieces s = first.map dropCarriageReturn ++ [last] := by
  simp [textPieces, h]

/-- A text without a line feed is one piece. -/
theorem textPieces_of_notMem (h : '\n' ∉ s) : textPieces s = [s] := by
  have hsplit : splitBy (· == '\n') s = [] ++ [s] :=
    Text.splitBy_eq_singleton fun c hc => beq_eq_false_iff_ne.mpr fun heq => h (heq ▸ hc)
  rw [textPieces_of_splitBy hsplit]
  rfl

/-- Behind a line feed at the end there is an empty piece. -/
theorem textPieces_lineFeed (s : List Char) : textPieces (s ++ ['\n']) =
    (splitBy (· == '\n') s).map dropCarriageReturn ++ [[]] :=
  textPieces_of_splitBy (Text.splitBy_append_cons rfl s [])

/-- The carriage return of a final line break belongs to the break. -/
theorem textPieces_dropCarriageReturn (s : List Char) :
    textPieces (dropCarriageReturn s) = (splitBy (· == '\n') s).map dropCarriageReturn := by
  rcases s.eq_nil_or_concat' with rfl | ⟨front, c, rfl⟩
  · rfl
  by_cases hfeed : c = '\n'
  · -- the last piece is empty, so it has no carriage return
    subst hfeed
    have hkeep : dropCarriageReturn (front ++ ['\n']) = front ++ ['\n'] := by
      simp [dropCarriageReturn]
    rw [hkeep, textPieces_lineFeed, Text.splitBy_append_cons rfl, List.map_append]
    rfl
  · -- the last piece ends as the text does
    have hending : ∀ d ∈ [c], (d == '\n') = false := by simpa using hfeed
    obtain ⟨first, last, hfront, hboth⟩ := Text.splitBy_append hending front
    rw [hboth, List.map_append, List.map_singleton]
    by_cases hreturn : c = '\r'
    · subst hreturn
      simpa [dropCarriageReturn] using textPieces_of_splitBy hfront
    · simpa [dropCarriageReturn, hreturn] using textPieces_of_splitBy hboth

@[simp] theorem withoutFinalBreak_lineFeed (s : List Char) :
    withoutFinalBreak (s ++ ['\n']) = dropCarriageReturn s := by
  simp [withoutFinalBreak]

theorem withoutFinalBreak_of_ne {c : Char} (h : c ≠ '\n') (s : List Char) :
    withoutFinalBreak (s ++ [c]) = s ++ [c] := by
  simp [withoutFinalBreak, h]

/-- The last line is closed like the others unless it is empty, and then it is dropped. -/
theorem closeLines_concat (first : List (List Char)) (last : List Char) :
    closeLines (first ++ [last]) =
      first.map dropCarriageReturn ++ (if last.isEmpty then [] else [last]) := by
  induction first with
  | nil => rfl
  | cons piece first ih =>
    rw [List.cons_append, closeLines, ih, List.map_cons, List.cons_append]
    exact fun h => by simp at h

/-- The lines of a text are the pieces of the text without its final line break. -/
theorem lines_eq_textPieces (h : s ≠ []) : Text.lines s = textPieces (withoutFinalBreak s) := by
  obtain ⟨front, c, rfl⟩ := (s.eq_nil_or_concat').resolve_left h
  rw [Text.lines]
  -- with a final line feed the empty last piece is what both sides leave out
  by_cases hfeed : c = '\n'
  · subst hfeed
    rw [Text.splitBy_append_cons rfl, splitBy, closeLines_concat, withoutFinalBreak_lineFeed,
      textPieces_dropCarriageReturn]
    simp
  · have hending : ∀ d ∈ [c], (d == '\n') = false := by simpa using hfeed
    obtain ⟨first, last, -, hboth⟩ := Text.splitBy_append hending front
    rw [hboth, closeLines_concat, withoutFinalBreak_of_ne hfeed, textPieces_of_splitBy hboth]
    simp

/-! ## Trimmed pieces -/

/-- Helper: the lines behind the first one, from an index on. -/
private theorem laterLines_eq_mapIdx (lines : List (List Char)) (index : ℕ) :
    laterLines lines = lines.mapIdx fun i line =>
      pieceBetweenBreaks (index + 1 + lines.length) (index + 1 + i) line := by
  induction lines generalizing index with
  | nil => rfl
  | cons line rest ih =>
    cases rest with
    -- the last line
    | nil => simp [laterLines, pieceBetweenBreaks]
    | cons next rest =>
      rw [laterLines, List.mapIdx_cons, ih (index + 1), List.cons.injEq]
      · constructor
        · simp [pieceBetweenBreaks]
        · simp only [List.length_cons]
          congr 1
          funext i line
          congr 1 <;> omega
      · exact List.cons_ne_nil _ _

/-- The lines lose the blanks that the rule takes off. -/
theorem trimmedLines_eq_mapIdx (lines : List (List Char)) :
    trimmedLines lines = lines.mapIdx (pieceBetweenBreaks lines.length) := by
  cases lines with
  | nil => rfl
  | cons line rest =>
    cases rest with
    | nil => rfl
    | cons next rest =>
      -- the first line keeps its start, and the others are counted from the second on
      rw [trimmedLines, List.mapIdx_cons, laterLines_eq_mapIdx _ 0, List.cons.injEq]
      · constructor
        · simp [pieceBetweenBreaks]
        · simp only [List.length_cons]
          congr 1
          funext i line
          congr 1 <;> omega
      · exact List.cons_ne_nil _ _

/-! ## What is shown -/

/-- What is shown of a text is what the rule shows of the text without its final line break. -/
theorem markupText?_eq_spacedText? (raw : String) :
    markupText? raw = spacedText? (withoutFinalBreak raw.toList) := by
  by_cases hfeed : '\n' ∈ raw.toList
  · have hlines := lines_eq_textPieces (List.ne_nil_of_mem hfeed)
    rw [markupText?, if_pos (by simpa using hfeed), hlines, trimmedLines_eq_mapIdx, spacedText?,
      joined?, ← spacedPieces]
    cases (spacedPieces (withoutFinalBreak raw.toList)).filter (!·.isEmpty) <;> rfl
  · -- one piece, which is shown as it is
    have hkeep : withoutFinalBreak raw.toList = raw.toList :=
      if_neg fun h => hfeed (List.mem_of_getLast? h)
    have hpieces : spacedPieces raw.toList = [raw.toList] := by
      rw [spacedPieces, textPieces_of_notMem hfeed]
      rfl
    rw [markupText?, if_neg (by simpa using hfeed), hkeep, spacedText?, hpieces, joined?]
    cases hraw : raw.toList.isEmpty <;> simp [hraw]

theorem markupText?_eq_none {raw : String} : markupText? raw = none ↔
    ∀ piece ∈ spacedPieces (withoutFinalBreak raw.toList), piece = [] := by
  rw [markupText?_eq_spacedText?, spacedText?, joined?]
  simp

/-! ## Blanks in front of a final line break -/

/-- The pieces of a text with a final line break and of the text without it differ in the last line
alone: the rule takes off the blanks behind it as well. -/
theorem exists_spacedPieces_lineFeed (s : List Char) :
    ∃ front line, spacedPieces (dropCarriageReturn s) = front ++ [line] ∧
      spacedPieces (s ++ ['\n']) = front ++ [trimEnd line, []] := by
  have hending : ∀ c ∈ ([] : List Char), (c == '\n') = false := by simp
  obtain ⟨first, last, hsplit, -⟩ := Text.splitBy_append hending s
  refine ⟨(first.map dropCarriageReturn).mapIdx (pieceBetweenBreaks (first.length + 1)),
    pieceBetweenBreaks (first.length + 1) first.length (dropCarriageReturn last), ?_, ?_⟩
  · simp [spacedPieces, textPieces_dropCarriageReturn, hsplit]
  · -- only the last line stood at the end, and now an empty piece stands there
    have hfront : (first.map dropCarriageReturn).mapIdx (pieceBetweenBreaks (first.length + 2)) =
        (first.map dropCarriageReturn).mapIdx (pieceBetweenBreaks (first.length + 1)) := by
      refine List.mapIdx_eq_mapIdx_iff.mpr fun i hi => ?_
      rw [List.length_map] at hi
      simp only [pieceBetweenBreaks]
      rw [if_neg (show ¬ i + 1 = first.length + 2 by omega),
        if_neg (show ¬ i + 1 = first.length + 1 by omega)]
    have hline : pieceBetweenBreaks (first.length + 2) first.length (dropCarriageReturn last) =
        trimEnd (pieceBetweenBreaks (first.length + 1) first.length (dropCarriageReturn last)) := by
      simp [pieceBetweenBreaks]
    have hempty : pieceBetweenBreaks (first.length + 2) (first.length + 1) [] = [] := by
      simp [pieceBetweenBreaks, trimStart]
    rw [spacedPieces, textPieces_lineFeed, hsplit, List.map_append, List.map_singleton]
    simp only [List.length_append, List.length_map, List.length_singleton, List.mapIdx_concat]
    rw [hfront, hline, hempty, List.append_assoc, List.singleton_append]

/-! ## Joined pieces -/

theorem joined?_concat_nil (front : List (List Char)) :
    joined? (front ++ [[]]) = joined? front := by
  simp [joined?]

/-- A piece that is not empty stands behind those before it, with a space if there are any. -/
theorem joined?_concat (front : List (List Char)) {piece : List Char} (h : piece ≠ []) :
    joined? (front ++ [piece]) = some (match joined? front with
      | none => String.ofList piece
      | some text => text ++ " " ++ String.ofList piece) := by
  have hpiece : (front ++ [piece]).filter (!·.isEmpty) =
      front.filter (!·.isEmpty) ++ [piece] := by
    simp [h]
  simp only [joined?, hpiece]
  cases hparts : front.filter (!·.isEmpty) with
  -- the piece that is added is the first one that is not empty
  | nil => simp
  | cons part parts =>
    rw [if_neg (by simp), List.map_append,
      String.intercalate_append_of_ne_nil (by simp) (by simp)]
    simp

/-- What is shown of pieces tells the last one. -/
theorem joined?_concat_inj {front : List (List Char)} {piece other : List Char} :
    joined? (front ++ [piece]) = joined? (front ++ [other]) ↔ piece = other := by
  have hlonger : ∀ {piece : List Char}, piece ≠ [] →
      joined? (front ++ [piece]) ≠ joined? (front ++ [[]]) := by
    intro piece hpiece heq
    rw [joined?_concat_nil, joined?_concat front hpiece] at heq
    cases hfront : joined? front with
    | none => simp [hfront] at heq
    | some text =>
      -- the space alone makes it longer
      have hlength := congrArg (Option.map String.length) heq
      simp only [hfront, Option.map_some, Option.some.injEq, String.length_append] at hlength
      have hspace : " ".length = 1 := rfl
      omega
  -- so either both pieces are empty or neither is
  refine ⟨fun heq => ?_, fun heq => heq ▸ rfl⟩
  by_cases hpiece : piece = []
  · subst hpiece
    by_contra hother
    exact hlonger (Ne.symm hother) heq.symm
  by_cases hother : other = []
  · subst hother
    exact absurd heq (hlonger hpiece)
  rw [joined?_concat front hpiece, joined?_concat front hother, Option.some.injEq] at heq
  refine String.ofList_injective ?_
  cases hfront : joined? front with
  | none => simpa [hfront] using heq
  | some text => simpa [hfront] using heq

/-! ## The two compared -/

/-- Whether the line in front of a final line break ends with a blank when those in front of it, if
it is not the first line, are taken off. -/
def KeepsFinalBlanks (s : List Char) : Prop :=
  s.getLast? = some '\n' ∧ ∃ line ∈ (spacedPieces (withoutFinalBreak s)).getLast?,
    ∃ c ∈ line.getLast?, isBlank c = true

/-- What is shown of a text is what the rule shows of it, unless blanks in front of a final line
break are kept. -/
theorem markupText?_eq_spacedText?_iff (raw : String) :
    markupText? raw = spacedText? raw.toList ↔ ¬ KeepsFinalBlanks raw.toList := by
  rw [markupText?_eq_spacedText?]
  by_cases hfeed : raw.toList.getLast? = some '\n'
  -- with a final line break the two differ in the blanks at the end of the line in front of it
  · obtain ⟨s, hs⟩ := List.getLast?_eq_some_iff.mp hfeed
    obtain ⟨front, line, hwithout, hwith⟩ := exists_spacedPieces_lineFeed s
    have hkept : KeepsFinalBlanks (s ++ ['\n']) ↔ ∃ c ∈ line.getLast?, isBlank c = true := by
      simp [KeepsFinalBlanks, hwithout]
    rw [hs, hkept, withoutFinalBreak_lineFeed, spacedText?, spacedText?, hwithout, hwith,
      List.append_cons front (trimEnd line), joined?_concat_nil, joined?_concat_inj, eq_comm,
      Text.trimEnd_eq_self_iff]
  · have hkeep : withoutFinalBreak raw.toList = raw.toList := if_neg hfeed
    exact iff_of_true (by rw [hkeep]) fun h => hfeed h.1

/-- Text between tags by the rule.  Text without a line feed is shown as it is; any text is shown as
the rule shows it without its final line break, and nothing is shown exactly if nothing is left of
any piece.  For the text with its final line break the rule shows the same unless the line in front
of the break ends with blanks, which are kept. -/
theorem shown_by_pieces (raw : String) :
    (markupText? raw = if '\n' ∈ raw.toList then spacedText? (withoutFinalBreak raw.toList)
      else if raw = "" then none else some raw) ∧
    (markupText? raw = none ↔
      ∀ piece ∈ spacedPieces (withoutFinalBreak raw.toList), piece = []) ∧
    (markupText? raw = spacedText? raw.toList ↔ ¬ KeepsFinalBlanks raw.toList) := by
  refine ⟨?_, markupText?_eq_none, markupText?_eq_spacedText?_iff raw⟩
  split
  · exact markupText?_eq_spacedText? raw
  · next hfeed =>
    rw [markupText?, if_neg (by simpa using hfeed)]
    simp

/-- A blank in front of a final line break is shown, which the rule takes off. -/
theorem blank_before_final_break :
    markupText? "Hello \n" = some "Hello " ∧ spacedText? "Hello \n".toList = some "Hello" := by
  decide +kernel

end ComponentCanvas.Blueprint
