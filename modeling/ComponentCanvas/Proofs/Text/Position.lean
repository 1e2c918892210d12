import ComponentCanvas.Text.Position
import Mathlib.Data.List.Induction

/-!
# Lines and Columns

A line and a column stand for one place of a source text.  The place moves with every character
that is walked past: a line feed opens the next line, and any other character goes on in the line.
So places grow from left to right, by lines first, and whoever walks to a line and a column
arrives at the offset that they were made of.

A position tells its place in numbers of 32 bits, so this holds of the positions of a text as long
as its lines and columns can be counted in them (`Numbered`).  In a single line of 2^32 - 1
characters they cannot: the column at its end is nought.
-/

namespace ComponentCanvas.Text

variable {source front other walked : List Char} {offset : ℕ}

/-! ## Offsets -/

theorem byteSize_append (s t : List Char) : byteSize (s ++ t) = byteSize s + byteSize t := by
  induction s with
  | nil => simp [byteSize]
  | cons c s ih => rw [List.cons_append, byteSize, byteSize, ih, Nat.add_assoc]

theorem byteSize_eq_zero {s : List Char} : byteSize s = 0 ↔ s = [] := by
  cases s with
  | nil => simp [byteSize]
  | cons c s =>
    have hpos := c.utf8Size_pos
    simp only [byteSize, reduceCtorEq, iff_false]
    omega

/-- The first bytes of a text can be taken if they are those of its first characters. -/
theorem takeBytes?_eq_some :
    takeBytes? source offset = some front ↔ front <+: source ∧ byteSize front = offset := by
  fun_induction takeBytes? source offset generalizing front with
  | case1 s =>
    rw [Option.some_inj, byteSize_eq_zero, eq_comm]
    exact ⟨fun h => ⟨h ▸ List.nil_prefix, h⟩, fun h => h.2⟩
  -- the text ends in front of the last byte that is asked for
  | case2 n =>
    simp only [reduceCtorEq, false_iff, List.prefix_nil]
    rintro ⟨rfl, hsize⟩
    cases hsize
  | case3 c rest n hfits ih =>
    rw [Option.map_eq_some_iff]
    constructor
    · rintro ⟨taken, htaken, rfl⟩
      obtain ⟨hinitial, hsize⟩ := ih.mp htaken
      refine ⟨(List.prefix_cons_inj c).mpr hinitial, ?_⟩
      rw [byteSize, hsize]
      omega
    -- the first character fits, so a part of that size starts with it
    · rintro ⟨hinitial, hsize⟩
      cases front with
      | nil => cases hsize
      | cons d taken =>
        obtain ⟨rfl, htaken⟩ := List.cons_prefix_cons.mp hinitial
        rw [byteSize] at hsize
        exact ⟨taken, ih.mpr ⟨htaken, by omega⟩, rfl⟩
  -- the first character is longer than what is to be taken
  | case4 c rest n hfits =>
    simp only [reduceCtorEq, false_iff]
    rintro ⟨hinitial, hsize⟩
    cases front with
    | nil => cases hsize
    | cons d taken =>
      obtain ⟨rfl, -⟩ := List.cons_prefix_cons.mp hinitial
      rw [byteSize] at hsize
      omega

/-- Whether an offset lies between two characters of a text or at one of its ends. -/
def IsBoundary (source : List Char) (offset : ℕ) : Prop :=
  ∃ front, front <+: source ∧ byteSize front = offset

theorem before_of_prefix (h : front <+: source) : before source (byteSize front) = front := by
  rw [before, takeBytes?_eq_some.mpr ⟨h, rfl⟩]
  rfl

/-- Of two starts of a text the one with fewer bytes is followed by some characters in the other. -/
theorem exists_cons_of_byteSize_lt (h : front <+: source) (h' : other <+: source)
    (hlt : byteSize front < byteSize other) : ∃ c more, other = front ++ c :: more := by
  rcases List.prefix_or_prefix_of_prefix h h' with ⟨more, rfl⟩ | ⟨more, rfl⟩
  · cases more with
    | nil => simp at hlt
    | cons c more => exact ⟨c, more, rfl⟩
  · rw [byteSize_append] at hlt
    omega

/-- Behind the end of a text there is nothing more of it. -/
theorem before_of_le (h : byteSize source ≤ offset) : before source offset = source := by
  rw [before]
  cases htake : takeBytes? source offset with
  | none => rfl
  | some front =>
    obtain ⟨⟨back, rfl⟩, hsize⟩ := takeBytes?_eq_some.mp htake
    rw [byteSize_append] at h
    -- a part as large as the source leaves nothing behind it
    have hback : back = [] := byteSize_eq_zero.mp (by omega)
    rw [hback, List.append_nil]
    rfl

theorem before_isPrefix (source : List Char) (offset : ℕ) : before source offset <+: source := by
  rw [before]
  cases htake : takeBytes? source offset with
  | none => exact List.prefix_rfl
  | some front => exact (takeBytes?_eq_some.mp htake).1

/-! ## Places -/

/-- A line and a column as numbers without a bound, both counted from one. -/
structure Place where
  line : ℕ
  column : ℕ
deriving DecidableEq

namespace Place

/-- Places are ordered by lines, and in one line by columns. -/
instance : LT Place where
  lt p q := p.line < q.line ∨ p.line = q.line ∧ p.column < q.column

theorem lt_iff {p q : Place} :
    p < q ↔ p.line < q.line ∨ p.line = q.line ∧ p.column < q.column := Iff.rfl

theorem lt_trans {p q r : Place} (h : p < q) (h' : q < r) : p < r := by
  rw [lt_iff] at *
  omega

theorem ne_of_lt {p q : Place} (h : p < q) : p ≠ q := by
  rintro rfl
  rw [lt_iff] at h
  omega

/-- The place behind one more character. -/
def next (p : Place) (c : Char) : Place :=
  if c = '\n' then ⟨p.line + 1, 1⟩ else ⟨p.line, p.column + 1⟩

theorem lt_next (p : Place) (c : Char) : p < p.next c := by
  rw [lt_iff, next]
  split
  · exact .inl (Nat.lt_succ_self _)
  · exact .inr ⟨rfl, Nat.lt_succ_self _⟩

/-- Where a text that has been walked through ends. -/
def after (walked : List Char) : Place where
  line := walked.count '\n' + 1
  column := (walked.reverse.takeWhile (· != '\n')).length + 1

theorem after_nil : after [] = ⟨1, 1⟩ := rfl

/-- Walking past one more character moves the place on. -/
theorem after_concat (walked : List Char) (c : Char) :
    after (walked ++ [c]) = (after walked).next c := by
  by_cases hc : c = '\n'
  · simp [after, next, hc]
  · simp [after, next, hc]

/-- Walking on leads to greater places only. -/
theorem after_lt_after (walked : List Char) (c : Char) (more : List Char) :
    after walked < after (walked ++ c :: more) := by
  induction more using List.reverseRecOn with
  | nil =>
    rw [after_concat]
    exact lt_next _ _
  | append_singleton more d ih =>
    rw [← List.cons_append, ← List.append_assoc, after_concat]
    exact lt_trans ih (lt_next _ _)

/-- A line and a column are counted from one, and one of them grows with every character. -/
theorem bounds_after (walked : List Char) :
    1 ≤ (after walked).line ∧ 1 ≤ (after walked).column ∧
      (after walked).line + (after walked).column ≤ walked.length + 2 := by
  induction walked using List.reverseRecOn with
  | nil => simp [after_nil]
  | append_singleton walked c ih =>
    rw [after_concat, next, List.length_append, List.length_singleton]
    -- a line feed trades the column for a line, any other character adds a column
    split
    · simp only
      omega
    · simp only
      omega

end Place

/-! ## Walking to a place -/

/-- Helper: the number of bytes that are walked past on the way from one place to another. -/
def bytesTo? (target here : Place) : List Char → Option ℕ
  | [] => if here = target then some 0 else none
  | c :: rest =>
    if here = target then some 0 else (bytesTo? target (here.next c) rest).map (c.utf8Size + ·)

/-- The offset of a line and a column: that of the place where a walk through the text, which
begins in the first column of the first line, comes to them. -/
def offsetOf? (source : List Char) (target : Place) : Option ℕ := bytesTo? target ⟨1, 1⟩ source

/-- A walk comes to a place behind the characters that lead to it. -/
theorem bytesTo?_eq_some {target : Place} {rest : List Char} {n : ℕ} :
    bytesTo? target (.after walked) rest = some n ↔
      ∃ front, front <+: rest ∧ byteSize front = n ∧ .after (walked ++ front) = target := by
  induction rest generalizing walked n with
  | nil =>
    rw [bytesTo?, Option.ite_none_right_eq_some]
    constructor
    · rintro ⟨htarget, hn⟩
      obtain rfl := Option.some.inj hn
      exact ⟨[], List.prefix_rfl, rfl, by simpa using htarget⟩
    · rintro ⟨front, hinitial, rfl, htarget⟩
      -- at the end of the text the walk has come as far as it can
      obtain rfl := List.prefix_nil.mp hinitial
      exact ⟨by simpa using htarget, rfl⟩
  | cons c rest ih =>
    rw [bytesTo?]
    split
    · next htarget =>
      constructor
      · intro hn
        obtain rfl := Option.some.inj hn
        exact ⟨[], List.nil_prefix, rfl, by simpa using htarget⟩
      · rintro ⟨front, hinitial, rfl, hfront⟩
        cases front with
        | nil => rfl
        | cons d front =>
          -- the walk has left the place, and does not come back
          exact absurd (htarget.trans hfront.symm)
            (Place.ne_of_lt (Place.after_lt_after walked d front))
    · next htarget =>
      rw [← Place.after_concat, Option.map_eq_some_iff]
      constructor
      · rintro ⟨m, hm, rfl⟩
        obtain ⟨front, hinitial, rfl, hfront⟩ := ih.mp hm
        exact ⟨c :: front, (List.prefix_cons_inj c).mpr hinitial, rfl, by simpa using hfront⟩
      -- a part that is empty would end here, where the walk goes on
      · rintro ⟨front, hinitial, rfl, hfront⟩
        cases front with
        | nil => exact absurd (by simpa using hfront) htarget
        | cons d front =>
          obtain ⟨rfl, hrest⟩ := List.cons_prefix_cons.mp hinitial
          exact ⟨byteSize front, ih.mpr ⟨front, hrest, rfl, by simpa using hfront⟩, rfl⟩

/-- A walk from the start of a text comes to a place behind those of its first characters that
lead to it. -/
theorem offsetOf?_eq_some {target : Place} :
    offsetOf? source target = some offset ↔
      ∃ front, front <+: source ∧ byteSize front = offset ∧ .after front = target := by
  have hwalk : offsetOf? source target = bytesTo? target (.after []) source := rfl
  rw [hwalk, bytesTo?_eq_some]
  simp only [List.nil_append]

/-! ## Positions in 32 bits -/

namespace LineColumn

instance : DecidableEq LineColumn := fun p q =>
  decidable_of_iff (p.line = q.line ∧ p.column = q.column) (by cases p; cases q; simp)

/-- Positions are ordered by lines, and in one line by columns. -/
instance : LT LineColumn where
  lt p q := p.line < q.line ∨ p.line = q.line ∧ p.column < q.column

instance (p q : LineColumn) : Decidable (p < q) :=
  inferInstanceAs (Decidable (p.line < q.line ∨ p.line = q.line ∧ p.column < q.column))

/-- The place that a position tells. -/
def place (p : LineColumn) : Place := ⟨p.line, p.column⟩

theorem place_injective : Function.Injective place := by
  rintro ⟨line, column⟩ ⟨line', column'⟩ h
  simpa [place, Fin.ext_iff] using h

/-- The order of positions is that of their places. -/
theorem place_lt_place {p q : LineColumn} : p.place < q.place ↔ p < q := by
  rw [Place.lt_iff, place, place, ← Fin.ext_iff]
  exact Iff.rfl

/-- Behind the end of their range the numbers of a position start again at nought. -/
theorem place_after (walked : List Char) :
    (after walked).place =
      ⟨(Place.after walked).line % 0x100000000, (Place.after walked).column % 0x100000000⟩ := by
  simp only [place, after, Place.after, Fin.val_add, Fin.val_ofNat, Fin.val_one, Nat.mod_add_mod]

end LineColumn

/-- Whether the lines of a text, and the columns of each, can be counted in 32 bits. -/
def Numbered (source : List Char) : Prop :=
  ∀ front, front <+: source →
    (Place.after front).line < 0x100000000 ∧ (Place.after front).column < 0x100000000

/-- Fewer than 2^32 - 1 characters can be counted, and 2^32 - 1 of them unless they are one line or
line feeds only. -/
theorem numbered_of_length (hshort : source.length < 0x100000000)
    (hfull : source.length < 0xFFFFFFFF ∨ '\n' ∈ source ∧ ∃ c ∈ source, c ≠ '\n') :
    Numbered source := by
  intro front hfront
  have hlength := hfront.length_le
  obtain ⟨hline, hcolumn, hsum⟩ := Place.bounds_after front
  rcases hfull with hfull | ⟨hfeed, c, hc, hother⟩
  · omega
  have hcounted : (Place.after front).line = front.count '\n' + 1 := rfl
  have hcount := List.count_le_length (a := '\n') (l := front)
  -- whoever has counted up to the bound has walked through the whole text
  by_contra hover
  obtain rfl : front = source := hfront.eq_of_length_le (by omega)
  rcases Nat.eq_zero_or_pos (front.count '\n') with hnone | hsome
  · exact List.count_eq_zero.mp hnone hfeed
  · have hall : front.count '\n' = front.length := by omega
    exact hother (List.count_eq_length.mp hall c hc).symm

/-- In a text that can be numbered a position tells the place behind the characters before it. -/
theorem place_lineColumn (h : Numbered source) (hfront : front <+: source) :
    (lineColumn source (byteSize front)).place = .after front := by
  obtain ⟨hline, hcolumn⟩ := h front hfront
  rw [lineColumn, before_of_prefix hfront, LineColumn.place_after, Nat.mod_eq_of_lt hline,
    Nat.mod_eq_of_lt hcolumn]

/-! ## What a position tells -/

/-- A line and a column identify a place of a source text of fewer than 2^32 characters; if there
are 2^32 - 1, line feeds and others must be among them.  They grow with the offset, by lines first.
The line is one more than the number of line feeds in front of the place.  A walk comes to a line
and a column exactly at the offset, between two characters or at an end of the text, that has them.
All offsets behind the end have the line and the column of the end.  Both are counted from one, and
together they exceed the number of characters by two at most. -/
theorem positions_identify (source : List Char) (hshort : source.length < 0x100000000)
    (hfull : source.length < 0xFFFFFFFF ∨ '\n' ∈ source ∧ ∃ c ∈ source, c ≠ '\n') :
    (∀ a b, IsBoundary source a → IsBoundary source b → a < b →
      lineColumn source a < lineColumn source b) ∧
    (∀ front back, source = front ++ back →
      ((lineColumn source (byteSize front)).line : ℕ) = front.count '\n' + 1) ∧
    (∀ target offset, offsetOf? source target.place = some offset ↔
      IsBoundary source offset ∧ lineColumn source offset = target) ∧
    (∀ offset, byteSize source ≤ offset →
      lineColumn source offset = lineColumn source (byteSize source)) ∧
    ∀ offset, 1 ≤ ((lineColumn source offset).line : ℕ) ∧
      1 ≤ ((lineColumn source offset).column : ℕ) ∧
      ((lineColumn source offset).line : ℕ) + (lineColumn source offset).column ≤
        source.length + 2 := by
  have hnumbered := numbered_of_length hshort hfull
  refine ⟨?ordered, ?line, ?walk, ?past, ?bounded⟩
  case ordered =>
    rintro _ _ ⟨front, hfront, rfl⟩ ⟨other, hother, rfl⟩ hlt
    -- behind the characters in front of the first offset there are more in front of the second
    obtain ⟨c, more, rfl⟩ := exists_cons_of_byteSize_lt hfront hother hlt
    rw [← LineColumn.place_lt_place, place_lineColumn hnumbered hfront,
      place_lineColumn hnumbered hother]
    exact Place.after_lt_after front c more
  case line =>
    rintro front back rfl
    have hplace := place_lineColumn hnumbered (List.prefix_append front back)
    exact congrArg Place.line hplace
  case walk =>
    intro target offset
    -- a walk ends at the front whose place it is given, and places of fronts tell them apart
    rw [offsetOf?_eq_some]
    constructor
    · rintro ⟨front, hfront, rfl, htarget⟩
      rw [← place_lineColumn hnumbered hfront] at htarget
      exact ⟨⟨front, hfront, rfl⟩, LineColumn.place_injective htarget⟩
    · rintro ⟨⟨front, hfront, rfl⟩, rfl⟩
      exact ⟨front, hfront, rfl, (place_lineColumn hnumbered hfront).symm⟩
  case past =>
    intro offset h
    rw [lineColumn, lineColumn, before_of_le h, before_of_le (Nat.le_refl _)]
  case bounded =>
    intro offset
    -- bounds of a place hold for the characters before the offset, and these are no more than all
    have hbefore : before source offset <+: source := before_isPrefix source offset
    obtain ⟨hline, hcolumn, hsum⟩ := Place.bounds_after (before source offset)
    have hlength := hbefore.length_le
    have hplace := place_lineColumn hnumbered hbefore
    rw [lineColumn, before_of_prefix hbefore] at hplace
    obtain ⟨hplaceLine, hplaceColumn⟩ := Place.mk.inj hplace
    rw [lineColumn, hplaceLine, hplaceColumn]
    exact ⟨hline, hcolumn, Nat.le_trans hsum (Nat.add_le_add_right hlength 2)⟩

/-- Behind the first line of a text, which ends with a letter of two bytes, the second line opens;
past its end the last line and column stand. -/
theorem positions_identify_of_umlaut :
    IsBoundary "bä\nc".toList 3 ∧ IsBoundary "bä\nc".toList 4 ∧
    lineColumn "bä\nc".toList 3 < lineColumn "bä\nc".toList 4 ∧
    lineColumn "bä\nc".toList 3 = ⟨1, 3⟩ ∧ lineColumn "bä\nc".toList 4 = ⟨2, 1⟩ ∧
    offsetOf? "bä\nc".toList ⟨2, 1⟩ = some 4 ∧
    lineColumn "bä\nc".toList 99 = lineColumn "bä\nc".toList 5 := by
  obtain ⟨hordered, -, hwalk, hpast, -⟩ :=
    positions_identify "bä\nc".toList (by decide) (.inl (by decide))
  have hthird : IsBoundary "bä\nc".toList 3 := ⟨['b', 'ä'], by decide, by decide⟩
  have hfourth : IsBoundary "bä\nc".toList 4 := ⟨['b', 'ä', '\n'], by decide, by decide⟩
  have hend : lineColumn "bä\nc".toList 3 = ⟨1, 3⟩ := by decide
  have hnext : lineColumn "bä\nc".toList 4 = ⟨2, 1⟩ := by decide
  exact ⟨hthird, hfourth, hordered 3 4 hthird hfourth (by decide), hend, hnext,
    (hwalk ⟨2, 1⟩ 4).mpr ⟨hfourth, hnext⟩, hpast 99 (by decide)⟩

/-- In a single line of one-byte letters every offset lies between two of them, and the column is
one more than the offset, as far as it can be counted. -/
theorem lineColumn_replicate (m n : ℕ) :
    IsBoundary (List.replicate (m + n) 'a') m ∧
      lineColumn (List.replicate (m + n) 'a') m = ⟨1, Fin.ofNat 0x100000000 m + 1⟩ := by
  -- every letter takes one byte
  have hsize : byteSize (List.replicate m 'a') = m := by
    induction m with
    | zero => rfl
    | succ m ih =>
      have hletter : 'a'.utf8Size = 1 := by decide
      rw [List.replicate_succ, byteSize, ih, hletter, Nat.add_comm]
  have hfront : List.replicate m 'a' <+: List.replicate (m + n) 'a' :=
    ⟨List.replicate n 'a', List.replicate_append_replicate⟩
  have hbefore : before (List.replicate (m + n) 'a') m = List.replicate m 'a' := by
    simpa only [hsize] using before_of_prefix hfront
  refine ⟨⟨_, hfront, hsize⟩, ?_⟩
  rw [lineColumn, hbefore]
  simp [LineColumn.after, List.count_replicate]

/-- Behind 2^32 - 1 characters of one line the column goes around to nought, so the end of the text
does not come behind the place of its last character. -/
theorem not_lt_at_full_line :
    (List.replicate 0xFFFFFFFF 'a').length < 0x100000000 ∧
      IsBoundary (List.replicate 0xFFFFFFFF 'a') 0xFFFFFFFE ∧
      IsBoundary (List.replicate 0xFFFFFFFF 'a') 0xFFFFFFFF ∧
      (lineColumn (List.replicate 0xFFFFFFFF 'a') 0xFFFFFFFF).column = 0 ∧
      ¬ lineColumn (List.replicate 0xFFFFFFFF 'a') 0xFFFFFFFE <
        lineColumn (List.replicate 0xFFFFFFFF 'a') 0xFFFFFFFF := by
  obtain ⟨hlast, hlastAt⟩ := lineColumn_replicate 0xFFFFFFFE 1
  obtain ⟨hend, hendAt⟩ := lineColumn_replicate 0xFFFFFFFF 0
  refine ⟨?_, hlast, hend, ?_, ?_⟩
  · rw [List.length_replicate]
    decide
  -- the column of the end wraps around to zero
  · rw [hendAt]
    decide
  · rw [hlastAt, hendAt]
    decide

end ComponentCanvas.Text
