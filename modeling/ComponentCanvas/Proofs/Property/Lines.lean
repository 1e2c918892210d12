import ComponentCanvas.Proofs.Property.Markup

/-!
# Markup on One Line

Line feeds are escaped in strings and stand nowhere else, so the markup of an element is one line
unless its type is not.
-/

namespace ComponentCanvas.Property

open Script.Parser (bracketed)

/-! ## Numbers -/

private theorem lineFeed_notMem_digits {s : List Char}
    (h : ∀ c ∈ s, Text.isAsciiDigit c = true) : '\n' ∉ s :=
  fun hmem => absurd (h '\n' hmem) (by decide)

private theorem lineFeed_notMem_digitsOf (n : ℕ) : '\n' ∉ Decimal.digitsOf n :=
  lineFeed_notMem_digits fun _ => Decimal.isAsciiDigit_of_mem_digitsOf

private theorem lineFeed_notMem_mark {mark : List Char} {exponent : ℤ}
    (h : Decimal.IsMark mark exponent) : '\n' ∉ mark := by
  cases h with
  | none => simp
  | up n => simpa using lineFeed_notMem_digitsOf n
  | down n => simpa using lineFeed_notMem_digitsOf n

/-- A spelled number has no line feed. -/
theorem lineFeed_notMem_spelling (s : Decimal.Spelling) : '\n' ∉ s.text := by
  have hdigits := lineFeed_notMem_digits s.isDigit
  rw [List.mem_append, not_or] at hdigits
  have hfraction : '\n' ∉ (if s.point then '.' :: s.fraction else []) := by
    split
    · simpa using hdigits.2
    · simp
  simp only [Decimal.Spelling.text, Decimal.Spelling.tail, List.mem_append, not_or]
  exact ⟨hdigits.1, hfraction, lineFeed_notMem_mark s.isMark⟩

private theorem lineFeed_notMem_signText (negative : Bool) :
    '\n' ∉ Decimal.signText negative := by
  cases negative <;> decide

theorem lineFeed_notMem_intText (n : ℤ) : '\n' ∉ Json.intText n := by
  rw [Decimal.intText_eq, List.mem_append, not_or]
  exact ⟨lineFeed_notMem_signText _, lineFeed_notMem_spelling _⟩

theorem lineFeed_notMem_floatText (x : Float) : '\n' ∉ Json.floatText x := by
  by_cases hfinite : Decimal.isFinite x = true
  · obtain ⟨s, htext, -, -⟩ := Decimal.exists_spelling_floatText hfinite
    rw [htext, List.mem_append, not_or]
    exact ⟨lineFeed_notMem_signText _, lineFeed_notMem_spelling s⟩
  · rw [Json.floatText, if_neg hfinite]
    decide

/-! ## Strings and keys -/

private theorem hexDigit_ne_lineFeed {n : ℕ} (h : n < 16) : Json.hexDigit n ≠ '\n' := by
  have hall : ∀ n < 16, Json.hexDigit n ≠ '\n' := by decide
  exact hall n h

/-- No character is escaped by a line feed. -/
private theorem lineFeed_notMem_escapeChar (c : Char) : '\n' ∉ escapeChar c := by
  unfold escapeChar
  split
  -- the first five characters have escapes of their own, among them the line feed
  case h_6 _ _ hc _ _ =>
    split
    · have hdigit : ∀ k, '\n' ≠ Json.hexDigit (k % 16) := fun k =>
        (hexDigit_ne_lineFeed (Nat.mod_lt k (by omega))).symm
      simp [Json.unicodeEscape, hdigit]
    · simpa using Ne.symm hc
  all_goals decide

theorem lineFeed_notMem_quoted (s : String) : '\n' ∉ quoted s := by
  have hinner : '\n' ∉ escaped s.toList := by
    intro hmem
    obtain ⟨c, -, hc⟩ := List.mem_flatMap.mp hmem
    exact lineFeed_notMem_escapeChar c hc
  simp [quoted, hinner]

/-- A name has no line feed. -/
private theorem lineFeed_notMem_name {part : Char → Bool} (hpart : part '\n' = false)
    {name : List Char} (h : isNameOf part name = true) : '\n' ∉ name := by
  cases name with
  | nil => simp
  | cons c rest =>
    rw [isNameOf, Bool.and_eq_true] at h
    intro hmem
    rcases List.mem_cons.mp hmem with rfl | hmem
    -- the first character is the start of a name, and the others are parts of it
    · exact absurd h.1 (by decide)
    · have := List.all_eq_true.mp h.2 '\n' hmem
      rw [hpart] at this
      cases this

theorem lineFeed_notMem_keyText (key : String) : '\n' ∉ keyText key := by
  rw [keyText]
  split
  · simp [lineFeed_notMem_quoted]
  · split
    · next hbare => exact lineFeed_notMem_name (by decide) hbare
    · exact lineFeed_notMem_quoted key

/-! ## Values -/

/-- Texts that are put together keep free of line feeds. -/
private theorem lineFeed_notMem_separated {texts : List (List Char)}
    (h : ∀ text ∈ texts, '\n' ∉ text) : '\n' ∉ Json.separated comma texts := by
  induction texts with
  | nil => simp [Json.separated]
  | cons text rest ih =>
    rw [List.forall_mem_cons] at h
    cases rest with
    | nil => exact h.1
    | cons next rest =>
      simp only [Json.separated, List.mem_append, not_or]
      exact ⟨⟨h.1, by decide⟩, ih h.2⟩

private theorem lineFeed_notMem_bracketed {opener closer : Char} (ho : opener ≠ '\n')
    (hc : closer ≠ '\n') {gap : List Char} (hgap : '\n' ∉ gap) {texts : List (List Char)}
    (h : ∀ text ∈ texts, '\n' ∉ text) : '\n' ∉ bracketed opener gap texts closer := by
  simp [bracketed, ho.symm, hc.symm, hgap, lineFeed_notMem_separated h]

mutual

/-- The source of a value stands on one line. -/
theorem lineFeed_notMem_writeAt : ∀ (v : Json) {path : String} {text : List Char},
    writeAt path v = .ok text → '\n' ∉ text
  | .null, path, text, h => by simp [writeAt, throw, throwThe, MonadExceptOf.throw] at h
  | .bool b, path, text, h => by
    rw [writeAt, pure_eq_ok] at h
    subst h
    cases b <;> decide
  | .int n, path, text, h => by
    rw [writeAt, pure_eq_ok] at h
    exact h ▸ lineFeed_notMem_intText n
  | .float x, path, text, h => by
    rw [writeAt, pure_eq_ok] at h
    exact h ▸ lineFeed_notMem_floatText x
  -- the one value that may hold a line feed is written with an escape in its place
  | .str s, path, text, h => by
    rw [writeAt, pure_eq_ok] at h
    exact h ▸ lineFeed_notMem_quoted s
  | .arr items, path, text, h => by
    obtain ⟨texts, htexts, rfl⟩ := writeAt_arr h
    exact lineFeed_notMem_bracketed (by decide) (by decide) (by simp)
      (lineFeed_notMem_writeItems items htexts)
  | .obj members, path, text, h => by
    obtain ⟨texts, htexts, rfl⟩ := writeAt_obj h
    refine lineFeed_notMem_bracketed (by decide) (by decide) ?_
      (lineFeed_notMem_writeMembers members htexts)
    split <;> simp

private theorem lineFeed_notMem_writeItems : ∀ (items : List Json) {path : String} {index : ℕ}
    {texts : List (List Char)}, writeItems path index items = .ok texts →
      ∀ text ∈ texts, '\n' ∉ text
  | [], path, index, texts, h => by
    rw [writeItems, pure_eq_ok] at h
    subst h
    simp
  | item :: rest, path, index, texts, h => by
    obtain ⟨text, texts', htext, hrest, rfl⟩ := writeItems_cons h
    rw [List.forall_mem_cons]
    exact ⟨lineFeed_notMem_writeAt item htext, lineFeed_notMem_writeItems rest hrest⟩

private theorem lineFeed_notMem_writeMembers : ∀ (members : Bag) {path : String}
    {texts : List (List Char)}, writeMembers path members = .ok texts →
      ∀ text ∈ texts, '\n' ∉ text
  | [], path, texts, h => by
    rw [writeMembers, pure_eq_ok] at h
    subst h
    simp
  | (key, value) :: rest, path, texts, h => by
    obtain ⟨text, texts', htext, hrest, rfl⟩ := writeMembers_cons h
    rw [List.forall_mem_cons]
    refine ⟨?_, lineFeed_notMem_writeMembers rest hrest⟩
    simp [lineFeed_notMem_keyText key, lineFeed_notMem_writeAt value htext]

end

/-! ## Elements -/

/-- An attribute is written without a line feed. -/
private theorem lineFeed_notMem_attributeChars {v : Json} {text : List Char}
    (h : attributeChars v = .ok text) : '\n' ∉ text := by
  cases attributeForm_of_attributeChars h with
  | plain s hplain =>
    have hinner : '\n' ∉ s.toList := fun hmem =>
      absurd (List.all_eq_true.mp hplain '\n' hmem) (by decide)
    simp [hinner]
  | braced hw => simp [lineFeed_notMem_writeAt v hw]

/-- Attributes are written without a line feed. -/
private theorem lineFeed_notMem_attributesChars {bag : Bag} {text : List Char}
    (h : attributesChars bag = .ok text) : '\n' ∉ text := by
  induction bag generalizing text with
  | nil =>
    rw [attributesChars, pure_eq_ok] at h
    subst h
    simp
  | cons entry rest ih =>
    obtain ⟨key, value⟩ := entry
    obtain ⟨hkey, first, others, hfirst, hothers, rfl⟩ := attributesChars_cons h
    -- a key that is no name would have been refused
    have hname : '\n' ∉ key.toList := lineFeed_notMem_name (by decide) hkey
    simp [hname, lineFeed_notMem_attributeChars hfirst, ih hothers]

/-- The markup of an element is one line if its type is. -/
theorem lineFeed_notMem_markup {typeId line : String} {bag : Bag}
    (htype : '\n' ∉ typeId.toList) (h : markup typeId bag = .ok line) : '\n' ∉ line.toList := by
  obtain ⟨attributes, hattributes, rfl⟩ := markup_eq_ok h
  simp [htype, lineFeed_notMem_attributesChars hattributes]

end ComponentCanvas.Property
