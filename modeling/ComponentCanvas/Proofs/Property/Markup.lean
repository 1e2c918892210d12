import ComponentCanvas.Proofs.Property.RoundTrip

/-!
# Emitted Markup

An attribute is read back from its text, and a line of markup tells its type and its properties:
each part of a line has an end that nothing inside the part can forge.  A type ends at the first
blank, a key at the first equals sign, a plain text at the first quote, and a value in braces where
the reader stops.
-/

namespace ComponentCanvas.Property

open Script Script.Parser

/-! ## Attributes -/

/-- Helper: a text in brackets of its own has no blanks around it. -/
private theorem trim_enclosed {opening closing : Char} (ho : Text.isBlank opening = false)
    (hc : Text.isBlank closing = false) (inner : List Char) :
    Text.trim (opening :: inner ++ [closing]) = opening :: inner ++ [closing] := by
  refine Text.trim_eq_self (fun c h => ?_) fun c h => ?_
  · obtain rfl : opening = c := by simpa using h
    exact ho
  · rw [List.getLast?_concat, Option.mem_some_iff] at h
    exact h ▸ hc

private theorem between?_enclosed (opening closing : Char) (inner : List Char) :
    between? opening closing (opening :: inner ++ [closing]) = some inner := by
  simp [between?]

/-- The text of an attribute: a plain text in quotes, or a written value in braces. -/
inductive AttributeForm : Json → List Char → Prop
  | plain (s : String) (h : isPlainText s = true) :
    AttributeForm (.str s) ('"' :: s.toList ++ ['"'])
  | braced {v : Json} {text : List Char} (h : writeAt "" v = .ok text) :
    AttributeForm v ('\x7b' :: text ++ ['\x7d'])

/-- Each attribute has one of the two forms. -/
theorem attributeForm_of_attributeChars {v : Json} {text : List Char}
    (h : attributeChars v = .ok text) : AttributeForm v text := by
  have hbraced : (do return '\x7b' :: (← writeAt "" v) ++ ['\x7d'] : Except WriteError _) =
      .ok text → AttributeForm v text := by
    intro h
    obtain ⟨w, hw, h⟩ := bind_eq_ok.mp h
    exact pure_eq_ok.mp h ▸ .braced hw
  unfold attributeChars at h
  split at h
  -- only a plain text is written in quotes
  · next s =>
    split at h
    · next hplain =>
      exact pure_eq_ok.mp h ▸ .plain s hplain
    · exact hbraced h
  · exact hbraced h

/-- An attribute is emitted exactly if null stands nowhere in its value. -/
theorem isOk_attributeChars (v : Json) : (attributeChars v).isOk = true ↔ v.NullFree := by
  rw [← isOk_writeAt v ""]
  unfold attributeChars
  split
  · next s =>
    split
    · simp [writeAt, pure, Except.pure, Except.isOk, Except.toBool]
    · simp [writeAt, bind, Except.bind, pure, Except.pure, Except.isOk, Except.toBool]
  · cases writeAt "" v <;> rfl

/-- An attribute is read back from its text. -/
theorem readAttribute_attributeText {v : Json} (hv : v.WellFormed) {text : String}
    (h : attributeText v = .ok text) : readAttribute text = .ok v := by
  obtain ⟨chars, hchars, h⟩ := bind_eq_ok.mp h
  rw [← pure_eq_ok.mp h, readAttribute, String.toList_ofList]
  cases attributeForm_of_attributeChars hchars with
  | plain s hplain =>
    rw [trim_enclosed (by decide +kernel) (by decide +kernel)]
    -- braces are looked for first, and a text that opens with a quote has none around it
    have hbraces : between? '\x7b' '\x7d' ('"' :: s.toList ++ ['"']) = none := rfl
    simp only [hbraces, between?_enclosed, String.ofList_toList]
    rfl
  | braced hw =>
    rw [trim_enclosed (by decide +kernel) (by decide +kernel)]
    simp only [between?_enclosed]
    exact read_writeAt hv hw

/-! ## Where the parts of a line end -/

/-- Two written values with braces behind them are the same if the texts are, whatever follows the
braces. -/
theorem eq_of_writeAt_append {v₁ v₂ : Json} (hv₁ : v₁.WellFormed) (hv₂ : v₂.WellFormed)
    {w₁ w₂ r₁ r₂ : List Char} (h₁ : writeAt "" v₁ = .ok w₁) (h₂ : writeAt "" v₂ = .ok w₂)
    (h : w₁ ++ '\x7d' :: r₁ = w₂ ++ '\x7d' :: r₂) : v₁ = v₂ ∧ r₁ = r₂ := by
  -- one run of the parser reads both texts, so it stops behind both at once
  set d := 4 * (w₁.length + w₂.length) + 1 with hd
  have hread₁ := readable_writeAt v₁ hv₁ h₁ (d := d) (by omega)
  have hread₂ := readable_writeAt v₂ hv₂ h₂ (d := d) (by omega)
  have hstart := at_atStart (hread₁.starts ('\x7d' :: r₁) (by simp [IsDelimited]))
  obtain ⟨e₁, c₁, hrun₁, hmeans₁, hc₁⟩ :=
    hread₁.reads _ _ ⟨Or.inl rfl, .brace r₁⟩ _ hstart
  obtain ⟨e₂, c₂, hrun₂, hmeans₂, hc₂⟩ :=
    hread₂.reads _ _ ⟨Or.inl rfl, .brace r₂⟩ _ (h ▸ hstart)
  rw [h, hrun₂] at hrun₁
  obtain ⟨rfl, rfl⟩ : e₂ = e₁ ∧ c₂ = c₁ := by simpa using hrun₁
  have hvalue : Except.ok v₁ = (.ok v₂ : Except ReadError Json) :=
    (hmeans₁ []).symm.trans (hmeans₂ [])
  exact ⟨Except.ok.inj hvalue, hc₁.rest.symm.trans hc₂.rest⟩

/-- Helper: what stands in front of the first occurrence of an item, and what stands behind it, is
determined. -/
private theorem append_cons_cancel {α : Type} {a : α} {x₁ x₂ z₁ z₂ : List α} (h₁ : a ∉ x₁)
    (h₂ : a ∉ x₂) (h : x₁ ++ a :: z₁ = x₂ ++ a :: z₂) : x₁ = x₂ ∧ z₁ = z₂ := by
  -- the marks stand at the same place, since neither front has one
  induction x₁ generalizing x₂ with
  | nil =>
    cases x₂ with
    | nil => exact ⟨rfl, by simpa using h⟩
    | cons y x₂ =>
      rw [List.nil_append, List.cons_append, List.cons.injEq] at h
      -- the second front would hold the mark
      exact absurd (by simp [h.1]) h₂
  | cons y x₁ ih =>
    cases x₂ with
    | nil =>
      rw [List.nil_append, List.cons_append, List.cons.injEq] at h
      -- the first front would hold the mark
      exact absurd (by simp [h.1]) h₁
    | cons y' x₂ =>
      simp only [List.cons_append, List.cons.injEq] at h
      obtain ⟨rfl, h⟩ := h
      obtain ⟨rfl, hz⟩ := ih (List.not_mem_of_not_mem_cons h₁) (List.not_mem_of_not_mem_cons h₂) h
      exact ⟨rfl, hz⟩

private theorem quote_notMem {s : String} (h : isPlainText s = true) : '"' ∉ s.toList := by
  intro hmem
  have := List.all_eq_true.mp h '"' hmem
  exact absurd this (by decide)

/-- Two attributes with the same text in front of any two others are the same. -/
theorem eq_of_attributeChars_append {v₁ v₂ : Json} (hv₁ : v₁.WellFormed) (hv₂ : v₂.WellFormed)
    {a₁ a₂ r₁ r₂ : List Char} (h₁ : attributeChars v₁ = .ok a₁) (h₂ : attributeChars v₂ = .ok a₂)
    (h : a₁ ++ r₁ = a₂ ++ r₂) : v₁ = v₂ ∧ r₁ = r₂ := by
  cases attributeForm_of_attributeChars h₁ with
  | plain s₁ hs₁ =>
    cases attributeForm_of_attributeChars h₂ with
    | plain s₂ hs₂ =>
      simp only [List.cons_append, List.append_assoc, List.nil_append, List.cons.injEq,
        true_and] at h
      obtain ⟨hs, hr⟩ := append_cons_cancel (quote_notMem hs₁) (quote_notMem hs₂) h
      exact ⟨congrArg Json.str (String.toList_inj.mp hs), hr⟩
    -- a quote and a brace differ in the first character
    | braced hw₂ => simp at h
  | braced hw₁ =>
    cases attributeForm_of_attributeChars h₂ with
    | plain s₂ hs₂ => simp at h
    | braced hw₂ =>
      simp only [List.cons_append, List.append_assoc, List.nil_append, List.cons.injEq,
        true_and] at h
      exact eq_of_writeAt_append hv₁ hv₂ hw₁ hw₂ h

/-- The name of an attribute holds no equals sign. -/
private theorem equals_notMem {key : String} (h : isAttributeName key = true) :
    '=' ∉ key.toList := by
  rw [isAttributeName, isNameOf.eq_def] at h
  cases hkey : key.toList with
  | nil => simp
  | cons c rest =>
    simp only [hkey, Bool.and_eq_true] at h
    intro hmem
    rcases List.mem_cons.mp hmem with rfl | hmem
    · exact absurd h.1 (by decide)
    · exact absurd (List.all_eq_true.mp h.2 '=' hmem) (by decide)

/-! ## Lines -/

/-- The first attribute of an element is emitted, and then the others. -/
theorem attributesChars_cons {key : String} {value : Json} {rest : Bag} {text : List Char}
    (h : attributesChars ((key, value) :: rest) = .ok text) :
    isAttributeName key = true ∧ ∃ first others, attributeChars value = .ok first ∧
      attributesChars rest = .ok others ∧
      text = ' ' :: (key.toList ++ '=' :: (first ++ others)) := by
  rw [attributesChars] at h
  split at h
  · next hkey =>
    obtain ⟨first, hfirst, h⟩ := bind_eq_ok.mp h
    obtain ⟨others, hothers, h⟩ := bind_eq_ok.mp h
    refine ⟨hkey, first, others, mapError_eq_ok.mp hfirst, hothers, ?_⟩
    simp [← pure_eq_ok.mp h]
  · cases h

/-- The attributes of an element are emitted exactly if their names are valid and null stands
nowhere in their values. -/
theorem isOk_attributesChars (bag : Bag) : (attributesChars bag).isOk = true ↔
    ∀ entry ∈ bag, isAttributeName entry.1 = true ∧ entry.2.NullFree := by
  induction bag with
  | nil => simp [attributesChars, pure, Except.pure, Except.isOk, Except.toBool]
  | cons entry rest ih =>
    obtain ⟨key, value⟩ := entry
    rw [List.forall_mem_cons, ← ih, ← isOk_attributeChars, attributesChars]
    -- the first entry decides by its name, then by its value
    by_cases hkey : isAttributeName key = true
    · rw [if_pos hkey]
      cases attributeChars value <;> cases attributesChars rest <;>
        simp [hkey, Except.mapError, bind, Except.bind, pure, Except.pure, Except.isOk,
          Except.toBool]
    · rw [if_neg hkey]
      simp [hkey, throw, throwThe, MonadExceptOf.throw, Except.isOk, Except.toBool]

/-- An attribute without a text has a value without a source. -/
theorem writeAt_of_attributeChars_eq_error {v : Json} {e : WriteError}
    (h : attributeChars v = .error e) : writeAt "" v = .error e := by
  unfold attributeChars at h
  split at h
  · split at h <;> cases h
  · exact bind_pure_eq_error.mp h

/-- Attributes fail at a name that is no attribute name or at a value without a source. -/
theorem exists_of_attributesChars_eq_error {bag : Bag} {e : WriteError}
    (h : attributesChars bag = .error e) :
    (∃ entry ∈ bag, isAttributeName entry.1 = false ∧ e = .invalidAttributeName entry.1) ∨
      ∃ entry ∈ bag, ∃ cause, writeAt "" entry.2 = .error cause ∧ e = cause.below entry.1 := by
  induction bag with
  | nil => cases h
  | cons entry rest ih =>
    obtain ⟨key, value⟩ := entry
    rw [attributesChars] at h
    split at h
    -- the name is one of an attribute, so the value is at fault or a later entry is
    · rcases bind_eq_error.mp h with h | ⟨text, -, h⟩
      · obtain ⟨cause, hcause, rfl⟩ := mapError_eq_error.mp h
        exact .inr ⟨_, List.mem_cons_self .., cause, writeAt_of_attributeChars_eq_error hcause, rfl⟩
      · rcases bind_eq_error.mp h with h | ⟨others, -, h⟩
        · exact (ih h).imp (fun ⟨entry, hentry, he⟩ => ⟨entry, List.mem_cons_of_mem _ hentry, he⟩)
            fun ⟨entry, hentry, he⟩ => ⟨entry, List.mem_cons_of_mem _ hentry, he⟩
        · cases h
    · next hkey =>
      exact .inl ⟨_, List.mem_cons_self .., by simpa using hkey, (Except.error.inj h).symm⟩

/-- Attributes with the same text are the same, in the same order. -/
theorem eq_of_attributesChars {bag₁ bag₂ : Bag} (hbag₁ : Json.WellFormedMembers bag₁)
    (hbag₂ : Json.WellFormedMembers bag₂) {text : List Char}
    (h₁ : attributesChars bag₁ = .ok text) (h₂ : attributesChars bag₂ = .ok text) :
    bag₁ = bag₂ := by
  induction bag₁ generalizing bag₂ text with
  | nil =>
    rw [attributesChars, pure_eq_ok] at h₁
    subst h₁
    cases bag₂ with
    | nil => rfl
    | cons entry rest =>
      obtain ⟨-, first, others, -, -, htext⟩ := attributesChars_cons h₂
      -- an attribute has characters, and the empty text has none
      cases htext
  | cons entry₁ rest₁ ih =>
    obtain ⟨key₁, value₁⟩ := entry₁
    obtain ⟨hkey₁, first₁, others₁, hfirst₁, hothers₁, rfl⟩ := attributesChars_cons h₁
    cases bag₂ with
    | nil => simp [attributesChars, pure, Except.pure] at h₂
    | cons entry₂ rest₂ =>
      obtain ⟨key₂, value₂⟩ := entry₂
      obtain ⟨hkey₂, first₂, others₂, hfirst₂, hothers₂, htext⟩ := attributesChars_cons h₂
      rw [List.cons.injEq] at htext
      -- the keys end at their equals signs, and the values where they are read to the end
      obtain ⟨hkey, hrest⟩ :=
        append_cons_cancel (equals_notMem hkey₁) (equals_notMem hkey₂) htext.2
      obtain ⟨rfl, rfl⟩ := eq_of_attributeChars_append hbag₁.1 hbag₂.1 hfirst₁ hfirst₂ hrest
      rw [String.toList_inj.mp hkey, ih hbag₁.2 hbag₂.2 hothers₁ hothers₂]

theorem markup_eq_ok {typeId line : String} {bag : Bag} (h : markup typeId bag = .ok line) :
    ∃ attributes, attributesChars bag = .ok attributes ∧
      line = String.ofList ('<' :: typeId.toList ++ attributes ++ [' ', '/', '>']) := by
  obtain ⟨attributes, hattributes, h⟩ := bind_eq_ok.mp h
  exact ⟨attributes, hattributes, (pure_eq_ok.mp h).symm⟩

theorem markup_eq_error {typeId : String} {bag : Bag} {e : WriteError} :
    markup typeId bag = .error e ↔ attributesChars bag = .error e :=
  bind_pure_eq_error

/-- Helper: a blank stands behind the type of a line. -/
private theorem exists_blank_cons {bag : Bag} {attributes : List Char}
    (h : attributesChars bag = .ok attributes) :
    ∃ rest, attributes ++ [' ', '/', '>'] = ' ' :: rest := by
  cases bag with
  | nil =>
    rw [attributesChars, pure_eq_ok] at h
    exact h ▸ ⟨_, rfl⟩
  | cons entry rest =>
    obtain ⟨-, first, others, -, -, rfl⟩ := attributesChars_cons h
    exact ⟨_, rfl⟩

/-- Two lines of markup are the same only if their types and their properties are. -/
theorem eq_of_markup {type₁ type₂ line : String} {bag₁ bag₂ : Bag} (htype₁ : ' ' ∉ type₁.toList)
    (htype₂ : ' ' ∉ type₂.toList) (hbag₁ : Json.WellFormedMembers bag₁)
    (hbag₂ : Json.WellFormedMembers bag₂) (h₁ : markup type₁ bag₁ = .ok line)
    (h₂ : markup type₂ bag₂ = .ok line) : type₁ = type₂ ∧ bag₁ = bag₂ := by
  obtain ⟨attributes₁, hattributes₁, hline₁⟩ := markup_eq_ok h₁
  obtain ⟨attributes₂, hattributes₂, hline₂⟩ := markup_eq_ok h₂
  obtain ⟨rest₁, hrest₁⟩ := exists_blank_cons hattributes₁
  obtain ⟨rest₂, hrest₂⟩ := exists_blank_cons hattributes₂
  have hline := String.ofList_injective (hline₁.symm.trans hline₂)
  rw [List.cons_append, List.cons_append, List.cons_append, List.cons_append, List.append_assoc,
    List.append_assoc, hrest₁, hrest₂, List.cons.injEq] at hline
  obtain ⟨htype, hrest⟩ := append_cons_cancel htype₁ htype₂ hline.2
  -- what is left ends in the same three characters
  have hattributes : attributes₁ = attributes₂ := by
    rw [← hrest, ← hrest₁] at hrest₂
    exact (List.append_cancel_right hrest₂).symm
  subst hattributes
  exact ⟨String.toList_inj.mp htype, eq_of_attributesChars hbag₁ hbag₂ hattributes₁ hattributes₂⟩

/-- Markup loses nothing, and no value can forge another attribute: every value without null is
read back from its attribute; a line is emitted exactly for valid names and values without null;
and a line tells the type, if no blank stands in it, and the properties in their order. -/
theorem markup_lossless :
    (∀ v : Json, v.WellFormed → v.NullFree →
      ∃ text, attributeText v = .ok text ∧ readAttribute text = .ok v) ∧
    (∀ (typeId : String) (bag : Bag), (∃ line, markup typeId bag = .ok line) ↔
      ∀ entry ∈ bag, isAttributeName entry.1 = true ∧ entry.2.NullFree) ∧
    (∀ (type₁ type₂ line : String) (bag₁ bag₂ : Bag), ' ' ∉ type₁.toList → ' ' ∉ type₂.toList →
      Json.WellFormedMembers bag₁ → Json.WellFormedMembers bag₂ →
      markup type₁ bag₁ = .ok line → markup type₂ bag₂ = .ok line →
      type₁ = type₂ ∧ bag₁ = bag₂) := by
  refine ⟨?readBack, ?emitted, ?line⟩
  case readBack =>
    intro v hv hnull
    -- writing fails at a null and nowhere else
    have hok := (isOk_attributeChars v).mpr hnull
    cases hchars : attributeChars v with
    | error e =>
      rw [hchars] at hok
      cases hok
    | ok chars =>
      have htext : attributeText v = .ok (String.ofList chars) := by
        rw [attributeText, hchars]
        rfl
      exact ⟨_, htext, readAttribute_attributeText hv htext⟩
  case emitted =>
    intro typeId bag
    rw [← isOk_attributesChars, markup]
    cases attributesChars bag <;>
      simp [bind, Except.bind, pure, Except.pure, Except.isOk, Except.toBool]
  -- the attributes of a line end at its closing marks, and each of them where the next one starts
  case line =>
    intro type₁ type₂ line bag₁ bag₂ htype₁ htype₂ hbag₁ hbag₂ h₁ h₂
    exact eq_of_markup htype₁ htype₂ hbag₁ hbag₂ h₁ h₂

/-- A text that tries to end its attribute and to open another one is read back as it is, and its
line is not the one of the attributes that it tries to forge. -/
theorem markup_lossless_of_quotes :
    let v : Json := .str "a\" b=\x7b1\x7d"
    let bag : Bag := [("title", v), ("level", .int 2)]
    let forged : Bag := [("title", .str "a"), ("b", .int 1), ("level", .int 2)]
    (v.WellFormed ∧ v.NullFree ∧ ∃ text, attributeText v = .ok text ∧ readAttribute text = .ok v) ∧
    ' ' ∉ "Card".toList ∧ Json.WellFormedMembers bag ∧ Json.WellFormedMembers forged ∧
    markup "Card" bag = .ok "<Card title=\x7b\"a\\\" b=\x7b1\x7d\"\x7d level=\x7b2\x7d />" ∧
    ∃ line, markup "Card" forged = .ok line ∧
      line ≠ "<Card title=\x7b\"a\\\" b=\x7b1\x7d\"\x7d level=\x7b2\x7d />" := by
  intro v bag forged
  have hv : v.WellFormed := trivial
  have hnull : v.NullFree := trivial
  have htype : ' ' ∉ "Card".toList := by decide
  have hbag : Json.WellFormedMembers bag := ⟨hv, by decide, trivial⟩
  have hforged : Json.WellFormedMembers forged := ⟨trivial, by decide, by decide, trivial⟩
  have hline : markup "Card" bag =
      .ok "<Card title=\x7b\"a\\\" b=\x7b1\x7d\"\x7d level=\x7b2\x7d />" := by decide +kernel
  obtain ⟨hread, hemitted, hsame⟩ := markup_lossless
  obtain ⟨line, hforgedLine⟩ := (hemitted "Card" forged).mpr (by decide)
  refine ⟨⟨hv, hnull, hread v hv hnull⟩, htype, hbag, hforged, hline, line, hforgedLine, ?_⟩
  -- from one line for both the properties would be the same
  rintro rfl
  obtain ⟨-, hequal⟩ := hsame "Card" "Card" _ bag forged htype htype hbag hforged hline hforgedLine
  cases congrArg List.length hequal

end ComponentCanvas.Property
