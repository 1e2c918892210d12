import ComponentCanvas.Proofs.Script.Tokens
import ComponentCanvas.Script.Parser

/-!
# Running Parsers

The equations by which a parser is run on a cursor, and the cursors that stand at the first token
of a given text.  Such a cursor moves to the text behind its token, and it leaves room for the
steps of a repetition over that text.
-/

namespace ComponentCanvas.Script

open Text (byteSize)

/-! ## Gaps between tokens -/

/-- A visible ASCII character that opens neither a comment nor an interpreter line. -/
def IsVisible (c : Char) : Prop := 0x20 < c.toNat ∧ c.toNat < 0x7F ∧ c ≠ '/' ∧ c ≠ '#'

instance (c : Char) : Decidable (IsVisible c) :=
  inferInstanceAs (Decidable (0x20 < c.toNat ∧ c.toNat < 0x7F ∧ c ≠ '/' ∧ c ≠ '#'))

theorem isVisible_of_isAsciiDigit {c : Char} (h : Text.isAsciiDigit c = true) : IsVisible c := by
  have hc := mem_digits_of_isAsciiDigit h
  simp only [List.mem_cons, List.not_mem_nil, or_false] at hc
  rcases hc with rfl | rfl | rfl | rfl | rfl | rfl | rfl | rfl | rfl | rfl <;> decide

/-- The first character of a name is neither blank nor the start of a comment. -/
theorem isVisible_of_isNameStart {c : Char} (h : Property.isNameStart c = true) : IsVisible c := by
  simp only [Property.isNameStart, Text.isAsciiLetter, Bool.or_eq_true, Bool.and_eq_true,
    decide_eq_true_eq, beq_iff_eq, Char.le_def, UInt32.le_iff_toNat_le] at h
  -- small letters, capital letters, and the two other characters
  rcases h with ((⟨h1, h2⟩ | ⟨h1, h2⟩) | rfl) | rfl
  · refine ⟨lt_of_lt_of_le (by decide) h1, lt_of_le_of_lt h2 (by decide), ?_, ?_⟩ <;>
    · rintro rfl
      exact absurd h1 (by decide)
  · refine ⟨lt_of_lt_of_le (by decide) h1, lt_of_le_of_lt h2 (by decide), ?_, ?_⟩ <;>
    · rintro rfl
      exact absurd h1 (by decide)
  · decide
  · decide

/-- A text that opens with a token, with no blank, comment or fault in front of it. -/
structure Starts (text : List Char) : Prop where
  head : ∀ c ∈ text.head?, IsVisible c
  fault : (scanToken text).fault = none

theorem starts_cons {c : Char} {r : List Char} (h : IsVisible c)
    (hfault : (scanToken (c :: r)).fault = none) : Starts (c :: r) :=
  ⟨by simpa using h, hfault⟩

/-- Nothing is skipped in front of a token. -/
theorem skipGap_of_starts {text : List Char} (h : Starts text) (size : Nat) :
    skipGap .code size false text = ⟨size, false, text, false⟩ := by
  cases text with
  | nil => rfl
  | cons c r =>
    obtain ⟨hlow, hhigh, hslash, -⟩ := h.head c (by simp)
    -- blanks, line ends and marks of byte order are no visible characters
    have hne : ∀ n, ¬(0x20 < n ∧ n < 0x7F) → c.toNat ≠ n := by
      rintro _ hn rfl
      exact hn ⟨hlow, hhigh⟩
    have heq : ∀ d : Char, ¬(0x20 < d.toNat ∧ d.toNat < 0x7F) → c ≠ d := by
      rintro _ hn rfl
      exact hn ⟨hlow, hhigh⟩
    -- so the character is neither a line end nor a blank, and no comment begins with it
    have hline : isLineEnd c = false := by
      simp [isLineEnd, heq '\n' (by decide), heq '\r' (by decide), hne]
    have hblank : isInlineBlank c = false := by
      simp [isInlineBlank, heq ' ' (by decide), heq '\t' (by decide), hne]
      omega
    unfold skipGap
    split <;> simp_all

theorem skipGap_blank {text : List Char} (h : Starts text) :
    skipGap .code 0 false (' ' :: text) = ⟨1, false, text, false⟩ :=
  skipGap_of_starts h 1

namespace Parser

variable {α β : Type}

/-! ## Parsers as functions of the cursor -/

@[simp] theorem pure_apply (a : α) (c : Cursor) : (pure a : Parser α) c = .ok (a, c) := rfl

theorem bind_apply (p : Parser α) (f : α → Parser β) (c : Cursor) :
    (p >>= f) c = match p c with
      | .ok (a, c') => f a c'
      | .error e => .error e := by
  show Except.bind (p c) _ = _
  cases p c <;> rfl

theorem bind_of_ok {p : Parser α} {f : α → Parser β} {c c' : Cursor} {a : α}
    (h : p c = .ok (a, c')) : (p >>= f) c = f a c' := by
  rw [bind_apply, h]

@[simp] theorem ite_apply (b : Prop) [Decidable b] (p q : Parser α) (c : Cursor) :
    (if b then p else q) c = if b then p c else q c := by
  split <;> rfl

@[simp] theorem get_apply (c : Cursor) : (get : Parser Cursor) c = .ok (c, c) := rfl

@[simp] theorem token_apply (c : Cursor) : token c = .ok (c.token, c) := rfl

@[simp] theorem position_apply (c : Cursor) : position c = .ok (c.start, c) := rfl

@[simp] theorem context_apply (c : Cursor) : context c = .ok (c.context, c) := rfl

@[simp] theorem typed_apply (c : Cursor) : typed c = .ok (c.context.typed, c) := rfl

@[simp] theorem onNewLine_apply (c : Cursor) : onNewLine c = .ok (c.newline, c) := rfl

@[simp] theorem next_apply (c : Cursor) : next c = .ok ((), c.advance) := rfl

@[simp] theorem bound_apply (c : Cursor) : bound c = .ok (c.size + 2 - c.start, c) := rfl

@[simp] theorem atPunct_apply (text : String) (c : Cursor) :
    atPunct text c = .ok (c.token.isPunct text, c) := rfl

@[simp] theorem atWord_apply (name : String) (c : Cursor) :
    atWord name c = .ok (c.token.isWord name, c) := rfl

@[simp] theorem eatPunct_apply (text : String) (c : Cursor) :
    eatPunct text c =
      if c.token.isPunct text then .ok (true, c.advance) else .ok (false, c) := by
  rw [eatPunct, bind_of_ok (atPunct_apply text c)]
  split <;> rfl

@[simp] theorem finish_apply (start : Nat) (form : ExprForm) (c : Cursor) :
    finish start form c = .ok (.mk ⟨start, c.previous⟩ form, c) := rfl

@[simp] theorem map_apply (f : α → β) (p : Parser α) (c : Cursor) :
    (f <$> p) c = match p c with
      | .ok (a, c') => .ok (f a, c')
      | .error e => .error e := by
  show Except.bind (p c) _ = _
  cases p c <;> rfl

/-- A repetition whose next step ends it. -/
theorem iterate_of_inr {σ : Type} {step : σ → Parser (σ ⊕ α)} {state : σ} {result : α}
    {c c' : Cursor} (h : step state c = .ok (.inr result, c')) {n : Nat} (hn : n ≠ 0) :
    iterate step n state c = .ok (result, c') := by
  obtain ⟨n, rfl⟩ := Nat.exists_eq_succ_of_ne_zero hn
  rw [iterate, bind_of_ok h]
  rfl

/-! ## Cursors at a text -/

/-- A cursor at the first token of a text, in a script without types and without a fault so far. -/
structure At (c : Cursor) (text : List Char) : Prop where
  untyped : c.context.typed = false
  token : c.token = (scanToken text).token
  stop : c.stop = c.start + (scanToken text).size
  rest : c.rest = (scanToken text).rest
  faults : c.faults = []
  pending : c.pending = []
  room : c.start + byteSize text ≤ c.size

variable {c : Cursor}

/-- The cursor at the start of a text that opens with a token. -/
theorem at_atStart {text : List Char} (h : Starts text) : At (Cursor.atStart false text) text := by
  -- a text that opens with `#` might be an interpreter line, and such a text opens no token
  have hline : skipInterpreterLine text = (text, 0) := by
    rw [skipInterpreterLine.eq_def]
    split
    · next rest =>
      exact absurd rfl (h.head '#' rfl).2.2.2
    · rfl
  have hskip := skipGap_of_starts h 0
  constructor <;> simp [Cursor.atStart, Cursor.advance, Cursor.place, hline, hskip, h.fault]

theorem At.start_le_size {text : List Char} (h : At c text) : c.start ≤ c.size :=
  Nat.le_of_add_right_le h.room

/-- The next token stands behind the text of this one, with at most a blank between them. -/
theorem At.advance {t rest next : List Char} {tok : Token} (h : At c (t ++ rest))
    (hscan : scanToken (t ++ rest) = ⟨tok, byteSize t, rest, none⟩)
    (hgap : rest = next ∨ rest = ' ' :: next) (hnext : Starts next) : At c.advance next := by
  obtain ⟨huntyped, -, hstop, hrest, hfaults, hpending, hroom⟩ := h
  rw [hscan] at hstop hrest
  -- skipping moves the start by as many bytes as it takes from the text
  have hskip : ∃ n, skipGap .code 0 false c.rest = ⟨n, false, next, false⟩ ∧
      n + byteSize next = byteSize rest := by
    rcases hgap with rfl | rfl
    · exact ⟨0, by rw [hrest]; exact skipGap_of_starts hnext 0, by simp⟩
    · refine ⟨1, by rw [hrest]; exact skipGap_blank hnext, ?_⟩
      rw [byteSize]
      rfl
  obtain ⟨n, hn, hsize⟩ := hskip
  rw [byteSize_append] at hroom
  simp only at hstop
  -- the cursor stands at what is behind the gap, with the same bytes left
  constructor <;> simp only [Cursor.advance, Cursor.place, hn, hnext.fault]
  · exact huntyped
  · simpa using hfaults
  · exact hpending
  · omega

end Parser

end ComponentCanvas.Script
