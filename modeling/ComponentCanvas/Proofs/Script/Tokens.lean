import ComponentCanvas.Proofs.Decimal.Spelling
import ComponentCanvas.Proofs.Text.Pieces
import ComponentCanvas.Property.Writing
import ComponentCanvas.Script.Lexer

/-!
# Tokens of Written Values

What the writer of property values emits is read back token by token: a string in quotes, a bare
key, a spelled number and a minus in front of one each form a single token, whatever delimiter
stands behind them.  Inside a string the argument goes character by character, for each character
is written by itself, behind a backslash or by its four digits.
-/

namespace ComponentCanvas.Script

open Decimal (Spelling IsMark)
open Text (isAsciiDigit isIdentifierStart isIdentifierPart byteSize takeWhile_append_of_head)

/-- What stands behind a token of a written value: nothing, a bracket that closes, a comma, a
colon or a blank. -/
def IsDelimited (rest : List Char) : Prop := ∀ c ∈ rest.head?, c ∈ [',', ']', '\x7d', ':', ' ']

/-- The digits one by one, for facts that are decided. -/
theorem mem_digits_of_isAsciiDigit {c : Char} (h : isAsciiDigit c = true) :
    c ∈ ['0', '1', '2', '3', '4', '5', '6', '7', '8', '9'] := by
  have hb : 48 ≤ c.toNat ∧ c.toNat ≤ 57 := by
    simpa [isAsciiDigit, Char.le_def, UInt32.le_iff_toNat_le] using h
  obtain ⟨h1, h2⟩ := hb
  -- the ten codes one by one
  rw [← Char.ofNat_toNat c]
  generalize c.toNat = n at h1 h2
  interval_cases n <;> decide

/-! ## Runs of characters -/

theorem byteSize_append (s t : List Char) : byteSize (s ++ t) = byteSize s + byteSize t := by
  induction s with
  | nil => simp [byteSize]
  | cons c s ih => rw [List.cons_append, byteSize, byteSize, ih, Nat.add_assoc]

theorem ne_underscore_of_isAsciiDigit {c : Char} (h : isAsciiDigit c = true) : c ≠ '_' := by
  rintro rfl
  exact absurd h (by decide)

/-- Digits without underscores are one piece, so they are taken whole. -/
theorem separatedDigits_append {ds rest : List Char} (hd : ∀ c ∈ ds, isAsciiDigit c = true)
    (hr : ∀ c ∈ rest.head?, isAsciiDigit c = false ∧ c ≠ '_') :
    separatedDigits isAsciiDigit (ds ++ rest) = some (ds, rest) := by
  obtain ⟨htake, hdrop⟩ := takeWhile_append_of_head (p := fun c => isAsciiDigit c || c == '_')
    (fun c hc => by simp [hd c hc]) (fun c hc => by simp [hr c hc])
  rw [separatedDigits, htake, hdrop,
    Text.splitBy_eq_singleton fun c hc => by simpa using ne_underscore_of_isAsciiDigit (hd c hc)]
  cases ds <;> simp

theorem filter_underscore {ds : List Char} (hd : ∀ c ∈ ds, isAsciiDigit c = true) :
    ds.filter (· != '_') = ds :=
  List.filter_eq_self.mpr fun c hc => by simpa using ne_underscore_of_isAsciiDigit (hd c hc)

/-! ## Numbers -/

/-- No delimiter goes on with the token in front of it. -/
theorem head_of_isDelimited {rest : List Char} (h : IsDelimited rest) :
    ∀ c ∈ rest.head?, isIdentifierPart c = false ∧ isIdentifierStart c = false ∧
      isAsciiDigit c = false ∧ c ≠ '_' ∧ c ≠ '.' ∧ c ≠ 'e' ∧ c ≠ 'E' ∧ c ≠ 'n' ∧ c ≠ '\\' := by
  intro c hc
  have := h c hc
  simp only [List.mem_cons, List.not_mem_nil, or_false] at this
  rcases this with rfl | rfl | rfl | rfl | rfl <;> decide

/-- An exponent mark is read as it counts. -/
theorem readExponentPart_mark {mark rest : List Char} {exponent : ℤ} (h : IsMark mark exponent)
    (hr : IsDelimited rest) :
    readExponentPart (mark ++ rest) = some (exponent, mark, rest) := by
  -- the digits end at the delimiter
  have hdigits (n : ℕ) : separatedDigits isAsciiDigit (Decimal.digitsOf n ++ rest) =
      some (Decimal.digitsOf n, rest) :=
    separatedDigits_append (fun c => Decimal.isAsciiDigit_of_mem_digitsOf)
      fun c hc => ⟨(head_of_isDelimited hr c hc).2.2.1, (head_of_isDelimited hr c hc).2.2.2.1⟩
  have hvalue (n : ℕ) : Json.digitsValue ((Decimal.digitsOf n).filter (· != '_')) = n := by
    rw [filter_underscore fun c => Decimal.isAsciiDigit_of_mem_digitsOf,
      Decimal.digitsValue_digitsOf]
  have hne (n : ℕ) : Decimal.digitsOf n ≠ [] := Nat.toDigits_ne_nil
  cases h with
  | none =>
    -- without a mark the reader looks at the delimiter, which is no `e`
    cases rest with
    | nil => rfl
    | cons c r =>
      obtain ⟨-, -, -, -, -, he, hE, -⟩ := head_of_isDelimited hr c (by simp)
      simp [readExponentPart, he, hE]
  | up n => simp [readExponentPart, hdigits, hvalue, hne]
  | down n => simp [readExponentPart, hdigits, hvalue, hne]

/-- Helper: what stands behind the digits of a number is no digit. -/
private theorem head_mark {mark rest : List Char} {exponent : ℤ} (h : IsMark mark exponent)
    (hr : IsDelimited rest) : ∀ c ∈ (mark ++ rest).head?, isAsciiDigit c = false ∧
      c ∉ ['.', '_', 'n', 'x', 'X', 'o', 'O', 'b', 'B'] := by
  intro c hc
  cases h with
  -- without an exponent the text behind the number decides
  | none =>
    have := hr c (by simpa using hc)
    simp only [List.mem_cons, List.not_mem_nil, or_false] at this
    rcases this with rfl | rfl | rfl | rfl | rfl <;> decide
  | up n =>
    obtain rfl : 'e' = c := by simpa using hc
    decide
  | down n =>
    obtain rfl : 'e' = c := by simpa using hc
    decide

/-- Helper: what stands behind the whole digits of a number is no digit. -/
private theorem head_tail (s : Spelling) {rest : List Char} (hr : IsDelimited rest) :
    ∀ c ∈ (s.tail ++ rest).head?, isAsciiDigit c = false ∧
      c ∉ ['_', 'n', 'x', 'X', 'o', 'O', 'b', 'B'] := by
  intro c hc
  rw [Spelling.tail] at hc
  by_cases hp : s.point = true
  · obtain rfl : '.' = c := by simpa [hp] using hc
    decide
  · have := head_mark s.isMark hr c (by simpa [hp] using hc)
    exact ⟨this.1, fun h => this.2 (List.mem_cons_of_mem _ h)⟩

/-- A spelled number is read as its text and its decimal. -/
theorem scanDecimal_spelling (s : Spelling) {rest : List Char} (hr : IsDelimited rest) :
    scanDecimal (s.text ++ rest) =
      ⟨.number (String.ofList s.text) s.decimal.toFloat, byteSize s.text, rest, none⟩ := by
  have hhead := head_tail s hr
  have hwhole : separatedDigits isAsciiDigit (s.text ++ rest) = some (s.whole, s.tail ++ rest) := by
    rw [Spelling.text, List.append_assoc]
    exact separatedDigits_append (fun c hc => s.isDigit c (by simp [hc]))
      fun c hc => ⟨(hhead c hc).1, fun h => (hhead c hc).2 (by simp [h])⟩
  have hmark := readExponentPart_mark s.isMark hr
  have hmarkHead := head_mark s.isMark hr
  -- digits are read up to what is neither a digit nor an underscore
  have hfraction : separatedDigits isAsciiDigit (s.fraction ++ (s.mark ++ rest)) =
      some (s.fraction, s.mark ++ rest) :=
    separatedDigits_append (fun c hc => s.isDigit c (by simp [hc]))
      fun c hc => ⟨(hmarkHead c hc).1, fun h => (hmarkHead c hc).2 (by simp [h])⟩
  have hfilterWhole := filter_underscore fun c hc => s.isDigit c (List.mem_append_left _ hc)
  have hfilterFraction := filter_underscore fun c hc => s.isDigit c (List.mem_append_right _ hc)
  rw [scanDecimal, hwhole]
  -- the digits behind the point are read only if there is a point
  by_cases hp : s.point = true
  · have htail : s.tail ++ rest = '.' :: (s.fraction ++ (s.mark ++ rest)) := by
      simp [Spelling.tail, hp]
    have htext : s.text = s.whole ++ ['.'] ++ s.fraction ++ s.mark := by
      simp [Spelling.text, Spelling.tail, hp]
    rw [htail]
    simp [hfraction, hmark, hfilterWhole, hfilterFraction, htext, Spelling.decimal]
  · -- the reader goes straight to the mark, and the point of the text is no part of it
    have hempty : s.fraction = [] := s.fraction_eq (by simpa using hp)
    have htail : s.tail ++ rest = s.mark ++ rest := by simp [Spelling.tail, hp]
    have htext : s.text = s.whole ++ [] ++ [] ++ s.mark := by
      simp [Spelling.text, Spelling.tail, hp]
    have hdecimal : s.decimal =
        ⟨Json.digitsValue (s.whole ++ []), s.exponent - ([] : List Char).length⟩ := by
      rw [Spelling.decimal, hempty]
    rw [htail]
    generalize hm : s.mark ++ rest = t at hmark hmarkHead
    cases t with
    | nil =>
      dsimp only
      rw [hmark]
      simp [hfilterWhole, htext, hdecimal]
    | cons c r =>
      have := (hmarkHead c (by simp)).2
      simp only [List.mem_cons, List.not_mem_nil, or_false, not_or] at this
      obtain ⟨hpoint, -, hn, -⟩ := this
      simp [hmark, hfilterWhole, htext, hdecimal, hpoint, hn]

/-- A spelled number is a number token. -/
theorem scanNumber_spelling (s : Spelling) {rest : List Char} (hr : IsDelimited rest) :
    scanNumber (s.text ++ rest) =
      ⟨.number (String.ofList s.text) s.decimal.toFloat, byteSize s.text, rest, none⟩ := by
  have hdecimal := scanDecimal_spelling s hr
  -- no other base and no legacy octal: what is left is the decimal and the check behind it
  have hscan : scanNumber (s.text ++ rest) =
      match rest with
      | c :: _ =>
        if isIdentifierStart c || isAsciiDigit c then
          { scanDecimal (s.text ++ rest) with fault := some .invalidNumber }
        else scanDecimal (s.text ++ rest)
      | [] => scanDecimal (s.text ++ rest) := by
    rcases s.leading with hzero | hhead
    · -- a leading zero opens no other base, for no letter follows it
      have htext : s.text ++ rest = '0' :: (s.tail ++ rest) := by simp [Spelling.text, hzero]
      have hnext := head_tail s hr
      rw [htext] at hdecimal ⊢
      generalize s.tail ++ rest = t at hnext hdecimal
      cases t with
      | nil => cases rest <;> simp [scanNumber, hdecimal]
      | cons c r =>
        obtain ⟨hdigit, hc⟩ := hnext c (by simp)
        simp only [List.mem_cons, List.not_mem_nil, or_false, not_or] at hc
        cases rest <;> simp [scanNumber, hc, hdigit, hdecimal]
    · -- only a leading zero can open another base
      obtain ⟨d, ds, hwhole⟩ := List.exists_cons_of_ne_nil s.whole_ne
      have hd : d ≠ '0' := by simpa [hwhole] using hhead
      have htext : s.text ++ rest = d :: (ds ++ s.tail ++ rest) := by simp [Spelling.text, hwhole]
      rw [htext] at hdecimal ⊢
      generalize ds ++ s.tail ++ rest = t at hdecimal
      cases rest <;> simp [scanNumber, hd, hdecimal]
  rw [hscan, hdecimal]
  cases rest with
  | nil => rfl
  | cons c r =>
    obtain ⟨-, hstart, hdigit, -⟩ := head_of_isDelimited hr c (by simp)
    -- a delimiter is no letter and no digit, so the check is passed
    simp [hstart, hdigit]

/-! ## Strings -/

private theorem hexValue?_hexDigit {k : ℕ} (h : k < 16) :
    Json.hexValue? (Json.hexDigit k) = some k := by
  revert k
  decide

/-- Helper: hexadecimal digits are no marks of a string. -/
private theorem hexDigit_notMem (n : ℕ) :
    Json.hexDigit (n % 16) ∉ ['\\', '"', '\n', '\r', '\x7b'] := by
  have h : ∀ k < 16, Json.hexDigit k ∉ ['\\', '"', '\n', '\r', '\x7b'] := by decide
  exact h _ (Nat.mod_lt n (by decide))

/-- How a character stands in a string: for itself, behind a backslash, or by its four digits. -/
inductive Escaped : Char → List Char → Prop
  | plain {c : Char} (h : c ∉ ['\\', '"', '\n', '\r']) : Escaped c [c]
  | letter {c d : Char} (h : d ∈ ['\\', '"', 'n', 'r', 't'])
      (hread : ∀ r, readEscape true (d :: r) = some (some (.char c), r)) : Escaped c ['\\', d]
  | digits {c : Char} (h : c.toNat < 0xD800) : Escaped c (Json.unicodeEscape c.toNat)

/-- The writer of strings lets every character stand in one of the three ways. -/
theorem escapeChar_escaped (c : Char) : Escaped c (Property.escapeChar c) := by
  -- five characters have escapes of one letter, control characters their code, all others
  -- themselves
  unfold Property.escapeChar
  split
  · exact .letter (by decide) fun r => rfl
  · exact .letter (by decide) fun r => rfl
  · exact .letter (by decide) fun r => rfl
  · exact .letter (by decide) fun r => rfl
  · exact .letter (by decide) fun r => rfl
  · split
    · next h =>
      refine .digits ?_
      simp at h
      omega
    · exact .plain (by simp_all)

theorem readHex4_unicodeEscape {n : ℕ} (h : n < 0x10000) (r : List Char) :
    Json.readHex4 (Json.hexDigit (n / 4096 % 16) :: Json.hexDigit (n / 256 % 16) ::
      Json.hexDigit (n / 16 % 16) :: Json.hexDigit (n % 16) :: r) = some (n, r) := by
  have hlt (k : ℕ) : k % 16 < 16 := Nat.mod_lt k (by decide)
  simp only [Json.readHex4, hexValue?_hexDigit (hlt _), Option.bind_eq_bind, Option.bind_some,
    Option.some.injEq, Prod.mk.injEq, and_true]
  omega

/-- The escape of a character below the surrogates is read back. -/
theorem readEscape_unicodeEscape {c : Char} (h : c.toNat < 0xD800) (r : List Char) :
    readEscape true ((Json.unicodeEscape c.toNat).tail ++ r) = some (some (.char c), r) := by
  have hhex := readHex4_unicodeEscape (by omega : c.toNat < 0x10000) r
  have hbrace : Json.hexDigit (c.toNat / 4096 % 16) ≠ '\x7b' := fun hc =>
    hexDigit_notMem (c.toNat / 4096) (by rw [hc]; decide)
  have hunit : readUnit (Json.hexDigit (c.toNat / 4096 % 16) ::
      Json.hexDigit (c.toNat / 256 % 16) :: Json.hexDigit (c.toNat / 16 % 16) ::
      Json.hexDigit (c.toNat % 16) :: r) = some (c.toNat, r) := by
    rw [← hhex]
    unfold readUnit
    split
    · next heq => exact absurd (List.cons.inj heq).1 hbrace
    · rfl
  -- below the surrogates the unit is the whole character
  have hlow : ¬(0xD800 ≤ c.toNat) := by omega
  show Option.map _ (readUnicodePiece (_ :: _ :: _ :: _ :: r)) = _
  rw [readUnicodePiece, hunit]
  simp [hlow, Piece.ofCode, Char.ofNat_toNat]

/-- A written string ends at its closing quote. -/
theorem closeString_escaped (s rest : List Char) :
    closeString '"' (Property.escaped s ++ '"' :: rest) = some (Property.escaped s, rest) := by
  induction s with
  | nil => rfl
  | cons c s ih =>
    have hc := escapeChar_escaped c
    rw [Property.escaped, List.flatMap_cons, ← Property.escaped, List.append_assoc]
    -- neither way of standing in a string leaves a bare quote for the reader to stop at
    generalize Property.escaped s ++ '"' :: rest = t at ih
    generalize Property.escapeChar c = e at hc
    cases hc with
    | plain h =>
      simp only [List.mem_cons, List.not_mem_nil, or_false, not_or] at h
      simp [closeString, h, ih]
    | letter h hread =>
      rename_i d
      have hd : d ≠ '\r' := by
        rintro rfl
        exact absurd h (by decide)
      simp [closeString, hd, ih]
    | digits h =>
      have h1 := hexDigit_notMem (c.toNat / 4096)
      have h2 := hexDigit_notMem (c.toNat / 256)
      have h3 := hexDigit_notMem (c.toNat / 16)
      have h4 := hexDigit_notMem c.toNat
      simp only [List.mem_cons, List.not_mem_nil, or_false, not_or] at h1 h2 h3 h4
      simp [closeString, Json.unicodeEscape, h1, h2, h3, h4, ih]

/-- A written string stands for the characters it was written from. -/
theorem unescape_escaped (s : List Char) (fuel : ℕ) (h : (Property.escaped s).length < fuel) :
    unescape true fuel (Property.escaped s) = some (s.map .char) := by
  -- an escape uses one unit of fuel and at least one character of the text
  induction s generalizing fuel with
  | nil =>
    obtain ⟨n, rfl⟩ : ∃ n, fuel = n + 1 := ⟨fuel - 1, by omega⟩
    rfl
  | cons c s ih =>
    obtain ⟨n, rfl⟩ : ∃ n, fuel = n + 1 := ⟨fuel - 1, by omega⟩
    have hc := escapeChar_escaped c
    rw [Property.escaped, List.flatMap_cons, ← Property.escaped] at h ⊢
    generalize Property.escapeChar c = e at hc h
    rw [List.length_append] at h
    cases hc with
    | plain hp =>
      simp only [List.mem_cons, List.not_mem_nil, or_false, not_or] at hp
      simp only [List.length_singleton] at h
      simp [unescape, hp, ih n (by omega)]
    | letter hd hread =>
      simp only [List.length_cons] at h
      simp [unescape, hread, ih n (by omega)]
    | digits hlow =>
      -- a numbered escape is read as a whole
      have hread := readEscape_unicodeEscape hlow (Property.escaped s)
      have hcons : Json.unicodeEscape c.toNat = '\\' :: (Json.unicodeEscape c.toNat).tail := rfl
      rw [hcons, List.length_cons] at h
      rw [hcons, List.cons_append, unescape]
      simp [hread, ih n (by omega)]

/-- Whole characters are put together without looking for pairs of surrogates. -/
theorem textOfPieces_map_char (s : List Char) : textOfPieces (s.map .char) = s := by
  have hany : (s.map Piece.char).any Piece.isSurrogate = false := by simp [Piece.isSurrogate]
  rw [textOfPieces, hany]
  simp [List.filterMap_map]

/-- A string in quotes is read as the string. -/
theorem scanToken_quoted (s : String) (rest : List Char) :
    scanToken (Property.quoted s ++ rest) =
      ⟨.string s, byteSize (Property.quoted s), rest, none⟩ := by
  -- the closing quote is found first, and then the characters between the quotes are read
  have hclose := closeString_escaped s.toList rest
  have hpieces := unescape_escaped s.toList _ (Nat.lt_succ_self _)
  have htext : Property.quoted s ++ rest =
      '"' :: (Property.escaped s.toList ++ '"' :: rest) := by simp [Property.quoted]
  have hscan : scanToken ('"' :: (Property.escaped s.toList ++ '"' :: rest)) =
      scanString '"' (Property.escaped s.toList ++ '"' :: rest) := rfl
  rw [htext, hscan, scanString, hclose]
  dsimp only
  rw [hpieces]
  dsimp only
  rw [textOfPieces_map_char, String.ofList_toList]
  have hsize : byteSize (Property.quoted s) = byteSize (Property.escaped s.toList) + 2 := by
    have hquote : '"'.utf8Size = 1 := rfl
    simp only [Property.quoted, List.cons_append, byteSize, byteSize_append, hquote]
    omega
  rw [hsize]

/-! ## Words and numbers -/

theorem isIdentifierPart_of_isNamePart {c : Char} (h : Property.isNamePart c = true) :
    isIdentifierPart c = true := by
  simp only [Property.isNamePart, Property.isNameStart, Bool.or_eq_true] at h
  simp only [isIdentifierPart, Bool.or_eq_true]
  tauto

theorem isIdentifierStart_of_isNameStart {c : Char} (h : Property.isNameStart c = true) :
    isIdentifierStart c = true := by
  simp only [Property.isNameStart, Bool.or_eq_true] at h
  simp only [isIdentifierStart, Bool.or_eq_true]
  tauto

/-- A bare key is read as a word. -/
theorem scanToken_bareKey (key : String) (h : Property.isBareKey key = true) {rest : List Char}
    (hr : IsDelimited rest) :
    scanToken (key.toList ++ rest) = ⟨.word key false, byteSize key.toList, rest, none⟩ := by
  rw [Property.isBareKey] at h
  cases hk : key.toList with
  | nil => simp [hk, Property.isNameOf] at h
  | cons c ds =>
    rw [hk, Property.isNameOf, Bool.and_eq_true, List.all_eq_true] at h
    obtain ⟨hc, hds⟩ := h
    -- names of the writer are words of the reader
    have hstart := isIdentifierStart_of_isNameStart hc
    have hpart : ∀ d ∈ c :: ds, isIdentifierPart d = true := by
      intro d hd
      rcases List.mem_cons.mp hd with rfl | hd
      · exact isIdentifierPart_of_isNamePart (by simp [Property.isNamePart, hc])
      · exact isIdentifierPart_of_isNamePart (hds d hd)
    -- the word ends where the key does
    have hstop : ∀ d ∈ rest.head?, isIdentifierPart d = false :=
      fun d hd => (head_of_isDelimited hr d hd).1
    obtain ⟨htake, hdrop⟩ := takeWhile_append_of_head hpart hstop
    -- a backslash behind the word would start an escape
    have hslash : rest.head? ≠ some '\\' := fun hs =>
      (head_of_isDelimited hr '\\' (by simp [hs])).2.2.2.2.2.2.2.2 rfl
    have hword : scanWord (c :: ds ++ rest) =
        ⟨.word key false, byteSize (c :: ds), rest, none⟩ := by
      rw [scanWord, htake, hdrop, if_neg (by simpa using hslash), ← hk, String.ofList_toList]
    rw [List.cons_append] at hword ⊢
    rw [scanToken, if_pos (by simp [hstart]), hword]

theorem scanToken_of_isAsciiDigit {c : Char} (h : isAsciiDigit c = true) (r : List Char) :
    scanToken (c :: r) = scanNumber (c :: r) := by
  have hc := mem_digits_of_isAsciiDigit h
  simp only [List.mem_cons, List.not_mem_nil, or_false] at hc
  rcases hc with rfl | rfl | rfl | rfl | rfl | rfl | rfl | rfl | rfl | rfl <;> rfl

/-- A spelled number is read as a number. -/
theorem scanToken_spelling (s : Spelling) {rest : List Char} (hr : IsDelimited rest) :
    scanToken (s.text ++ rest) =
      ⟨.number (String.ofList s.text) s.decimal.toFloat, byteSize s.text, rest, none⟩ := by
  obtain ⟨d, ds, hwhole⟩ := List.exists_cons_of_ne_nil s.whole_ne
  have htext : s.text ++ rest = d :: (ds ++ s.tail ++ rest) := by simp [Spelling.text, hwhole]
  have hd : isAsciiDigit d = true := s.isDigit d (by simp [hwhole])
  rw [htext, scanToken_of_isAsciiDigit hd, ← htext, scanNumber_spelling s hr]

/-- A minus in front of a number is read alone. -/
theorem scanToken_minus (s : Spelling) (rest : List Char) :
    scanToken ('-' :: (s.text ++ rest)) = ⟨.punct "-", 1, s.text ++ rest, none⟩ := by
  obtain ⟨d, ds, hwhole⟩ := List.exists_cons_of_ne_nil s.whole_ne
  have htext : s.text ++ rest = d :: (ds ++ s.tail ++ rest) := by simp [Spelling.text, hwhole]
  have hd := mem_digits_of_isAsciiDigit (s.isDigit d (by simp [hwhole]))
  simp only [List.mem_cons, List.not_mem_nil, or_false] at hd
  rw [htext]
  rcases hd with rfl | rfl | rfl | rfl | rfl | rfl | rfl | rfl | rfl | rfl <;> rfl

end ComponentCanvas.Script
