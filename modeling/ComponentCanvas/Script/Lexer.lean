import ComponentCanvas.Script.Token
import ComponentCanvas.Text.Identifier
import ComponentCanvas.Json.Reader
import ComponentCanvas.Json.Printer

/-!
# Reading Tokens

Each function takes the text from some point on and returns a token, the number of bytes it
covers and the text after it.  Literals are read in two steps: first the raw text up to the
closing quote, then the value that the raw text stands for.
-/

namespace ComponentCanvas.Script

open Text (isIdentifierStart isIdentifierPart isAsciiDigit byteSize)
open Json (hexValue?)

/-! ## Blanks and comments -/

/-- A character that ends a line. -/
def isLineEnd (c : Char) : Bool :=
  c == '\n' || c == '\r' || c.toNat == 0x2028 || c.toNat == 0x2029

/-- A blank inside a line. -/
def isInlineBlank (c : Char) : Bool :=
  c == ' ' || c == '\t' || c.toNat == 0x0B || c.toNat == 0x0C || c.toNat == 0x85 ||
    c.toNat == 0xA0 || c.toNat == 0x1680 || (0x2000 ≤ c.toNat && c.toNat ≤ 0x200B) ||
    c.toNat == 0x202F || c.toNat == 0x205F || c.toNat == 0x3000 || c.toNat == 0xFEFF

/-- What stands between two tokens: the bytes it covers, whether it holds a line end, and the
text after it. -/
structure Gap where
  size : Nat
  newline : Bool
  rest : List Char
  /-- Whether a comment in it is never closed. -/
  unclosed : Bool

/-- Where skipping stands. -/
inductive GapMode where
  | code
  | lineComment
  | blockComment

/-- Skips blanks and comments. -/
def skipGap : GapMode → Nat → Bool → List Char → Gap
  | .blockComment, size, newline, [] => ⟨size, newline, [], true⟩
  | _, size, newline, [] => ⟨size, newline, [], false⟩
  | .blockComment, size, newline, '*' :: '/' :: rest => skipGap .code (size + 2) newline rest
  | .blockComment, size, newline, c :: rest =>
    skipGap .blockComment (size + c.utf8Size) (newline || isLineEnd c) rest
  | .lineComment, size, newline, c :: rest =>
    if isLineEnd c then skipGap .code (size + c.utf8Size) true rest
    else skipGap .lineComment (size + c.utf8Size) newline rest
  | .code, size, newline, '/' :: '/' :: rest => skipGap .lineComment (size + 2) newline rest
  | .code, size, newline, '/' :: '*' :: rest => skipGap .blockComment (size + 2) newline rest
  | .code, size, newline, c :: rest =>
    if isLineEnd c then skipGap .code (size + c.utf8Size) true rest
    else if isInlineBlank c then skipGap .code (size + c.utf8Size) newline rest
    else ⟨size, newline, c :: rest, false⟩

/-- Skips the interpreter line that a script may open with. -/
def skipInterpreterLine (s : List Char) : List Char × Nat :=
  match s with
  | '#' :: '!' :: rest =>
    let line := rest.takeWhile (!isLineEnd ·)
    (rest.dropWhile (!isLineEnd ·), 2 + byteSize line)
  | s => (s, 0)

/-! ## Escape sequences -/

/-- A character of a literal, or half of a surrogate pair that has no partner. -/
inductive Piece where
  | char (c : Char)
  | surrogate (unit : Nat)

/-- The hexadecimal digits up to a closing brace, and the text after it. -/
def readBraced : Nat → Bool → List Char → Option (Nat × List Char)
  | _, _, [] => none
  | value, any, c :: rest =>
    if c == '}' then (if any then some (value, rest) else none)
    else
      match hexValue? c with
      | none => none
      | some d =>
        if 0x10FFFF < value * 16 + d then none else readBraced (value * 16 + d) true rest

/-- The code unit of a `u` escape after its letter. -/
def readUnit (s : List Char) : Option (Nat × List Char) :=
  match s with
  | '{' :: rest => readBraced 0 false rest
  | rest => Json.readHex4 rest

/-- The piece of a code point. -/
def Piece.ofCode (n : Nat) : Piece :=
  if 0xD800 ≤ n && n < 0xE000 then .surrogate n else .char (Char.ofNat n)

/-- The piece of a `u` escape after its letter; a high surrogate joins a low one that follows. -/
def readUnicodePiece (s : List Char) : Option (Piece × List Char) := do
  let (unit, rest) ← readUnit s
  if 0xD800 ≤ unit && unit < 0xDC00 then
    match rest with
    | '\\' :: 'u' :: more =>
      match Json.readHex4 more with
      | some (low, after) =>
        if 0xDC00 ≤ low && low < 0xE000 then
          some (.char (Char.ofNat (0x10000 + (unit - 0xD800) * 0x400 + (low - 0xDC00))), after)
        else some (.surrogate unit, rest)
      | none => some (.surrogate unit, rest)
    | _ => some (.surrogate unit, rest)
  else some (Piece.ofCode unit, rest)

/-- The value of an octal digit. -/
def octal? (c : Char) : Option Nat :=
  if '0' ≤ c && c ≤ '7' then some (c.toNat - '0'.toNat) else none

/-- An octal escape from its first digit: up to three digits, the value at most 255. -/
def readOctal (first : Nat) (s : List Char) : Nat × List Char :=
  match s with
  | a :: rest =>
    match octal? a with
    | none => (first, a :: rest)
    | some x =>
      if 3 < first then (first * 8 + x, rest)
      else
        match rest with
        | b :: rest' =>
          match octal? b with
          | none => (first * 8 + x, b :: rest')
          | some y => ((first * 8 + x) * 8 + y, rest')
        | [] => (first * 8 + x, [])
  | [] => (first, [])

/-- The meaning of an escape, after its backslash: no piece for a line continuation.  Octal
escapes are for strings alone. -/
def readEscape (octal : Bool) : List Char → Option (Option Piece × List Char)
  | [] => none
  | 'n' :: r => some (some (.char '\n'), r)
  | 't' :: r => some (some (.char '\t'), r)
  | 'r' :: r => some (some (.char '\r'), r)
  | 'b' :: r => some (some (.char (Char.ofNat 8)), r)
  | 'v' :: r => some (some (.char (Char.ofNat 11)), r)
  | 'f' :: r => some (some (.char (Char.ofNat 12)), r)
  | '\r' :: '\n' :: r => some (none, r)
  | 'x' :: a :: b :: r => do
    let a ← hexValue? a
    let b ← hexValue? b
    some (some (.char (Char.ofNat (a * 16 + b))), r)
  | 'u' :: r => (readUnicodePiece r).map fun p => (some p.1, p.2)
  | c :: r =>
    if isLineEnd c then some (none, r)
    else if c == 'x' then none
    else
      match octal? c with
      | some d =>
        if octal then
          let (value, rest) := readOctal d r
          some (some (.char (Char.ofNat value)), rest)
        else if d == 0 && !(r.head?.any isAsciiDigit) then some (some (.char (Char.ofNat 0)), r)
        else none
      | none =>
        if (c == '8' || c == '9') && !octal then none else some (some (.char c), r)

/-- The pieces that the raw text of a literal stands for.  The first argument bounds their
number. -/
def unescape (octal : Bool) : Nat → List Char → Option (List Piece)
  | 0, _ => none
  | _ + 1, [] => some []
  | fuel + 1, c :: rest =>
    if c == '\\' then
      match readEscape octal rest with
      | none => none
      | some (none, rest) => unescape octal fuel rest
      | some (some piece, rest) => (unescape octal fuel rest).map (piece :: ·)
    else (unescape octal fuel rest).map (.char c :: ·)

/-- Four hexadecimal digits. -/
def hex4 (n : Nat) : List Char :=
  [Json.hexDigit (n / 4096 % 16), Json.hexDigit (n / 256 % 16), Json.hexDigit (n / 16 % 16),
    Json.hexDigit (n % 16)]

/-- Whether the piece is half of a surrogate pair. -/
def Piece.isSurrogate : Piece → Bool
  | .char _ => false
  | .surrogate _ => true

/-- The text of the pieces.  Text holds no lone surrogate: where one occurs, it is spelled as a
replacement character with four digits behind it, and so is a true replacement character. -/
def textOfPieces (pieces : List Piece) : List Char :=
  if pieces.any Piece.isSurrogate then
    pieces.flatMap fun
      | .char c => if c.toNat == 0xFFFD then c :: hex4 0xFFFD else [c]
      | .surrogate unit => Char.ofNat 0xFFFD :: hex4 unit
  else
    pieces.filterMap fun
      | .char c => some c
      | .surrogate _ => none

/-! ## Strings and templates -/

/-- The raw text of a string up to its closing quote, and the text after the quote. -/
def closeString (quote : Char) : List Char → Option (List Char × List Char)
  | [] => none
  | '\\' :: '\r' :: '\n' :: rest =>
    (closeString quote rest).map fun p => ('\\' :: '\r' :: '\n' :: p.1, p.2)
  | '\\' :: c :: rest => (closeString quote rest).map fun p => ('\\' :: c :: p.1, p.2)
  | c :: rest =>
    if c == quote then some ([], rest)
    else if c == '\n' || c == '\r' then none
    else (closeString quote rest).map fun p => (c :: p.1, p.2)

/-- A token with the bytes it covers, the text after it and the fault it holds, if any. -/
structure Scan where
  token : Token
  size : Nat
  rest : List Char
  fault : Option Fault := none

/-- A string after its opening quote. -/
def scanString (quote : Char) (s : List Char) : Scan :=
  match closeString quote s with
  | none => ⟨.invalid, 1 + byteSize s, [], some .unterminatedString⟩
  | some (raw, rest) =>
    match unescape true (raw.length + 1) raw with
    | none => ⟨.string "", byteSize raw + 2, rest, some .invalidEscape⟩
    | some pieces => ⟨.string (String.ofList (textOfPieces pieces)), byteSize raw + 2, rest, none⟩

/-- The quote of a template literal. -/
def backquote : Char := Char.ofNat 0x60

/-- The raw text of a template up to its closing quote or the next substitution; the flag tells
which of them ends it. -/
def closeTemplate : List Char → Option (List Char × Bool × List Char)
  | [] => none
  | '\\' :: c :: rest => (closeTemplate rest).map fun p => ('\\' :: c :: p.1, p.2)
  | '$' :: '{' :: rest => some ([], false, rest)
  | c :: rest =>
    if c == backquote then some ([], true, rest)
    else (closeTemplate rest).map fun p => (c :: p.1, p.2)

/-- Line ends of a template are line feeds. -/
def normalizeLineEnds : List Char → List Char
  | [] => []
  | '\r' :: '\n' :: rest => '\n' :: normalizeLineEnds rest
  | '\r' :: rest => '\n' :: normalizeLineEnds rest
  | c :: rest => c :: normalizeLineEnds rest

/-- A stretch of a template after its opening quote or the brace that closes a substitution. -/
def scanTemplate (s : List Char) : Scan :=
  match closeTemplate s with
  | none => ⟨.invalid, 1 + byteSize s, [], some .unterminatedTemplate⟩
  | some (raw, last, rest) =>
    let text := normalizeLineEnds raw
    let cooked := (unescape false (text.length + 1) text).map (String.ofList <| textOfPieces ·)
    let size := byteSize raw + (if last then 2 else 3)
    ⟨.template ⟨String.ofList text, cooked⟩ last, size, rest, none⟩

/-! ## Names -/

/-- A name with escapes in it: its characters and the text after it.  The first argument bounds
the number of characters. -/
def readName : Nat → List Char → Option (List Char × List Char)
  | 0, _ => none
  | _ + 1, [] => some ([], [])
  | fuel + 1, '\\' :: 'u' :: rest => do
    let (code, rest) ← readUnit rest
    if isIdentifierPart (Char.ofNat code) then
      let (name, rest) ← readName fuel rest
      some (Char.ofNat code :: name, rest)
    else none
  | fuel + 1, c :: rest =>
    if isIdentifierPart c then (readName fuel rest).map fun p => (c :: p.1, p.2)
    else if c == '\\' then none
    else some ([], c :: rest)

/-- The number of bytes between a text and what is left of it. -/
def sizeUntil (s rest : List Char) : Nat := byteSize (s.take (s.length - rest.length))

/-- An identifier or keyword. -/
def scanWord (s : List Char) : Scan :=
  let plain := s.takeWhile isIdentifierPart
  let rest := s.dropWhile isIdentifierPart
  if rest.head? == some '\\' then
    match readName (s.length + 1) s with
    | none => ⟨.invalid, byteSize plain + 1, rest.drop 1, some .invalidEscape⟩
    | some (name, rest) => ⟨.word (String.ofList name) true, sizeUntil s rest, rest, none⟩
  else ⟨.word (String.ofList plain) false, byteSize plain, rest, none⟩

/-! ## Numbers -/

/-- Digits with single underscores between them: the digits as written, and the text after them;
`none` if an underscore stands elsewhere. -/
def separatedDigits (isDigit : Char → Bool) (s : List Char) : Option (List Char × List Char) :=
  let run := s.takeWhile fun c => isDigit c || c == '_'
  let rest := s.dropWhile fun c => isDigit c || c == '_'
  let groups := Text.splitBy (· == '_') run
  if run.isEmpty then some ([], rest)
  else if groups.all (!·.isEmpty) then some (run, rest)
  else none

/-- The value of digits in a base, rounded at each step as the digits grow past 53 bits. -/
def radixValue (base : Nat) (digits : List Char) : Float :=
  digits.foldl
    (fun acc c => match hexValue? c with
      | some d => acc * Float.ofNat base + Float.ofNat d
      | none => acc) 0.0

/-- The number after `0x`, `0o` or `0b`. -/
def scanRadix (base : Nat) (isDigit : Char → Bool) (mark : Char) (s : List Char) : Scan :=
  match separatedDigits isDigit s with
  | none => ⟨.invalid, 2, s, some .invalidNumber⟩
  | some (digits, rest) =>
    if digits.isEmpty then ⟨.invalid, 2, s, some .invalidNumber⟩
    else
      let raw := '0' :: mark :: digits
      match rest with
      | 'n' :: rest => ⟨.bigint, byteSize raw + 1, rest, none⟩
      | rest => ⟨.number (String.ofList raw) (radixValue base digits), byteSize raw, rest, none⟩

/-- The part of a decimal from its exponent mark on: the exponent, the text as written, and the
text after it. -/
def readExponentPart (s : List Char) : Option (Int × List Char × List Char) :=
  match s with
  | mark :: rest =>
    if mark == 'e' || mark == 'E' then
      let (sign, negative, rest) := match rest with
        | '+' :: r => (['+'], false, r)
        | '-' :: r => (['-'], true, r)
        | r => ([], false, r)
      match separatedDigits isAsciiDigit rest with
      | none => none
      | some (digits, rest) =>
        if digits.isEmpty then none
        else
          let value := Json.digitsValue (digits.filter (· != '_'))
          some (if negative then -(value : Int) else value, mark :: sign ++ digits, rest)
    else some (0, [], s)
  | [] => some (0, [], [])

/-- A decimal number from its first digit or point. -/
def scanDecimal (s : List Char) : Scan :=
  let bad : Scan := ⟨.invalid, 1, s.drop 1, some .invalidNumber⟩
  match separatedDigits isAsciiDigit s with
  | none => bad
  | some (whole, rest) =>
    match rest with
    | 'n' :: rest => ⟨.bigint, byteSize whole + 1, rest, none⟩
    | rest =>
      let (point, fraction, rest) := match rest with
        | '.' :: r =>
          match separatedDigits isAsciiDigit r with
          | none => (['.'], none, r)
          | some (digits, r) => (['.'], some digits, r)
        | r => ([], some [], r)
      match fraction, readExponentPart rest with
      | some fraction, some (exponent, mark, rest) =>
        let places := fraction.filter (· != '_')
        let digits := whole.filter (· != '_') ++ places
        let raw := whole ++ point ++ fraction ++ mark
        let value := Decimal.Scientific.toFloat
          ⟨Json.digitsValue digits, exponent - (places.length : Int)⟩
        ⟨.number (String.ofList raw) value, byteSize raw, rest, none⟩
      | _, _ => bad

/-- The value of a whole number with a leading zero: octal unless a digit is above seven. -/
def leadingZeroValue (digits : List Char) : Float :=
  if digits.all fun c => (octal? c).isSome then radixValue 8 digits
  else Decimal.Scientific.toFloat ⟨Json.digitsValue digits, 0⟩

/-- A number from its first character. -/
def scanNumber (s : List Char) : Scan :=
  let scan := match s with
    | '0' :: 'x' :: r => scanRadix 16 (fun c => (hexValue? c).isSome) 'x' r
    | '0' :: 'X' :: r => scanRadix 16 (fun c => (hexValue? c).isSome) 'X' r
    | '0' :: 'o' :: r => scanRadix 8 (fun c => (octal? c).isSome) 'o' r
    | '0' :: 'O' :: r => scanRadix 8 (fun c => (octal? c).isSome) 'O' r
    | '0' :: 'b' :: r => scanRadix 2 (fun c => c == '0' || c == '1') 'b' r
    | '0' :: 'B' :: r => scanRadix 2 (fun c => c == '0' || c == '1') 'B' r
    | '0' :: '_' :: r => ⟨.invalid, 2, r, some .invalidNumber⟩
    | '0' :: c :: r =>
      if isAsciiDigit c then
        let digits := '0' :: (c :: r).takeWhile isAsciiDigit
        let rest := (c :: r).dropWhile isAsciiDigit
        if digits.all (fun c => (octal? c).isSome) then
          ⟨.number (String.ofList digits) (leadingZeroValue digits), byteSize digits, rest, none⟩
        else scanDecimal s
      else scanDecimal s
    | s => scanDecimal s
  match scan.fault, scan.rest with
  | none, c :: _ =>
    if isIdentifierStart c || isAsciiDigit c then { scan with fault := some .invalidNumber }
    else scan
  | _, _ => scan

/-! ## Operators -/

/-- Operators and brackets, longer ones before their beginnings.  A closing angle bracket is
always a token of its own: type arguments may end in several of them. -/
def operators : List String :=
  ["...", "=>", "===", "==", "=", "!==", "!=", "!", "++", "+=", "+", "--", "-=", "-", "**=", "**",
   "*=", "*", "/=", "/", "%=", "%", "<<=", "<<", "<=", "<", ">", "&&=", "&&", "&=", "&", "||=",
   "||", "|=", "|", "^=", "^", "??=", "??", "?", "~", ".", ",", ";", ":", "(", ")", "[", "]",
   "\x7b", "\x7d", "@"]

/-- The longest operator at the start of a text. -/
def operatorAt? (s : List Char) : Option String :=
  match s with
  | '?' :: '.' :: c :: _ => if isAsciiDigit c then some "?" else some "?."
  | '?' :: '.' :: [] => some "?."
  | s => operators.find? fun op => op.toList.isPrefixOf s

/-- The operator that a closing angle bracket opens, given the text from the bracket on. -/
def angleOperator (s : List Char) : String :=
  ((([">>>=", ">>>", ">>=", ">>", ">="] : List String).find? fun op =>
    op.toList.isPrefixOf s)).getD ">"

/-- A token that is neither a literal nor a word. -/
def scanOperator (s : List Char) : Scan :=
  match operatorAt? s with
  | some op => ⟨.punct op, op.length, s.drop op.length, none⟩
  | none =>
    match s with
    | [] => ⟨.eof, 0, [], none⟩
    | c :: rest => ⟨.invalid, c.utf8Size, rest, some (.invalidCharacter c)⟩

/-- The token at the start of a text that opens with no blank. -/
def scanToken (s : List Char) : Scan :=
  match s with
  | [] => ⟨.eof, 0, [], none⟩
  | c :: rest =>
    if isIdentifierStart c || (c == '\\' && rest.head? == some 'u') then scanWord s
    else if isAsciiDigit c || (c == '.' && rest.head?.any isAsciiDigit) then scanNumber s
    else if c == '"' || c == '\'' then scanString c rest
    else if c == backquote then scanTemplate rest
    else if c == '#' then
      if rest.head?.any fun c => isIdentifierStart c || c == '\\' then
        let scan := scanWord rest
        match scan.token with
        | .word name _ => { scan with token := .privateName name, size := scan.size + 1 }
        | _ => { scan with size := scan.size + 1 }
      else ⟨.invalid, 1, rest, some (.invalidCharacter c)⟩
    else scanOperator s

/-! ## Words -/

/-- A name that is written with escapes is made of the characters of identifiers. -/
theorem isIdentifierPart_of_readName {fuel : Nat} {s name rest : List Char}
    (h : readName fuel s = some (name, rest)) : ∀ c ∈ name, isIdentifierPart c = true := by
  induction fuel generalizing s name rest with
  | zero => simp [readName] at h
  | succ fuel ih =>
    unfold readName at h
    split at h
    · cases h
    · obtain ⟨rfl, rfl⟩ : [] = name ∧ [] = rest := by simpa using h
      simp
    · next r hfuel =>
      obtain rfl := Nat.succ.inj hfuel
      obtain ⟨⟨code, r'⟩, -, h⟩ := Option.bind_eq_some_iff.mp h
      dsimp only at h
      split at h
      · next hpart =>
        obtain ⟨⟨name', r''⟩, hread, h⟩ := Option.bind_eq_some_iff.mp h
        obtain ⟨rfl, rfl⟩ : Char.ofNat code :: name' = name ∧ r'' = rest := by simpa using h
        exact List.forall_mem_cons.mpr ⟨hpart, ih hread⟩
      · cases h
    · next c r _ hfuel =>
      obtain rfl := Nat.succ.inj hfuel
      split at h
      · next hpart =>
        obtain ⟨⟨name', r'⟩, hread, h⟩ := Option.map_eq_some_iff.mp h
        obtain ⟨rfl, rfl⟩ : c :: name' = name ∧ r' = rest := by simpa using h
        exact List.forall_mem_cons.mpr ⟨hpart, ih hread⟩
      · split at h
        · cases h
        · obtain ⟨rfl, -⟩ : [] = name ∧ c :: r = rest := by simpa using h
          simp

theorem isProper_scanWord (s : List Char) : (scanWord s).token.IsProper := by
  unfold scanWord
  dsimp only
  split
  · split
    · trivial
    · next hread =>
      intro c hc
      rw [String.toList_ofList] at hc
      exact isIdentifierPart_of_readName hread c hc
  · intro c hc
    rw [String.toList_ofList] at hc
    exact List.all_eq_true.mp List.all_takeWhile c hc

theorem isProper_scanRadix (base : Nat) (isDigit : Char → Bool) (mark : Char) (s : List Char) :
    (scanRadix base isDigit mark s).token.IsProper := by
  unfold scanRadix
  split
  · trivial
  · dsimp only
    split
    · trivial
    · split <;> trivial

theorem isProper_scanDecimal (s : List Char) : (scanDecimal s).token.IsProper := by
  unfold scanDecimal
  dsimp only
  split
  · trivial
  · split
    · trivial
    · split <;> trivial

theorem isProper_scanNumber (s : List Char) : (scanNumber s).token.IsProper := by
  -- a fault behind the number does not change its token
  have hfault : ∀ scan : Scan, scan.token.IsProper →
      (match scan.fault, scan.rest with
        | none, c :: _ =>
          if isIdentifierStart c || isAsciiDigit c then { scan with fault := some .invalidNumber }
          else scan
        | _, _ => scan).token.IsProper := by
    intro scan h
    split
    · split <;> exact h
    · exact h
  unfold scanNumber
  apply hfault
  split
  case h_7 => trivial
  case h_8 =>
    split
    · dsimp only
      split
      · trivial
      · exact isProper_scanDecimal _
    · exact isProper_scanDecimal _
  case h_9 => exact isProper_scanDecimal _
  all_goals exact isProper_scanRadix _ _ _ _

theorem isProper_scanString (quote : Char) (s : List Char) :
    (scanString quote s).token.IsProper := by
  unfold scanString
  split
  · trivial
  · split <;> trivial

theorem isProper_scanTemplate (s : List Char) : (scanTemplate s).token.IsProper := by
  unfold scanTemplate
  split <;> trivial

theorem isProper_scanOperator (s : List Char) : (scanOperator s).token.IsProper := by
  unfold scanOperator
  split
  · trivial
  · split <;> trivial

/-- A word that is read is made of the characters of identifiers. -/
theorem isProper_scanToken (s : List Char) : (scanToken s).token.IsProper := by
  unfold scanToken
  split
  · trivial
  · next c rest =>
    split
    · exact isProper_scanWord _
    split
    · exact isProper_scanNumber _
    split
    · exact isProper_scanString _ _
    split
    · exact isProper_scanTemplate _
    split
    · split
      · dsimp only
        split
        · trivial
        · exact isProper_scanWord rest
      · trivial
    · exact isProper_scanOperator _

/-! ## Regular expressions -/

/-- The body of a regular expression up to its closing slash; `inClass` inside brackets, where a
slash does not close. -/
def closePattern : Bool → List Char → Option (List Char × List Char)
  | _, [] => none
  | inClass, '\\' :: c :: rest =>
    if isLineEnd c then none else (closePattern inClass rest).map fun p => ('\\' :: c :: p.1, p.2)
  | inClass, c :: rest =>
    if isLineEnd c then none
    else if c == '/' && !inClass then some ([], rest)
    else
      let inClass := if c == '[' then true else if c == ']' then false else inClass
      (closePattern inClass rest).map fun p => (c :: p.1, p.2)

/-- Whether the flags are known ones and none is repeated. -/
def validFlags : List Char → Bool
  | [] => true
  | c :: rest => ['d', 'g', 'i', 'm', 's', 'u', 'v', 'y'].contains c && !rest.contains c &&
    validFlags rest

/-- A regular expression from its opening slash: the bytes it covers and the text after it. -/
def scanPattern (s : List Char) : Except Fault (Nat × List Char) :=
  match closePattern false (s.drop 1) with
  | none => .error .unterminatedPattern
  | some (body, rest) =>
    let flags := rest.takeWhile isIdentifierPart
    if validFlags flags then
      .ok (byteSize body + 2 + byteSize flags, rest.dropWhile isIdentifierPart)
    else .error .invalidPatternFlags

end ComponentCanvas.Script
