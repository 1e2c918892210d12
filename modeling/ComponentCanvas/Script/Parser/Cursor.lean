import ComponentCanvas.Script.Lexer
import ComponentCanvas.Script.Syntax

/-!
# The Reading Position

A parser takes a cursor and gives a value and the cursor behind it, or stops at a fault.  The
cursor holds the current token; what comes after it is text that is not yet divided into tokens.

Some faults do not stop the reading: they are noted in the cursor, and a text with a noted fault is
no script.  Going back to an earlier cursor forgets the faults noted since.
-/

namespace ComponentCanvas.Script

open Text (Span)

/-- What the place in the grammar allows. -/
structure Context where
  /-- The script may hold types. -/
  typed : Bool
  /-- The operator `in` may occur. -/
  allowIn : Bool := true
  /-- A promise may be awaited. -/
  allowAwait : Bool := true
  /-- A generator may yield. -/
  allowYield : Bool := false
  /-- A function may return. -/
  allowReturn : Bool := false
  /-- Declarations only state types. -/
  ambient : Bool := false
  /-- The expression of a decorator, where brackets do not index. -/
  decorator : Bool := false
  /-- A type may be a condition. -/
  allowConditionalType : Bool := true

/-- A reading position. -/
structure Cursor where
  context : Context
  /-- The size of the whole text. -/
  size : Nat
  token : Token := .eof
  /-- A word is made of the characters of identifiers. -/
  proper : token.IsProper := by trivial
  /-- Where the token starts. -/
  start : Nat := 0
  /-- The text from the token on. -/
  here : List Char := []
  /-- Where the token ends. -/
  stop : Nat := 0
  /-- The text after the token. -/
  rest : List Char := []
  /-- Where the token before ends. -/
  previous : Nat := 0
  /-- Whether a line ends between the token before and this one. -/
  newline : Bool := false
  /-- Faults noted so far, latest first. -/
  faults : List SyntaxError := []
  /-- Where a name with a default stands that must still turn out to be an assignment target. -/
  pending : List Nat := []

/-- Puts a scanned token into a cursor. -/
def Cursor.place (c : Cursor) (start : Nat) (text : List Char) (scan : Scan)
    (proper : scan.token.IsProper) : Cursor :=
  { c with
    token := scan.token, proper := proper, start := start, here := text
    stop := start + scan.size, rest := scan.rest
    faults := match scan.fault with
      | none => c.faults
      | some fault => ⟨fault, start⟩ :: c.faults }

/-- The cursor at the next token. -/
def Cursor.advance (c : Cursor) : Cursor :=
  let gap := skipGap .code 0 false c.rest
  let start := c.stop + gap.size
  let c := { c with previous := c.stop, newline := gap.newline }
  let faults := if gap.unclosed then ⟨.unterminatedComment, start⟩ :: c.faults else c.faults
  let c := { c with faults }
  c.place start gap.rest (scanToken gap.rest) (isProper_scanToken gap.rest)

/-- The cursor at the first token of a text. -/
def Cursor.atStart (typed : Bool) (text : List Char) : Cursor :=
  let (rest, skipped) := skipInterpreterLine text
  let c : Cursor :=
    { context := { typed := typed }, size := Text.byteSize text, rest := rest, stop := skipped }
  { c.advance with previous := 0 }

/-- A parser. -/
abbrev Parser := StateT Cursor (Except SyntaxError)

namespace Parser

/-! ## Faults -/

/-- Stops at the current token. -/
def fail {α : Type} (fault : Fault) : Parser α := fun c => .error ⟨fault, c.start⟩

/-- Stops because the current token cannot stand here. -/
def unexpected {α : Type} : Parser α := fun c =>
  match c.token with
  | .eof => .error ⟨.unexpectedEnd, c.start⟩
  | _ => .error ⟨.unexpectedToken, c.start⟩

/-- Notes a fault and goes on. -/
def note (fault : Fault) (offset : Nat) : Parser Unit :=
  modify fun c => { c with faults := ⟨fault, offset⟩ :: c.faults }

/-- Notes a fault if the condition holds. -/
def noteIf (condition : Bool) (fault : Fault) (offset : Nat) : Parser Unit :=
  if condition then note fault offset else pure ()

/-! ## The current token -/

/-- The current token. -/
def token : Parser Token := return (← get).token

/-- Where the current token starts. -/
def position : Parser Nat := return (← get).start

/-- The context. -/
def context : Parser Context := return (← get).context

/-- Whether the script may hold types. -/
def typed : Parser Bool := return (← context).typed

/-- Whether a line ends before the current token. -/
def onNewLine : Parser Bool := return (← get).newline

/-- Goes to the next token. -/
def next : Parser Unit := modify Cursor.advance

/-- The token after the current one. -/
def peek : Parser Token := return (← get).advance.token

/-- The token after the current one, if it stands on the same line. -/
def peekOnLine : Parser (Option Token) := do
  let c := (← get).advance
  return if c.newline then none else some c.token

/-- The span from an offset to the end of the token before. -/
def spanFrom (start : Nat) : Parser Span := return ⟨start, (← get).previous⟩

/-- Whether the current token is an operator or bracket. -/
def atPunct (text : String) : Parser Bool := return (← token).isPunct text

/-- Whether the current token is a word without escapes. -/
def atWord (name : String) : Parser Bool := return (← token).isWord name

/-- Takes an operator or bracket if it is there. -/
def eatPunct (text : String) : Parser Bool := do
  if ← atPunct text then next; return true
  else return false

/-- Takes a word if it is there. -/
def eatWord (name : String) : Parser Bool := do
  if ← atWord name then next; return true
  else return false

/-- Takes an operator or bracket that must be there. -/
def expectPunct (text : String) : Parser Unit := do
  unless ← eatPunct text do fail (.expected text)

/-- Takes a word that must be there. -/
def expectWord (name : String) : Parser Unit := do
  unless ← eatWord name do fail (.expected name)

/-! ## Going back -/

/-- Runs a parser and goes back to where it started. -/
def lookAhead {α : Type} (otherwise : α) (p : Parser α) : Parser α := fun c =>
  match p c with
  | .ok (a, _) => .ok (a, c)
  | .error _ => .ok (otherwise, c)

/-- Runs a parser; if it stops at a fault, goes back to where it started. -/
def attempt {α : Type} (p : Parser α) : Parser (Option α) := fun c =>
  match p c with
  | .ok (a, c) => .ok (some a, c)
  | .error _ => .ok (none, c)

/-- Runs a parser that may find nothing, in which case it goes back to where it started. -/
def attemptSome {α : Type} (p : Parser (Option α)) : Parser (Option α) := fun c =>
  match p c with
  | .ok (some a, c) => .ok (some a, c)
  | .ok (none, _) => .ok (none, c)
  | .error _ => .ok (none, c)

/-- Runs a parser in a changed context. -/
def within {α : Type} (change : Context → Context) (p : Parser α) : Parser α := fun c =>
  match p { c with context := change c.context } with
  | .ok (a, c') => .ok (a, { c' with context := c.context })
  | .error e => .error e

/-! ## Repetition -/

/-- Repeats a step that either goes on with a new state or ends with a result.  The first argument
bounds the number of steps. -/
def iterate {σ α : Type} (step : σ → Parser (σ ⊕ α)) : Nat → σ → Parser α
  | 0, _ => unexpected
  | n + 1, state => do
    match ← step state with
    | .inl state => iterate step n state
    | .inr result => return result

/-- A bound on the number of tokens that are left. -/
def bound : Parser Nat := return (← get).size + 2 - (← get).start

/-- Repeats a step; each one but the last takes at least one token. -/
def repeating {σ α : Type} (state : σ) (step : σ → Parser (σ ⊕ α)) : Parser α := do
  iterate step (← bound) state

/-- Items up to a closing token, which stays.  Each item takes at least one token. -/
def itemsUntil {α : Type} (close : String) (item : Parser α) : Parser (List α) :=
  repeating [] fun acc => do
    if ← atPunct close then return .inr acc.reverse
    else return .inl ((← item) :: acc)

/-- Items between commas up to a closing token, which stays; a comma may follow the last one. -/
def separatedUntil {α : Type} (close : String) (item : Parser α) : Parser (List α) :=
  repeating [] fun acc => do
    if ← atPunct close then return .inr acc.reverse
    else
      let acc := (← item) :: acc
      if ← eatPunct "," then return .inl acc
      else if ← atPunct close then return .inr acc.reverse
      else fail (.expected ",")

/-- One or more items with an operator between neighbours. -/
def separatedBy1 {α : Type} (separator : String) (item : Parser α) : Parser (List α) := do
  let first ← item
  repeating [first] fun acc => do
    if ← eatPunct separator then return .inl ((← item) :: acc)
    else return .inr acc.reverse

/-! ## Ends of statements -/

/-- Whether a statement may end here without a semicolon. -/
def canEnd : Parser Bool := do
  let c ← get
  return c.token.isPunct ";" || c.token.isPunct "\x7d" || c.newline ||
    (match c.token with | .eof => true | _ => false)

/-- The end of a statement: a semicolon, or a place where one may be missing. -/
def endOfStatement : Parser Unit := do
  let c ← get
  noteIf (!(← canEnd)) (.expected ";") c.start
  discard <| eatPunct ";"

end Parser

end ComponentCanvas.Script
