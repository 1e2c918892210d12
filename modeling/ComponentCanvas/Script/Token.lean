import ComponentCanvas.Text.Identifier
import ComponentCanvas.Text.Position

/-!
# Tokens of a Script

A script is read token by token, and which token comes next depends on where the grammar stands: a
slash may divide or open a regular expression, text between tags is not tokens at all.  This
module holds the token type and the reasons for which a text is no script.
-/

namespace ComponentCanvas.Script

open Text (Span)

/-- Why a text is not a script. -/
inductive Fault where
  | unterminatedString
  | unterminatedTemplate
  | unterminatedComment
  | unterminatedPattern
  | unterminatedMarkup
  | invalidCharacter (c : Char)
  | invalidEscape
  | invalidNumber
  | invalidPatternFlags
  | unexpectedToken
  | unexpectedEnd
  | expected (what : String)
  | invalidTarget
  | missingInitializer
  | misplaced (what : String)
  | mismatchedTag (name : String)
deriving Repr, Inhabited

/-- The text of a fault. -/
def Fault.message : Fault → String
  | .unterminatedString => "Unterminated string"
  | .unterminatedTemplate => "Unterminated template literal"
  | .unterminatedComment => "Unterminated multiline comment"
  | .unterminatedPattern => "Unterminated regular expression"
  | .unterminatedMarkup => "Unterminated markup"
  | .invalidCharacter c => s!"Invalid character {c}"
  | .invalidEscape => "Invalid escape sequence"
  | .invalidNumber => "Invalid number"
  | .invalidPatternFlags => "Invalid flags of a regular expression"
  | .unexpectedToken => "Unexpected token"
  | .unexpectedEnd => "Unexpected end of the source"
  | .expected what => s!"Expected {what}"
  | .invalidTarget => "Cannot assign to this expression"
  | .missingInitializer => "Missing initializer"
  | .misplaced what => s!"{what} is not allowed here"
  | .mismatchedTag name => s!"Expected a closing tag for {name}"

/-- A fault and the byte offset at which it was noticed. -/
structure SyntaxError where
  fault : Fault
  offset : Nat
deriving Repr, Inhabited

/-- A stretch of a template literal between substitutions: its text as written and, unless an
escape in it is malformed, the text it stands for. -/
structure Quasi where
  raw : String
  cooked : Option String
deriving Inhabited

/-- One token. -/
inductive Token where
  /-- The end of the text. -/
  | eof
  /-- An identifier or a keyword; `escaped` when an escape sequence was used in it. -/
  | word (name : String) (escaped : Bool)
  /-- A name after a number sign. -/
  | privateName (name : String)
  /-- An operator or a bracket. -/
  | punct (text : String)
  /-- A number, as written and as a value. -/
  | number (raw : String) (value : Float)
  /-- A big integer. -/
  | bigint
  /-- A string, as the text it stands for. -/
  | string (value : String)
  /-- A template literal from its opening quote or closing brace; `last` when no substitution
  follows. -/
  | template (quasi : Quasi) (last : Bool)
  /-- Characters that form no token. -/
  | invalid
deriving Inhabited

/-- Whether a word is made of the characters of identifiers. -/
def Token.IsProper : Token → Prop
  | .word name _ => ∀ c ∈ name.toList, Text.isIdentifierPart c = true
  | _ => True

/-- Whether the token is the given operator or bracket. -/
def Token.isPunct (t : Token) (text : String) : Bool :=
  match t with
  | .punct p => p == text
  | _ => false

/-- Whether the token is the given word, written without escapes. -/
def Token.isWord (t : Token) (name : String) : Bool :=
  match t with
  | .word n escaped => !escaped && n == name
  | _ => false

/-- The words that can name nothing. -/
def reservedWords : List String :=
  ["break", "case", "catch", "class", "const", "continue", "debugger", "default", "delete", "do",
   "else", "enum", "export", "extends", "false", "finally", "for", "function", "if", "import",
   "in", "instanceof", "new", "null", "return", "super", "switch", "this", "throw", "true", "try",
   "typeof", "var", "void", "while", "with"]

/-- Whether a word can name nothing. -/
def isReserved (name : String) : Bool := reservedWords.contains name

end ComponentCanvas.Script
