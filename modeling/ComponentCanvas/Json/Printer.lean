import ComponentCanvas.Json.Basic
import ComponentCanvas.Text.Lines

/-!
# Printing JSON

A compact form without blanks, and an indented form with two blanks a level.  Strings escape the
quote, the backslash and the control characters below the blank; floats keep a point or an
exponent, so that they never read as integers.
-/

namespace ComponentCanvas.Json

/-- Floats are positional while the leading digit stands at an exponent from -5 to 15, and always
keep a point or an exponent. -/
def numberStyle : Decimal.Style where
  positional := some (-5, 15)
  pointZero := true
  plusSign := true
  tie := .toEven

/-- The text of a float; one that is not finite has none and is written as null. -/
def floatText (x : Float) : List Char :=
  if Decimal.isFinite x then numberStyle.render x else ['n', 'u', 'l', 'l']

/-- The text of an integer. -/
def intText (n : Int) : List Char :=
  if n < 0 then '-' :: Decimal.digitsOf n.natAbs else Decimal.digitsOf n.natAbs

/-- One lower-case hexadecimal digit. -/
def hexDigit (n : Nat) : Char :=
  if n < 10 then Char.ofNat (48 + n) else Char.ofNat (87 + n)

/-- The escape with four hexadecimal digits. -/
def unicodeEscape (n : Nat) : List Char :=
  ['\\', 'u', hexDigit (n / 4096 % 16), hexDigit (n / 256 % 16), hexDigit (n / 16 % 16),
    hexDigit (n % 16)]

/-- A character inside a string. -/
def escapeChar (c : Char) : List Char :=
  match c with
  | '"' => ['\\', '"']
  | '\\' => ['\\', '\\']
  | '\n' => ['\\', 'n']
  | '\r' => ['\\', 'r']
  | '\t' => ['\\', 't']
  | c =>
    if c.toNat == 0x08 then ['\\', 'b']
    else if c.toNat == 0x0C then ['\\', 'f']
    else if c.toNat < 0x20 then unicodeEscape c.toNat
    else [c]

/-- A string with its quotes. -/
def stringText (s : String) : List Char := '"' :: (s.toList.flatMap escapeChar) ++ ['"']

/-- Helper: texts with a separator between neighbours. -/
def separated (separator : List Char) : List (List Char) → List Char
  | [] => []
  | [text] => text
  | text :: rest => text ++ separator ++ separated separator rest

mutual

/-- The compact text, as a list of characters. -/
def compactChars : Json → List Char
  | .null => ['n', 'u', 'l', 'l']
  | .bool true => ['t', 'r', 'u', 'e']
  | .bool false => ['f', 'a', 'l', 's', 'e']
  | .int n => intText n
  | .float x => floatText x
  | .str s => stringText s
  | .arr items => '[' :: separated [','] (compactItems items) ++ [']']
  | .obj members => '{' :: separated [','] (compactMembers members) ++ ['}']

/-- The compact texts of the items. -/
def compactItems : List Json → List (List Char)
  | [] => []
  | item :: rest => compactChars item :: compactItems rest

/-- The compact texts of the members. -/
def compactMembers : List (String × Json) → List (List Char)
  | [] => []
  | (name, value) :: rest => (stringText name ++ ':' :: compactChars value) :: compactMembers rest

end

/-- The compact text. -/
def compact (value : Json) : String := String.ofList (compactChars value)

/-- Helper: a line feed and the blanks of a level. -/
def lineIndent (level : Nat) : List Char := '\n' :: List.replicate (2 * level) ' '

mutual

/-- The indented text at a level. -/
def indentedChars (level : Nat) : Json → List Char
  | .arr [] => ['[', ']']
  | .arr (item :: rest) =>
    '[' :: lineIndent (level + 1) ++
      separated (',' :: lineIndent (level + 1)) (indentedItems (level + 1) (item :: rest)) ++
      lineIndent level ++ [']']
  | .obj [] => ['{', '}']
  | .obj (member :: rest) =>
    '{' :: lineIndent (level + 1) ++
      separated (',' :: lineIndent (level + 1)) (indentedMembers (level + 1) (member :: rest)) ++
      lineIndent level ++ ['}']
  | .null => compactChars .null
  | .bool b => compactChars (.bool b)
  | .int n => compactChars (.int n)
  | .float x => compactChars (.float x)
  | .str s => compactChars (.str s)

/-- The indented texts of the items. -/
def indentedItems (level : Nat) : List Json → List (List Char)
  | [] => []
  | item :: rest => indentedChars level item :: indentedItems level rest

/-- The indented texts of the members. -/
def indentedMembers (level : Nat) : List (String × Json) → List (List Char)
  | [] => []
  | (name, value) :: rest =>
    (stringText name ++ ':' :: ' ' :: indentedChars level value) :: indentedMembers level rest

end

/-- The text with two blanks of indentation a level. -/
def indented (value : Json) : String := String.ofList (indentedChars 0 value)

end ComponentCanvas.Json
