import ComponentCanvas.Text.Identifier

/-!
# Names in Emitted Source

Which keys can stand bare in an object of emitted source, and which can name an attribute.
-/

namespace ComponentCanvas.Property

open Text (isAsciiLetter isAsciiDigit)

/-- A character that a bare key may open with. -/
def isNameStart (c : Char) : Bool := isAsciiLetter c || c == '_' || c == '$'

/-- A character of a bare key. -/
def isNamePart (c : Char) : Bool := isNameStart c || isAsciiDigit c

/-- Whether a text is a name of characters of which the first may open it. -/
def isNameOf (part : Char → Bool) : List Char → Bool
  | [] => false
  | c :: rest => isNameStart c && rest.all part

/-- Whether a key can stand bare. -/
def isBareKey (key : String) : Bool := isNameOf isNamePart key.toList

/-- Whether a key can name an attribute; hyphens are allowed there. -/
def isAttributeName (key : String) : Bool := isNameOf (fun c => isNamePart c || c == '-') key.toList

/-- The key that has a meaning of its own in an object unless it is computed. -/
def protoKey : String := "__proto__"

end ComponentCanvas.Property
