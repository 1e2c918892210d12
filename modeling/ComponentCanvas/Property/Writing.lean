import ComponentCanvas.Json.Printer
import ComponentCanvas.Property.Names
import ComponentCanvas.Text.Blank

/-!
# Properties as Source

Every property value but null has a form as a source expression.  An error tells where in the
value the null stands.
-/

namespace ComponentCanvas.Property

open Text (isControl)

/-- Why a property cannot be written. -/
inductive WriteError where
  /-- The value at a path is null. -/
  | nullValue (path : String)
  | invalidAttributeName (key : String)
deriving DecidableEq

namespace WriteError

/-- The path of the value in question, or the key. -/
def keyPath : WriteError → String
  | .nullValue path => path
  | .invalidAttributeName key => key

/-- The text of an error. -/
def message : WriteError → String
  | .nullValue path => "property \x60" ++ path ++ "\x60 is null, which has no source form"
  | .invalidAttributeName key =>
    "property key \x60" ++ key ++ "\x60 is not a valid attribute name"

end WriteError

/-! ## Strings -/

/-- A character inside a string in double quotes. -/
def escapeChar (c : Char) : List Char :=
  match c with
  | '\\' => ['\\', '\\']
  | '"' => ['\\', '"']
  | '\n' => ['\\', 'n']
  | '\r' => ['\\', 'r']
  | '\t' => ['\\', 't']
  | c =>
    if c.toNat < 0x20 || c.toNat == 0x7F || c.toNat == 0x2028 || c.toNat == 0x2029 then
      Json.unicodeEscape c.toNat
    else [c]

/-- The text between the quotes of a string. -/
def escaped (s : List Char) : List Char := s.flatMap escapeChar

/-- `escaped` on strings. -/
def escape (s : String) : String := String.ofList (escaped s.toList)

/-- A string in double quotes. -/
def quoted (s : String) : List Char := '"' :: escaped s.toList ++ ['"']

/-! ## Values -/

/-- A key of an object. -/
def keyText (key : String) : List Char :=
  if key == protoKey then '[' :: quoted key ++ [']']
  else if isBareKey key then key.toList
  else quoted key

/-- The path of an item of a list. -/
def itemPath (path : String) (index : Nat) : String := path ++ "[" ++ toString index ++ "]"

/-- The path of a member of an object. -/
def memberPath (path key : String) : String := if path.isEmpty then key else path ++ "." ++ key

/-- What parts the items of a list and the members of an object. -/
def comma : List Char := [',', ' ']

mutual

/-- The source of the value at a path. -/
def writeAt (path : String) : Json → Except WriteError (List Char)
  | .null => throw (.nullValue path)
  | .bool b => return Json.compactChars (.bool b)
  | .int n => return Json.intText n
  | .float x => return Json.floatText x
  | .str s => return quoted s
  | .arr items => do
    let texts ← writeItems path 0 items
    return '[' :: Json.separated comma texts ++ [']']
  | .obj [] => return ['\x7b', '\x7d']
  | .obj (member :: rest) => do
    let texts ← writeMembers path (member :: rest)
    return '\x7b' :: ' ' :: Json.separated comma texts ++ [' ', '\x7d']

/-- The sources of the items of a list from an index on. -/
def writeItems (path : String) (index : Nat) : List Json → Except WriteError (List (List Char))
  | [] => return []
  | item :: rest => do
    let text ← writeAt (itemPath path index) item
    return text :: (← writeItems path (index + 1) rest)

/-- The sources of the members of an object. -/
def writeMembers (path : String) : List (String × Json) → Except WriteError (List (List Char))
  | [] => return []
  | (key, value) :: rest => do
    let text ← writeAt (memberPath path key) value
    return (keyText key ++ ':' :: ' ' :: text) :: (← writeMembers path rest)

end

/-- The source of a property value. -/
def write (value : Json) : Except WriteError String := return String.ofList (← writeAt "" value)

/-! ## Attributes -/

/-- Whether a character stands for itself in an attribute in quotes. -/
def isPlainChar (c : Char) : Bool :=
  !(['"', '\\', '&', '\x7b', '\x7d', '<', '>'].contains c || isControl c)

/-- Whether a text stands for itself in an attribute in quotes. -/
def isPlainText (s : String) : Bool := s.toList.all isPlainChar

/-- The value of an attribute: a plain text in quotes, anything else as an expression in braces. -/
def attributeChars (value : Json) : Except WriteError (List Char) :=
  let braced : Except WriteError (List Char) := do
    return '\x7b' :: (← writeAt "" value) ++ ['\x7d']
  match value with
  | .str s => if isPlainText s then return '"' :: s.toList ++ ['"'] else braced
  | _ => braced

/-- `attributeChars` on strings. -/
def attributeText (value : Json) : Except WriteError String :=
  return String.ofList (← attributeChars value)

/-- The path, from the key of an attribute on, of a value inside the attribute. -/
def pathBelow (key path : String) : String :=
  if path.isEmpty then key
  else if path.toList.head? == some '[' then key ++ path
  else key ++ "." ++ path

/-- The error of an attribute inside an element. -/
def WriteError.below (key : String) : WriteError → WriteError
  | .nullValue path => .nullValue (pathBelow key path)
  | .invalidAttributeName name => .invalidAttributeName name

/-- The attributes of an element, each with a blank in front of it. -/
def attributesChars : List (String × Json) → Except WriteError (List Char)
  | [] => return []
  | (key, value) :: rest => do
    if isAttributeName key then
      let text ← (attributeChars value).mapError (·.below key)
      return ' ' :: key.toList ++ '=' :: text ++ (← attributesChars rest)
    else throw (.invalidAttributeName key)

/-- An element without children: its type, and an attribute for each property. -/
def markup (typeId : String) (properties : Bag) : Except WriteError String := do
  let attributes ← attributesChars properties
  return String.ofList ('<' :: typeId.toList ++ attributes ++ [' ', '/', '>'])

end ComponentCanvas.Property
