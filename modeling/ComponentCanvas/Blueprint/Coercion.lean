import ComponentCanvas.Blueprint.Value
import ComponentCanvas.Decimal.Reading
import ComponentCanvas.Text.Blank

/-!
# Coercions and Equality

What a value is as a condition, as a number and as a text, and when two values are equal.
-/

namespace ComponentCanvas.Blueprint.Value

/-- Whether a value holds as a condition. -/
def truthy : Value → Bool
  | .undefined | .null => false
  | .bool b => b
  | .number x => x != 0.0 && !x.isNaN
  | .string s => !s.isEmpty
  | .list _ | .map _ | .node _ | .function _ | .builtin _ => true

/-- The number of a text: blank text is zero, text that spells no number is not a number. -/
def numberOfText (s : String) : Float :=
  match Text.trim s.toList with
  | [] => 0.0
  | chars => (Decimal.read? chars).getD Decimal.nan

/-- A value as a number. -/
def toNumber : Value → Float
  | .null => 0.0
  | .bool b => if b then 1.0 else 0.0
  | .number x => x
  | .string s => numberOfText s
  | .list [] => 0.0
  | .undefined | .list _ | .map _ | .node _ | .function _ | .builtin _ => Decimal.nan

mutual

/-- A value as a text. -/
def toText : Value → String
  | .undefined => "undefined"
  | .null => "null"
  | .bool b => if b then "true" else "false"
  | .number x => numberText x
  | .string s => s
  | .list items => ",".intercalate (itemTexts items)
  | .map _ | .node _ => "[object Object]"
  | .function _ | .builtin _ => "function"

/-- The texts of the items of a list; nothing stands for what is undefined or null. -/
def itemTexts : List Value → List String
  | [] => []
  | .undefined :: rest => "" :: itemTexts rest
  | .null :: rest => "" :: itemTexts rest
  | value :: rest => value.toText :: itemTexts rest

end

/-- The kind of a value, by name. -/
def typeName : Value → String
  | .undefined => "undefined"
  | .bool _ => "boolean"
  | .number _ => "number"
  | .string _ => "string"
  | .function _ | .builtin _ => "function"
  | .null | .list _ | .map _ | .node _ => "object"

/-- Whether two values are equal as they are.  Lists, maps and nodes equal nothing. -/
def strictlyEquals : Value → Value → Bool
  | .undefined, .undefined => true
  | .null, .null => true
  | .bool a, .bool b => a == b
  | .number a, .number b => a == b
  | .string a, .string b => a == b
  | .builtin a, .builtin b => a == b
  | .function a, .function b => a.identity == b.identity
  | _, _ => false

/-- Whether a value is undefined or null. -/
def isNothing : Value → Bool
  | .undefined | .null => true
  | _ => false

/-- Whether two values are equal once they are numbers, where one of them asks for that. -/
def looselyEquals (a b : Value) : Bool :=
  if a.isNothing || b.isNothing then a.isNothing && b.isNothing
  else
    match a, b with
    | .number _, .string _ | .string _, .number _ | .bool _, _ | _, .bool _ =>
      a.toNumber == b.toNumber
    | _, _ => strictlyEquals a b

/-- The characters of a text, each as a text. -/
def characters (s : String) : List Value := s.toList.map fun c => .string (String.singleton c)

/-- The index that the name of a member spells. -/
def index? (name : String) : Option Nat :=
  let digits := match name.toList with
    | '+' :: rest => rest
    | s => s
  if digits.isEmpty || !digits.all Decimal.isDigit then none else some (Decimal.valueOf digits)

/-- The whole part of a float as a size; it is zero below zero and has 64 bits at most. -/
def sizeOf (x : Float) : Nat := x.toUInt64.toNat

/-- A member of a value. -/
def member (object : Value) (name : String) : Value :=
  match object with
  | .map fields => (Fields.get? fields name).getD .undefined
  | .list items =>
    if name == "length" then .number (Float.ofNat items.length)
    else ((index? name).bind fun i => items[i]?).getD .undefined
  | .string s =>
    if name == "length" then .number (Float.ofNat s.toList.length)
    else ((index? name).bind fun i => (characters s)[i]?).getD .undefined
  | .builtin space =>
    if space == "Math" && name == "PI" then .number 3.141592653589793
    else if space == "Math" && name == "E" then .number 2.718281828459045
    else .builtin (space ++ "." ++ name)
  | _ => .undefined

end ComponentCanvas.Blueprint.Value
