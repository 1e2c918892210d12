import ComponentCanvas.Decimal.Style
import ComponentCanvas.Decimal.Words
import ComponentCanvas.Fields

/-!
# JSON Values

Integers and floats are kept apart: an integer is one that fits 64 bits, signed or unsigned, and
everything else is a binary64 float.  An object is the list of its members in the order of the
text.  The reader keeps a repeated member; `Json.merged` is the value in which the last of them
has won.
-/

namespace ComponentCanvas

/-- A JSON value. -/
inductive Json where
  | null
  | bool (b : Bool)
  | int (n : Int)
  | float (x : Float)
  | str (s : String)
  | arr (items : List Json)
  | obj (members : List (String × Json))
deriving Inhabited

/-- A property bag: the members of an object with distinct names. -/
abbrev Bag := Fields Json

namespace Json

mutual

/-- The value in which, of two members with one name, the later value and the earlier place stay. -/
def merged : Json → Json
  | .arr items => .arr (mergedItems items)
  | .obj members => .obj (Fields.ofList (mergedMembers members))
  | .null => .null
  | .bool b => .bool b
  | .int n => .int n
  | .float x => .float x
  | .str s => .str s

/-- `merged` on the items of an array. -/
def mergedItems : List Json → List Json
  | [] => []
  | item :: rest => merged item :: mergedItems rest

/-- `merged` on the members of an object. -/
def mergedMembers : List (String × Json) → List (String × Json)
  | [] => []
  | (name, value) :: rest => (name, merged value) :: mergedMembers rest

end

/-- The number of a JSON value as a float. -/
def toFloat? : Json → Option Float
  | .int n => some (Float.ofInt n)
  | .float x => some x
  | _ => none

/-- Whether an integer fits 64 bits, signed or unsigned. -/
def fitsWord (n : Int) : Bool := Decimal.isSignedWord n || Decimal.isUnsignedWord n

end Json

end ComponentCanvas
