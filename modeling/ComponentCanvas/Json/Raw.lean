import ComponentCanvas.Json.Basic

/-!
# Values That Are Read in Part

Whoever looks for some members of an object passes over the others.  These have to be well-formed,
but need not stand for values: a number may be beyond the range of binary64, an escape may name half
a surrogate pair, and arrays and objects may be nested to any depth.

So a text is read as a value with parts that may be unreadable.  Reading fails where an unreadable
part is needed, and nowhere else.
-/

namespace ComponentCanvas.Json

/-- A JSON value with parts that may be unreadable, among them the names of members. -/
inductive Raw where
  | unreadable
  | null
  | bool (b : Bool)
  | int (n : Int)
  | float (x : Float)
  | str (s : String)
  | arr (items : List Raw)
  | obj (members : List (Option String × Raw))
deriving Inhabited

namespace Raw

mutual

/-- The value, if all of it can be read. -/
def value? : Raw → Option Json
  | .unreadable => none
  | .null => some .null
  | .bool b => some (.bool b)
  | .int n => some (.int n)
  | .float x => some (.float x)
  | .str s => some (.str s)
  | .arr items => (itemValues? items).map .arr
  | .obj members => (memberValues? members).map .obj

/-- `value?` on the items of an array. -/
def itemValues? : List Raw → Option (List Json)
  | [] => some []
  | item :: rest => do return (← value? item) :: (← itemValues? rest)

/-- `value?` on the members of an object. -/
def memberValues? : List (Option String × Raw) → Option (List (String × Json))
  | [] => some []
  | (name, value) :: rest => do return (← name, ← value? value) :: (← memberValues? rest)

end

mutual

/-- A value with no unreadable parts. -/
def ofJson : Json → Raw
  | .null => .null
  | .bool b => .bool b
  | .int n => .int n
  | .float x => .float x
  | .str s => .str s
  | .arr items => .arr (ofItems items)
  | .obj members => .obj (ofMembers members)

/-- `ofJson` on the items of an array. -/
def ofItems : List Json → List Raw
  | [] => []
  | item :: rest => ofJson item :: ofItems rest

/-- `ofJson` on the members of an object. -/
def ofMembers : List (String × Json) → List (Option String × Raw)
  | [] => []
  | (name, value) :: rest => (some name, ofJson value) :: ofMembers rest

end

/-- An array or object that stands where a number of further ones may be nested. -/
def within : Nat → Raw → Raw
  | 0, _ => .unreadable
  | _ + 1, raw => raw

end Raw

end ComponentCanvas.Json
