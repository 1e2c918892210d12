import ComponentCanvas.Json.Raw

/-!
# Shapes of JSON Values

Reading a record from a JSON value, or from one with unreadable parts.  A record is an object, of
which unknown members are ignored and no known one may occur twice, or an array of its fields in
order, of which the last ones may be missing.
-/

namespace ComponentCanvas.Json

/-- What a record can be read from. -/
class Readable (β : Type) where
  /-- The value, if all of it can be read. -/
  value? : β → Option Json
  /-- The items of an array. -/
  items? : β → Option (List β)
  /-- The members of an object, whose names may be unreadable. -/
  members? : β → Option (List (Option String × β))

instance : Readable Json where
  value? := some
  items?
    | .arr items => some items
    | _ => none
  members?
    | .obj members => some (members.map fun (name, value) => (some name, value))
    | _ => none

instance : Readable Raw where
  value? := Raw.value?
  items?
    | .arr items => some items
    | _ => none
  members?
    | .obj members => some members
    | _ => none

open Readable (value? items? members?)

variable {α β : Type}

/-- The value of the one member with one of the given names; there may be none. -/
def memberValue? (members : List (String × β)) (names : List String) : Option (Option β) :=
  match members.filter fun member => names.contains member.1 with
  | [] => some none
  | [(_, value)] => some (some value)
  | _ => none

/-- A field that must be there. -/
def required (decode : β → Option α) (value : Option β) : Option α := value.bind decode

/-- A field that has a default. -/
def orDefault (default : α) (decode : β → Option α) : Option β → Option α
  | none => some default
  | some value => decode value

variable [Readable β]

/-- The members of an object, all of whose names can be read. -/
def namedMembers? (value : β) : Option (List (String × β)) := do
  (← members? value).mapM fun (name, value) => name.map (·, value)

/-- The fields of a record; each field is given by the names that it may have. -/
def record? (fields : List (List String)) (value : β) : Option (List (Option β)) :=
  match items? value with
  | some items =>
    if items.length ≤ fields.length then
      some (items.map some ++ List.replicate (fields.length - items.length) none)
    else none
  | none => do fields.mapM (memberValue? (← namedMembers? value))

/-- Whether a value is null. -/
def readsNull (value : β) : Bool :=
  match value? value with
  | some .null => true
  | _ => false

/-- A field that may be missing or null. -/
def optional (decode : β → Option α) : Option β → Option (Option α)
  | none => some none
  | some value => if readsNull value then some none else (decode value).map some

/-- A string. -/
def text? (value : β) : Option String :=
  match value? value with
  | some (.str s) => some s
  | _ => none

/-- A list. -/
def list? (decode : β → Option α) (value : β) : Option (List α) := do
  (← items? value).mapM decode

/-- A list of names, of which the distinct ones are taken in ascending order. -/
def nameSet? (value : β) : Option (List String) := (list? text? value).map sortedNames

/-- A bag of properties, in which the last of two members with one name has won. -/
def bag? (value : β) : Option Bag :=
  match (value? value).map merged with
  | some (.obj members) => some members
  | _ => none

/-- A table of values of one kind, sorted by key. -/
def table? (decode : β → Option α) (value : β) : Option (Fields α) := do
  let entries ← (← namedMembers? value).mapM fun (key, value) => do return (key, ← decode value)
  return Fields.sorted (Fields.ofList entries)

end ComponentCanvas.Json
