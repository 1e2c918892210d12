import ComponentCanvas.Category
import ComponentCanvas.Decimal.Reading
import ComponentCanvas.Decimal.Words

/-!
# Documents

A document holds the placed instances in the order in which they were added.  An instance is known
by an identifier that is never given out again.  Null means that a property is not there: adding
drops it, and updating removes it.
-/

namespace ComponentCanvas

/-! ## Instances -/

/-- The identifier of an instance. -/
structure InstanceId where
  number : Nat
deriving DecidableEq

namespace InstanceId

/-- The letters in front of the number. -/
def mark : List Char := ['i', 'n', 's', 't', '-']

/-- The text of an identifier. -/
def text (id : InstanceId) : String := String.ofList (mark ++ Decimal.digitsOf id.number)

/-- The digits of a number that may have a plus sign. -/
def unsigned : List Char → List Char
  | '+' :: digits => digits
  | digits => digits

/-- The number of a text of digits that fits 64 bits. -/
def number? (s : List Char) : Option Nat :=
  let digits := unsigned s
  if digits.isEmpty || !digits.all Decimal.isDigit then none
  else
    let n := Decimal.valueOf digits
    if Decimal.isUnsignedWord n then some n else none

/-- Reads an identifier, of which the letters may be missing. -/
def read? (s : String) : Option InstanceId :=
  let chars := s.toList
  (number? (if mark.isPrefixOf chars then chars.drop mark.length else chars)).map InstanceId.mk

end InstanceId

/-- A place on the canvas. -/
structure Position where
  x : Float
  y : Float

/-- A placed component. -/
structure Instance where
  typeId : String
  category : Category
  properties : Bag
  position : Position

/-! ## Bags -/

/-- Whether a value is null. -/
def Json.isNull : Json → Bool
  | .null => true
  | _ => false

/-- The bag without the properties that are null. -/
def dropNulls (bag : Bag) : Bag := bag.filter fun (_, value) => !value.isNull

/-- Writes one property of a patch: null removes it. -/
def patchField (bag : Bag) (key : String) (value : Json) : Bag :=
  if value.isNull then Fields.swapErase bag key else Fields.insert bag key value

/-- Writes the properties of a patch, in order. -/
def overlay (bag changes : Bag) : Bag :=
  changes.foldl (fun acc entry => patchField acc entry.1 entry.2) bag

/-! ## Documents -/

/-- The placed instances and the last identifier that was given out. -/
structure Document where
  instances : List (InstanceId × Instance) := []
  lastNumber : Nat := 0

/-- Why an operation on a document fails. -/
inductive DocumentError where
  | unknownInstance (id : InstanceId)
  | unresolvedType (typeId : String)
  | invalidInstanceId (text : String)
deriving DecidableEq

/-- The text of an error. -/
def DocumentError.message : DocumentError → String
  | .unknownInstance id => "unknown instance " ++ id.text
  | .unresolvedType typeId =>
    "type \x60" ++ typeId ++ "\x60 is neither in the catalog nor registered as generated"
  | .invalidInstanceId text => "\x60" ++ text ++ "\x60 is not an instance id"

namespace Document

/-- The instance with an identifier. -/
def get? (document : Document) (id : InstanceId) : Option Instance := document.instances.lookup id

/-- Adds an instance. -/
def add (document : Document) (placed : Instance) : Document × InstanceId :=
  let id : InstanceId := ⟨document.lastNumber + 1⟩
  let placed := { placed with properties := dropNulls placed.properties }
  (⟨document.instances ++ [(id, placed)], id.number⟩, id)

/-- Changes the instance with an identifier. -/
def modify (document : Document) (id : InstanceId) (change : Instance → Instance) :
    Except DocumentError Document :=
  match document.get? id with
  | none => .error (.unknownInstance id)
  | some _ =>
    let changed := document.instances.map fun (other, placed) =>
      (other, if other == id then change placed else placed)
    .ok { document with instances := changed }

/-- Writes properties of an instance; null removes one. -/
def update (document : Document) (id : InstanceId) (changes : Bag) :
    Except DocumentError Document :=
  document.modify id fun placed => { placed with properties := overlay placed.properties changes }

/-- Moves an instance. -/
def move (document : Document) (id : InstanceId) (position : Position) :
    Except DocumentError Document :=
  document.modify id fun placed => { placed with position }

/-- Removes an instance. -/
def remove (document : Document) (id : InstanceId) : Except DocumentError (Document × Instance) :=
  match document.get? id with
  | none => .error (.unknownInstance id)
  | some placed =>
    .ok ({ document with instances := document.instances.filter (·.1 != id) }, placed)

/-- Removes all instances. -/
def clear (document : Document) : Document := { document with instances := [] }

/-- The distinct types of the instances, sorted. -/
def typeIds (document : Document) : List String :=
  sortedNames (document.instances.map (·.2.typeId))

/-- The greater of two numbers; one that is not a number does not count. -/
def greater (a b : Float) : Float := if a < b || a.isNaN then b else a

/-- The greatest vertical position of an instance. -/
def lowest? (document : Document) : Option Float :=
  match document.instances.map (·.2.position.y) with
  | [] => none
  | y :: rest => some (rest.foldl greater y)

/-- The place of an instance that is given none: at the origin, or below all others. -/
def nextPosition (document : Document) (origin : Position) (rowSpacing : Float) : Position :=
  match document.lowest? with
  | none => origin
  | some y => ⟨origin.x, greater (y + rowSpacing) origin.y⟩

end Document

end ComponentCanvas
