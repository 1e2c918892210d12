import ComponentCanvas.Category

/-!
# Payloads

A payload is one batch of components to place: picks of components that exist, and definitions of
generated ones.
-/

namespace ComponentCanvas

/-- A component that is asked for by its type. -/
structure Pick where
  typeId : String
  category : Option Category
  properties : Bag

/-- A generated component with its source. -/
structure Definition where
  typeId : String
  category : Category
  defaultProperties : Bag
  source : String

/-- A batch of components to place. -/
structure Payload where
  picks : List Pick
  definitions : List Definition

/-- Why a text is no payload. -/
inductive PayloadError where
  | empty
  | unrecognized
deriving DecidableEq

/-- The text of an error. -/
def PayloadError.message : PayloadError → String
  | .empty => "payload is empty"
  | .unrecognized => "payload is neither a batch object nor a component list"

/-- Whether a payload asks for nothing. -/
def Payload.isEmpty (payload : Payload) : Bool :=
  payload.picks.isEmpty && payload.definitions.isEmpty

end ComponentCanvas
