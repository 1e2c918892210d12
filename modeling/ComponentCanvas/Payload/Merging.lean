import ComponentCanvas.Catalog.Basic
import ComponentCanvas.Payload.Basic

/-!
# Merging a Batch

Of the picks of one type only the last one stays, and so of the definitions.  A definition takes
the place of the pick of its type.
-/

namespace ComponentCanvas

/-- What stays of a batch for one type. -/
inductive Choice where
  | picked (pick : Pick)
  | defined (definition : Definition)

/-- The type as it was written. -/
def Choice.typeId : Choice → String
  | .picked pick => pick.typeId
  | .defined definition => definition.typeId

namespace Payload

/-- The last item of each key, in the order of these last items. -/
def lastOfEach {α : Type} (key : α → String) (items : List α) : Fields α :=
  items.foldl (fun kept item => Fields.erase kept (key item) ++ [(key item, item)]) []

/-- The type that a pick asks for: that of the catalog entry, if there is one. -/
def pickKey (catalog : Catalog) (pick : Pick) : String :=
  match catalog.resolve? pick.typeId with
  | some entry => entry.typeId
  | none => TypeId.canonical pick.typeId

/-- The type that a definition makes. -/
def definitionKey (definition : Definition) : String := TypeId.canonical definition.typeId

/-- What stays of a batch, by type. -/
def merge (catalog : Catalog) (picks : List Pick) (definitions : List Definition) :
    Fields Choice :=
  let picked := (lastOfEach (pickKey catalog) picks).map fun (key, p) => (key, Choice.picked p)
  let defined := (lastOfEach definitionKey definitions).map fun (key, d) =>
    (key, Choice.defined d)
  Fields.insertAll picked defined

end Payload

end ComponentCanvas
