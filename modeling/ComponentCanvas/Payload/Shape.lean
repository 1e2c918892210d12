import ComponentCanvas.Json.Reader
import ComponentCanvas.Payload.Basic
import ComponentCanvas.Payload.Fence

/-!
# Reading Payloads

The text of a payload may stand in a fence.  It is a batch of picks and definitions or, failing
that, a bare list of picks.
-/

namespace ComponentCanvas

open Json (Readable record? required orDefault text? list? bag?)

variable {β : Type} [Readable β]

/-- Reads a pick. -/
def Pick.ofJson? (value : β) : Option Pick := do
  match ← record? [["type", "typeId"], ["category"], ["props", "properties"]] value with
  | [typeId, category, properties] =>
    return {
      typeId := ← required text? typeId
      category := ← Json.optional Category.ofJson? category
      properties := ← orDefault [] bag? properties }
  | _ => none

/-- A pick as an object. -/
def Pick.toJson (pick : Pick) : Json :=
  .obj
    [("type", .str pick.typeId), ("category", (pick.category.map Category.toJson).getD .null),
     ("props", .obj pick.properties)]

/-- Reads a definition. -/
def Definition.ofJson? (value : β) : Option Definition := do
  let fields := [["type", "typeId"], ["category"], ["props", "defaultProperties"],
    ["code", "sourceText"]]
  match ← record? fields value with
  | [typeId, category, defaultProperties, source] =>
    return {
      typeId := ← required text? typeId
      category := ← orDefault .other Category.ofJson? category
      defaultProperties := ← orDefault [] bag? defaultProperties
      source := ← required text? source }
  | _ => none

/-- A definition as an object. -/
def Definition.toJson (definition : Definition) : Json :=
  .obj
    [("type", .str definition.typeId), ("category", definition.category.toJson),
     ("props", .obj definition.defaultProperties), ("code", .str definition.source)]

namespace Payload

/-- Reads a batch of picks and definitions. -/
def ofBatch? (value : β) : Option Payload := do
  match ← record? [["components"], ["generatedComponents"]] value with
  | [picks, definitions] =>
    return {
      picks := ← orDefault [] (list? Pick.ofJson?) picks
      definitions := ← orDefault [] (list? Definition.ofJson?) definitions }
  | _ => none

/-- Reads a bare list of picks. -/
def ofPicks? (value : β) : Option Payload :=
  (list? Pick.ofJson? value).map fun picks => ⟨picks, []⟩

/-- The payload of a JSON value. -/
def ofJson? (value : β) : Option Payload := ofBatch? value <|> ofPicks? value

/-- A payload as an object. -/
def toJson (payload : Payload) : Json :=
  .obj
    [("components", .arr (payload.picks.map Pick.toJson)),
     ("generatedComponents", .arr (payload.definitions.map Definition.toJson))]

/-- The payload of a text. -/
def read (text : String) : Except PayloadError Payload :=
  let text := stripFence text
  if text.isEmpty then .error .empty
  else
    match (Json.Raw.read? text).bind ofJson? with
    | some payload => .ok payload
    | none => .error .unrecognized

end Payload

end ComponentCanvas
