import ComponentCanvas.Catalog.Basic
import ComponentCanvas.Json.Reader

/-!
# Catalogs as JSON

A catalog table is an object with a version and a list of components.
-/

namespace ComponentCanvas

namespace Catalog

open Json (Readable record? required orDefault text? list? bag? nameSet?)

variable {β : Type} [Readable β]

/-- Reads an entry. -/
def Entry.ofJson? (value : β) : Option Entry := do
  let fields := [["id"], ["displayName"], ["category"], ["typeId"], ["description"],
    ["defaultProperties"], ["requiredPackages"], ["sourceImportPath"], ["tags"], ["template"]]
  match ← record? fields value with
  | [id, displayName, category, typeId, description, defaultProperties, requiredPackages,
      sourceImportPath, tags, template] =>
    return {
      id := ← required text? id
      displayName := ← required text? displayName
      category := ← required Category.ofJson? category
      typeId := ← required text? typeId
      description := ← orDefault "" text? description
      defaultProperties := ← orDefault [] bag? defaultProperties
      requiredPackages := ← orDefault [] nameSet? requiredPackages
      sourceImportPath := ← required text? sourceImportPath
      tags := ← orDefault [] nameSet? tags
      template := ← orDefault "" text? template }
  | _ => none

/-- An entry as an object. -/
def Entry.toJson (entry : Entry) : Json :=
  .obj
    [("id", .str entry.id), ("displayName", .str entry.displayName),
     ("category", entry.category.toJson), ("typeId", .str entry.typeId),
     ("description", .str entry.description), ("defaultProperties", .obj entry.defaultProperties),
     ("requiredPackages", .arr (entry.requiredPackages.map .str)),
     ("sourceImportPath", .str entry.sourceImportPath), ("tags", .arr (entry.tags.map .str)),
     ("template", .str entry.template)]

/-- The version and the entries of a table. -/
def table? (value : β) : Option (String × List Entry) := do
  match ← record? [["version"], ["components"]] value with
  | [version, components] =>
    return (← required text? version, ← required (list? Entry.ofJson?) components)
  | _ => none

/-- The catalog of a table. -/
def ofJson (value : β) : Except CatalogError Catalog :=
  match table? value with
  | some (version, entries) => ofEntries version entries
  | none => .error .noTable

/-- The catalog of the text of a table. -/
def ofText (text : String) : Except CatalogError Catalog :=
  match Json.Raw.read? text with
  | some value => ofJson value
  | none => .error .noTable

end Catalog

end ComponentCanvas
