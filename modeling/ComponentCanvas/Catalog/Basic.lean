import ComponentCanvas.Category
import ComponentCanvas.TypeId

/-!
# Catalogs

A catalog lists the components that come ready made.  Its entries have distinct types in canonical
form; a component is found by the identifier of its entry, by its type, or by any way of writing
its type.
-/

namespace ComponentCanvas

namespace Catalog

/-- A component of a catalog. -/
structure Entry where
  /-- The identifier that is shown, in hyphenated form unless it is chosen otherwise. -/
  id : String
  displayName : String
  category : Category
  typeId : String
  description : String := ""
  defaultProperties : Bag := []
  /-- The packages that the template imports, sorted. -/
  requiredPackages : List String := []
  /-- The path of the exported module, below the source directory and without extension. -/
  sourceImportPath : String
  /-- Search words, sorted. -/
  tags : List String := []
  /-- The text of the module that is exported. -/
  template : String := ""

/-- Whether there is a module to export. -/
def Entry.isExportable (entry : Entry) : Bool := !Text.isBlankText entry.template

end Catalog

open Catalog in
/-- A catalog. -/
structure Catalog where
  version : String
  entries : List Entry

/-- Why there is no catalog. -/
inductive CatalogError where
  /-- The text is no table of entries. -/
  | noTable
  /-- There is no such directory. -/
  | noDirectory
  | duplicateType (typeId : String)
  /-- The entry with the given identifier has an empty type. -/
  | emptyType (id : String)
  /-- The entry with the given identifier has a type that is not in canonical form. -/
  | notCanonical (id typeId : String)
deriving DecidableEq

/-- The text of an error. -/
def CatalogError.message : CatalogError → String
  | .noTable => "catalog table is not valid JSON"
  | .noDirectory => "catalog directory does not exist"
  | .duplicateType typeId => "catalog lists type \x60" ++ typeId ++ "\x60 more than once"
  | .emptyType id => "catalog entry \x60" ++ id ++ "\x60 is invalid: typeId is empty"
  | .notCanonical id typeId =>
    "catalog entry \x60" ++ id ++ "\x60 is invalid: typeId \x60" ++ typeId ++
      "\x60 is not in canonical form"

namespace Catalog

/-- The first fault among entries, given the types of the entries before them. -/
def fault? (seen : List String) : List Entry → Option CatalogError
  | [] => none
  | entry :: rest =>
    if entry.typeId.isEmpty then some (.emptyType entry.id)
    else if entry.typeId != TypeId.canonical entry.typeId then
      some (.notCanonical entry.id entry.typeId)
    else if seen.contains entry.typeId then some (.duplicateType entry.typeId)
    else fault? (entry.typeId :: seen) rest

/-- The catalog of entries without a fault. -/
def ofEntries (version : String) (entries : List Entry) : Except CatalogError Catalog :=
  match fault? [] entries with
  | some e => .error e
  | none => .ok ⟨version, entries⟩

/-- The catalog without entries. -/
def empty : Catalog := ⟨"", []⟩

/-- The entry with an identifier; the last one if several have it. -/
def byId? (catalog : Catalog) (id : String) : Option Entry :=
  catalog.entries.reverse.find? (·.id == id)

/-- The entry with a type. -/
def byType? (catalog : Catalog) (typeId : String) : Option Entry :=
  catalog.entries.find? (·.typeId == typeId)

/-- The entry that a name stands for: the one with this identifier, else the one with this type,
else the one with the type that the name is a form of. -/
def resolve? (catalog : Catalog) (name : String) : Option Entry :=
  let name := Text.trimmed name
  catalog.byId? name <|> catalog.byType? name <|> catalog.byType? (TypeId.canonical name)

/-- Whether a name stands for an entry. -/
def contains (catalog : Catalog) (name : String) : Bool := (catalog.resolve? name).isSome

/-- The entries of a category. -/
def byCategory (catalog : Catalog) (category : Category) : List Entry :=
  catalog.entries.filter (·.category == category)

/-- The entries with a search word. -/
def withTag (catalog : Catalog) (tag : String) : List Entry :=
  catalog.entries.filter (·.tags.contains tag)

end Catalog

end ComponentCanvas
