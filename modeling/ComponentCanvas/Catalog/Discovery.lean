import ComponentCanvas.Catalog.Shape

/-!
# Discovering a Catalog

A directory makes a catalog: each metadata file `Card.json` with a template `Card.jsx` or
`Card.tsx` beside it is an entry.  Files are visited by name, a directory in the place of its name.
Metadata that cannot be read, has no type or no template is left out, and so is an entry whose type
has been found before.
-/

namespace ComponentCanvas

/-- A directory: the texts of its files by path.  A path lists the directories on the way and then
the file. -/
abbrev FileTree := List (List String × String)

namespace FileTree

/-- The names of a path in which slashes part them. -/
def segments (path : String) : List String :=
  let names := (Text.splitBy (· == '/') path.toList).map String.ofList
  names.filter fun name => !name.isEmpty && name != "."

/-- The directory with the given files. -/
def ofFields (files : Fields String) : FileTree :=
  files.map fun (path, text) => (segments path, text)

/-- The files in the order in which they are visited. -/
def walk (files : FileTree) : FileTree := files.mergeSort fun a b => !decide (b.1 < a.1)

/-- The stem of a file name and, after its last point, the extension.  A point at the start does
not part them. -/
def stemAndExtension (name : String) : String × Option String :=
  let backwards := name.toList.reverse
  let extension := (backwards.takeWhile (· != '.')).reverse
  match backwards.dropWhile (· != '.') with
  | _ :: c :: rest => (String.ofList (c :: rest).reverse, some (String.ofList extension))
  | _ => (name, none)

end FileTree

namespace Catalog

open Json (Readable record? orDefault text? bag? nameSet?)

/-- What a metadata file tells; all of it can be left out. -/
structure Metadata where
  id : Option String
  displayName : Option String
  category : Category
  typeId : Option String
  description : String
  defaultProperties : Bag
  requiredPackages : List String
  sourceImportPath : Option String
  tags : List String

/-- Whether a value can be read as metadata at all.  An array must reach the last field that has no
default, the import path. -/
def isMetadataShape {β : Type} [Readable β] (value : β) : Bool :=
  (Readable.members? value).isSome || (Readable.items? value).any fun items => 8 ≤ items.length

/-- Reads metadata. -/
def Metadata.ofJson? {β : Type} [Readable β] (value : β) : Option Metadata := do
  guard (isMetadataShape value)
  let fields := [["id"], ["displayName"], ["category"], ["typeId"], ["description"],
    ["defaultProperties"], ["requiredPackages"], ["sourceImportPath"], ["tags"]]
  match ← record? fields value with
  | [id, displayName, category, typeId, description, defaultProperties, requiredPackages,
      sourceImportPath, tags] =>
    return {
      id := ← Json.optional text? id
      displayName := ← Json.optional text? displayName
      category := ← orDefault .other Category.ofJson? category
      typeId := ← Json.optional text? typeId
      description := ← orDefault "" text? description
      defaultProperties := ← orDefault [] bag? defaultProperties
      requiredPackages := ← orDefault [] nameSet? requiredPackages
      sourceImportPath := ← Json.optional text? sourceImportPath
      tags := ← orDefault [] nameSet? tags }
  | _ => none

/-- The extensions of templates, the preferred one first. -/
def templateExtensions : List String := ["jsx", "tsx"]

/-- The template beside a metadata file with the given directory and stem. -/
def template? (files : FileTree) (directory : List String) (stem : String) : Option String :=
  templateExtensions.findSome? fun extension =>
    files.lookup (directory ++ [stem ++ "." ++ extension])

/-- The import path of an entry that is given none: that of its directory. -/
def importPath (directory : List String) (typeId : String) : String :=
  let path := String.ofList
    (("/".intercalate directory).toList.map fun c => if c == '\\' then '/' else c)
  if path.isEmpty then "components/" ++ typeId else "components/" ++ path ++ "/" ++ typeId

/-- The entry of metadata. -/
def Metadata.entry (data : Metadata) (directory : List String) (typeId template : String) :
    Entry where
  id := data.id.getD (TypeId.hyphenated typeId)
  displayName := data.displayName.getD typeId
  category := data.category
  typeId := typeId
  description := data.description
  defaultProperties := data.defaultProperties
  requiredPackages := data.requiredPackages
  sourceImportPath := data.sourceImportPath.getD (importPath directory typeId)
  tags := data.tags
  template := template

/-- The entry of a file, if it is a metadata file that makes one. -/
def entryOfFile? (files : FileTree) (path : List String) (text : String) : Option Entry := do
  let name ← path.getLast?
  let (stem, extension) := FileTree.stemAndExtension name
  guard (extension == some "json")
  let data ← (Json.Raw.read? text).bind Metadata.ofJson?
  let typeId := TypeId.canonical (data.typeId.getD stem)
  guard (!typeId.isEmpty)
  let template ← template? files path.dropLast stem
  return data.entry path.dropLast typeId template

/-- The entries without those whose type is among the types seen or has an entry before it. -/
def firstOfEachType (seen : List String) : List Entry → List Entry
  | [] => []
  | entry :: rest =>
    if seen.contains entry.typeId then firstOfEachType seen rest
    else entry :: firstOfEachType (entry.typeId :: seen) rest

/-- The entries of a directory. -/
def entriesOfFiles (files : FileTree) : List Entry :=
  firstOfEachType [] (files.walk.filterMap fun (path, text) => entryOfFile? files path text)

/-- The catalog of a directory, which may not exist. -/
def discover (version : String) : Option FileTree → Except CatalogError Catalog
  | none => .error .noDirectory
  | some files => ofEntries version (entriesOfFiles files)

end Catalog

end ComponentCanvas
