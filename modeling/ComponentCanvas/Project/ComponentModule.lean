import ComponentCanvas.Project.ModulePath
import ComponentCanvas.Registry
import ComponentCanvas.Scope

/-!
# Modules of Components

Every type that is placed is backed by one module: the template of the catalog, or the source of
the generated component between the imports of its capabilities and its export.
-/

namespace ComponentCanvas.Project

/-- The module of a type. -/
structure ComponentModule where
  typeId : String
  /-- The path of its file, below the root of the project. -/
  path : String
  contents : String

/-! ## Imports -/

/-- What is imported from one module: the default import, if any, and the named ones. -/
structure ImportLine where
  whole : Option String := none
  named : List String := []

/-- The line with one more name. -/
def ImportLine.add (line : ImportLine) (capability : Capability) : ImportLine :=
  match capability.style with
  | .default => { line with whole := some capability.name }
  | .named => { line with named := line.named ++ [capability.name] }

/-- What stands between `import` and `from`. -/
def ImportLine.clause (line : ImportLine) : String :=
  let names := "\x7b " ++ ", ".intercalate line.named ++ " \x7d"
  match line.whole with
  | none => names
  | some whole => if line.named.isEmpty then whole else whole ++ ", " ++ names

/-- The imports of capabilities by module, sorted by module; the names of one module stay in
order. -/
def importTable (scope : Scope) (capabilities : List String) : Fields ImportLine :=
  (capabilities.filterMap (Fields.get? scope)).foldl (fun table capability =>
    let line := (Fields.get? table capability.module).getD {}
    Fields.insertSorted table capability.module (line.add capability)) []

/-- A line that imports a clause from a module. -/
def importText (clause path : String) : String := "import " ++ clause ++ " from '" ++ path ++ "';\n"

/-- The lines that import capabilities. -/
def importsText (scope : Scope) (capabilities : List String) : String :=
  String.join ((importTable scope capabilities).map fun (path, line) => importText line.clause path)

/-! ## Modules -/

/-- The module of a catalog entry. -/
def ComponentModule.ofCatalog (entry : Catalog.Entry) : ComponentModule where
  typeId := entry.typeId
  path := "src/" ++ trimSlashes entry.sourceImportPath ++ ".jsx"
  contents := entry.template

/-- The module of a generated component. -/
def ComponentModule.ofGenerated (entry : Registered) (scope : Scope) (directory : String) :
    ComponentModule :=
  let imports := importsText scope entry.blueprint.capabilities
  let source := String.ofList (Text.trimEnd entry.source.toList)
  { typeId := entry.typeId
    path := trimSlashesEnd directory ++ "/" ++ entry.typeId ++ ".jsx"
    contents := (if imports.isEmpty then "" else imports ++ "\n") ++ source ++
      "\n\nexport default " ++ entry.blueprint.factoryName ++ ";\n" }

/-- The module of a component. -/
def ComponentModule.ofComponent (scope : Scope) (directory : String) :
    Component → ComponentModule
  | .ready entry => .ofCatalog entry
  | .generated entry => .ofGenerated entry scope directory

end ComponentCanvas.Project
