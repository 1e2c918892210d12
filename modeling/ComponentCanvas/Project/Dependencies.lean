import ComponentCanvas.Config.Basic
import ComponentCanvas.Document
import ComponentCanvas.Json.Printer
import ComponentCanvas.Project.PackageName
import ComponentCanvas.Registry

/-!
# Dependencies

The packages that an exported project depends on: those of every project, and those that the
catalog entries of the placed types require.
-/

namespace ComponentCanvas.Project

/-- The path of the manifest. -/
def manifestPath : String := "package.json"

/-- The packages that a type requires.  Generated components require none. -/
def packagesOfType (catalog : Catalog) (registry : Registry) (typeId : String) : List String :=
  match registry.resolve? catalog typeId with
  | some (.ready entry) => entry.requiredPackages
  | _ => []

/-- Whether a package may be depended on. -/
def isAllowed (config : PackageConfig) (package : String) : Bool :=
  !config.isDenied package && isPackageName package

/-- The packages that instances require, sorted. -/
def requiredPackages (instances : List Instance) (catalog : Catalog) (registry : Registry)
    (config : PackageConfig) : List String :=
  let typeIds := sortedNames (instances.map (·.typeId))
  sortedNames ((typeIds.flatMap (packagesOfType catalog registry)).filter (isAllowed config))

/-- The dependencies with required packages: a package that every project has keeps its version. -/
def withRequired (config : PackageConfig) (packages : List String) : Fields String :=
  packages.foldl (fun table package =>
    if Fields.contains table package then table
    else Fields.insertSorted table package (config.versionFor package)) config.baseline

/-- The text of the manifest. -/
def manifestText (config : Config) (dependencies : Fields String) : String :=
  let table (entries : Fields String) : Json := .obj (entries.map fun (k, v) => (k, .str v))
  Json.indented (.obj
    [("name", .str config.project.name), ("private", .bool true),
     ("version", .str config.project.version), ("type", .str "module"),
     ("scripts", .obj
       [("dev", .str "vite"), ("build", .str "vite build"), ("preview", .str "vite preview")]),
     ("dependencies", table dependencies),
     ("devDependencies", table config.packages.devBaseline)]) ++ "\n"

end ComponentCanvas.Project
