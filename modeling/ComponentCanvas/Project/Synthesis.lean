import ComponentCanvas.Project.Dependencies
import ComponentCanvas.Project.EntryPoint
import ComponentCanvas.Project.Scaffold
import ComponentCanvas.Property.Writing

/-!
# The Exported Project

A document is exported as a project of its own: the scaffold, the manifest, the entry point, and a
module for each type that is placed.  An instance whose type cannot be exported is left out and
reported; a property without a source form ends the export.
-/

namespace ComponentCanvas

namespace Project

/-- Why an instance is left out. -/
inductive SkipReason where
  | unresolved | noTemplate
deriving DecidableEq

/-- The text of a reason. -/
def SkipReason.message : SkipReason → String
  | .unresolved => "type is neither in the catalog nor registered as generated"
  | .noTemplate => "catalog entry has no template"

/-- An instance that is left out. -/
structure Skipped where
  id : InstanceId
  typeId : String
  reason : SkipReason

end Project

/-- An exported project. -/
structure Project where
  /-- The contents of the files by path, sorted. -/
  files : Fields String
  dependencies : Fields String
  devDependencies : Fields String
  skipped : List Project.Skipped

/-- An instance that cannot be exported. -/
structure ExportError where
  id : InstanceId
  typeId : String
  cause : Property.WriteError

/-- The text of an error. -/
def ExportError.message (e : ExportError) : String :=
  "instance " ++ e.id.text ++ " of \x60" ++ e.typeId ++ "\x60 cannot be exported: " ++
    e.cause.message

namespace Project

/-- The component of an instance, if it can be exported. -/
def exportable? (catalog : Catalog) (registry : Registry) (typeId : String) :
    Except SkipReason Component :=
  match registry.resolve? catalog typeId with
  | none => .error .unresolved
  | some (.ready entry) => if entry.isExportable then .ok (.ready entry) else .error .noTemplate
  | some component => .ok component

/-- What is gathered from the instances of a document, in order. -/
structure Draft where
  /-- The modules of the exported types, in the order of their first instances. -/
  modules : List ComponentModule := []
  markup : List String := []
  exported : List Instance := []
  skipped : List Skipped := []

/-- The modules with that of a component, unless its type has one. -/
def addModule (modules : List ComponentModule) (scope : Scope) (directory : String)
    (component : Component) : List ComponentModule :=
  if modules.any (·.typeId == component.typeId) then modules
  else modules ++ [.ofComponent scope directory component]

/-- Gathers one instance. -/
def Draft.add (catalog : Catalog) (registry : Registry) (directory : String) (draft : Draft)
    (id : InstanceId) (placed : Instance) : Except ExportError Draft :=
  match exportable? catalog registry placed.typeId with
  | .error reason => .ok { draft with skipped := draft.skipped ++ [⟨id, placed.typeId, reason⟩] }
  | .ok component =>
    match Property.markup component.typeId placed.properties with
    | .error cause => .error ⟨id, placed.typeId, cause⟩
    | .ok line =>
      .ok { draft with
        modules := addModule draft.modules registry.scope directory component
        markup := draft.markup ++ [line]
        exported := draft.exported ++ [placed] }

/-- Gathers the instances of a document. -/
def Draft.ofInstances (catalog : Catalog) (registry : Registry) (directory : String)
    (draft : Draft) : List (InstanceId × Instance) → Except ExportError Draft
  | [] => .ok draft
  | (id, placed) :: rest => do
    let draft ← draft.add catalog registry directory id placed
    Draft.ofInstances catalog registry directory draft rest

/-- The files of a project, sorted by path; a module may stand in the place of another file. -/
def fileTable (config : Config) (dependencies : Fields String) (draft : Draft) : Fields String :=
  Fields.sorted <|
    scaffold config ++
      [(manifestPath, manifestText config dependencies),
       (entryPath, entryText draft.modules draft.markup)] ++
      draft.modules.map fun m => (m.path, m.contents)

/-- The project of a draft. -/
def ofDraft (catalog : Catalog) (registry : Registry) (config : Config) (draft : Draft) :
    Project :=
  let required := requiredPackages draft.exported catalog registry config.packages
  let dependencies := withRequired config.packages required
  { files := fileTable config dependencies draft
    dependencies := dependencies
    devDependencies := config.packages.devBaseline
    skipped := draft.skipped }

/-- Exports a document. -/
def synthesize (document : Document) (catalog : Catalog) (registry : Registry)
    (config : Config) : Except ExportError Project := do
  let draft ← Draft.ofInstances catalog registry config.project.generatedDir {} document.instances
  return ofDraft catalog registry config draft

end Project

end ComponentCanvas
