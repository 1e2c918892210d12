import ComponentCanvas.Blueprint.Rendering
import ComponentCanvas.Catalog.BuiltIn
import ComponentCanvas.Payload.Merging
import ComponentCanvas.Payload.Shape
import ComponentCanvas.Project.Synthesis

/-!
# Sessions

A session is one edit of one page.  It owns a registry and a document, takes in the batches that
the generative service sends, and renders and exports what is placed.
-/

namespace ComponentCanvas

/-- An edit of a page. -/
structure Session where
  config : Config
  catalog : Catalog
  registry : Registry
  document : Document

namespace Session

/-- The session that has nothing placed and nothing registered. -/
def start (catalog : Catalog := Catalog.builtIn) (config : Config := {}) : Session where
  config := config
  catalog := catalog
  registry := ⟨.ofConfig config.capabilities, []⟩
  document := {}

/-- What a type stands for. -/
def resolve? (session : Session) (typeId : String) : Option Component :=
  session.registry.resolve? session.catalog typeId

/-- The place of an instance that is given none. -/
def nextPosition (session : Session) : Position :=
  let layout := session.config.layout
  session.document.nextPosition ⟨layout.originX, layout.originY⟩ layout.rowSpacing

/-- Adds an instance of any type. -/
def add (session : Session) (placed : Instance) : Session × InstanceId :=
  let (document, id) := session.document.add placed
  ({ session with document }, id)

/-- Registers a definition. -/
def register (session : Session) (definition : Definition) :
    Session × Except Diagnostic Blueprint :=
  let (registry, outcome) := session.registry.register definition
  ({ session with registry }, outcome)

/-! ## Batches -/

/-- Why something in a batch is not placed. -/
inductive Warning where
  | rejectedSource (typeId : String) (diagnostic : Diagnostic)
  | unknownType (typeId : String)

/-- The type that a warning is about. -/
def Warning.typeId : Warning → String
  | .rejectedSource typeId _ => typeId
  | .unknownType typeId => typeId

/-- What became of a batch. -/
structure Report where
  placed : List InstanceId := []
  registered : List String := []
  warnings : List Warning := []

/-- The report with one more warning. -/
def Report.warn (report : Report) (warning : Warning) : Report :=
  { report with warnings := report.warnings ++ [warning] }

/-- Places a definition that has been compiled. -/
def placeDefinition (session : Session) (report : Report) (definition : Definition) :
    Except Diagnostic Blueprint → Session × Report
  | .ok blueprint =>
    let (session, id) := session.add
      { typeId := blueprint.typeId
        category := definition.category
        properties := definition.defaultProperties
        position := session.nextPosition }
    (session, { report with
      placed := report.placed ++ [id]
      registered := report.registered ++ [blueprint.typeId] })
  | .error diagnostic => (session, report.warn (.rejectedSource definition.typeId diagnostic))

/-- The instance of a component, with properties that go over its own. -/
def instanceOf (component : Component) (category : Option Category) (properties : Bag)
    (position : Position) : Instance where
  typeId := component.typeId
  category := category.getD component.category
  properties := overlay component.defaultProperties properties
  position := position

/-- Places a pick that stays under a key. -/
def placePick (session : Session) (report : Report) (key : String) (pick : Pick) :
    Session × Report :=
  match session.resolve? pick.typeId with
  | none => (session, report.warn (.unknownType key))
  | some component =>
    let (session, id) := session.add
      (instanceOf component pick.category pick.properties session.nextPosition)
    (session, { report with placed := report.placed ++ [id] })

/-- Places what stays of a batch, in order, given the outcomes of its definitions in order. -/
def placeAll (session : Session) (report : Report) :
    Fields Choice → List (Except Diagnostic Blueprint) → Session × Report
  | [], _ => (session, report)
  | (_, .defined _) :: rest, [] => placeAll session report rest []
  | (_, .defined definition) :: rest, outcome :: outcomes =>
    let (session, report) := session.placeDefinition report definition outcome
    placeAll session report rest outcomes
  | (key, .picked pick) :: rest, outcomes =>
    let (session, report) := session.placePick report key pick
    placeAll session report rest outcomes

/-- The definition of a choice. -/
def definition? : Choice → Option Definition
  | .picked _ => none
  | .defined definition => some definition

/-- Takes in a batch: what stays of it is registered, then placed. -/
def ingest (session : Session) (picks : List Pick) (definitions : List Definition) :
    Session × Report :=
  let merged := Payload.merge session.catalog picks definitions
  let (registry, outcomes) :=
    session.registry.registerBatch (merged.filterMap fun (_, choice) => definition? choice)
  placeAll { session with registry } {} merged outcomes

/-- Takes in the text of a batch. -/
def ingestText (session : Session) (text : String) : Except PayloadError (Session × Report) := do
  let payload ← Payload.read text
  return session.ingest payload.picks payload.definitions

/-! ## Instances -/

/-- Places a component by its type, with properties that go over its own. -/
def place (session : Session) (typeId : String) (properties : Option Bag)
    (position : Option Position) : Except DocumentError (Session × InstanceId) :=
  match session.resolve? typeId with
  | none => .error (.unresolvedType typeId)
  | some component =>
    .ok (session.add (instanceOf component none (properties.getD [])
      (position.getD session.nextPosition)))

/-- Writes properties of an instance. -/
def update (session : Session) (id : InstanceId) (changes : Bag) :
    Except DocumentError Session := do
  return { session with document := ← session.document.update id changes }

/-- Moves an instance. -/
def move (session : Session) (id : InstanceId) (position : Position) :
    Except DocumentError Session := do
  return { session with document := ← session.document.move id position }

/-- Removes an instance. -/
def remove (session : Session) (id : InstanceId) : Except DocumentError (Session × Instance) := do
  let (document, removed) ← session.document.remove id
  return ({ session with document }, removed)

/-! ## Rendering and exporting -/

/-- Why an instance is not rendered. -/
inductive RenderError where
  | unknownInstance (id : InstanceId)
  | notCompiled (typeId : String)
  | halted (e : Blueprint.RenderError)
deriving DecidableEq

/-- The text of an error. -/
def RenderError.message : RenderError → String
  | .unknownInstance id => "unknown instance " ++ id.text
  | .notCompiled typeId => "no compiled unit is registered for \x60" ++ typeId ++ "\x60"
  | .halted e => e.message

/-- Renders an instance.  A component of the catalog is shown as one element in its place. -/
def render (session : Session) (id : InstanceId) (limits : Blueprint.Limits := {}) :
    Except RenderError (List Blueprint.RenderNode) :=
  match session.document.get? id with
  | none => .error (.unknownInstance id)
  | some placed =>
    match session.resolve? placed.typeId with
    | some (.generated entry) =>
      (entry.blueprint.instantiate placed.properties limits).mapError .halted
    | some (.ready entry) =>
      .ok [.element entry.typeId .catalog (Blueprint.Value.fieldsOfJson placed.properties) []]
    | none => .error (.notCompiled placed.typeId)

/-- The packages that the placed instances require, sorted. -/
def requiredPackages (session : Session) : List String :=
  Project.requiredPackages (session.document.instances.map (·.2)) session.catalog session.registry
    session.config.packages

/-- Exports the document. -/
def synthesize (session : Session) : Except ExportError Project :=
  Project.synthesize session.document session.catalog session.registry session.config

end Session

end ComponentCanvas
