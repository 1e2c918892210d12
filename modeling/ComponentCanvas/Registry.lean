import ComponentCanvas.Blueprint.Compilation
import ComponentCanvas.Catalog.Basic
import ComponentCanvas.Payload.Basic

/-!
# The Registry of Generated Components

A session keeps the generated components that it has accepted, by canonical type.  A source that is
registered already is not compiled again; a source that is turned down leaves what was registered
before.  Generated components stand in front of those of the catalog.
-/

namespace ComponentCanvas

/-- A generated component that has been accepted. -/
structure Registered where
  typeId : String
  category : Category
  defaultProperties : Bag
  /-- The source without a fence around it. -/
  source : String
  blueprint : Blueprint

/-- The generated components of a session. -/
structure Registry where
  scope : Scope
  /-- The accepted components by type, in the order in which the types were first accepted. -/
  entries : Fields Registered := []

/-- What a type stands for. -/
inductive Component where
  | generated (entry : Registered)
  | ready (entry : Catalog.Entry)

namespace Component

/-- The canonical type. -/
def typeId : Component → String
  | .generated entry => entry.typeId
  | .ready entry => entry.typeId

/-- The category of an instance that is given none. -/
def category : Component → Category
  | .generated entry => entry.category
  | .ready entry => entry.category

/-- The properties of an instance that is given none. -/
def defaultProperties : Component → Bag
  | .generated entry => entry.defaultProperties
  | .ready entry => entry.defaultProperties

end Component

namespace Registry

/-- The generated component of a type, whatever way the type is written. -/
def get? (registry : Registry) (typeId : String) : Option Registered :=
  Fields.get? registry.entries (TypeId.canonical typeId)

/-- Whether a type is generated. -/
def contains (registry : Registry) (typeId : String) : Bool := (registry.get? typeId).isSome

/-- What a type stands for. -/
def resolve? (registry : Registry) (catalog : Catalog) (typeId : String) : Option Component :=
  match registry.get? typeId with
  | some entry => some (.generated entry)
  | none =>
    (catalog.resolve? typeId).map fun entry =>
      ((registry.get? entry.typeId).map Component.generated).getD (.ready entry)

/-- The blueprint of a definition of which the source is registered already. -/
def current? (registry : Registry) (definition : Definition) : Option Blueprint := do
  let entry ← registry.get? definition.typeId
  if entry.blueprint.sourceHash == Digest.ofText definition.source then some entry.blueprint
  else none

/-- Compiles a definition in the scope of the registry. -/
def compile (registry : Registry) (definition : Definition) : Except Diagnostic Blueprint :=
  Blueprint.compile definition.typeId definition.source registry.scope

/-- The entry of a definition that has been compiled. -/
def entryOf (definition : Definition) (blueprint : Blueprint) : Registered where
  typeId := blueprint.typeId
  category := definition.category
  defaultProperties := definition.defaultProperties
  source := Payload.stripFence definition.source
  blueprint := blueprint

/-- The registry after a definition has been compiled. -/
def settle (registry : Registry) (definition : Definition) :
    Except Diagnostic Blueprint → Registry
  | .ok blueprint =>
    { registry with
      entries := Fields.insert registry.entries blueprint.typeId (entryOf definition blueprint) }
  | .error _ => registry

/-- Registers a definition. -/
def register (registry : Registry) (definition : Definition) :
    Registry × Except Diagnostic Blueprint :=
  match registry.current? definition with
  | some blueprint => (registry, .ok blueprint)
  | none =>
    let compiled := registry.compile definition
    (registry.settle definition compiled, compiled)

/-- Helper: registers definitions, each with the outcome of its compilation.  A definition without
one was registered already when the batch began. -/
def settleAll (registry : Registry) :
    List (Definition × Option (Except Diagnostic Blueprint)) →
    Registry × List (Except Diagnostic Blueprint)
  | [] => (registry, [])
  | (definition, some compiled) :: rest =>
    let (final, outcomes) := settleAll (registry.settle definition compiled) rest
    (final, compiled :: outcomes)
  | (definition, none) :: rest =>
    let outcome := match registry.current? definition with
      | some blueprint => .ok blueprint
      | none => .error (.general .lostUnit)
    let (final, outcomes) := settleAll registry rest
    (final, outcome :: outcomes)

/-- Registers a batch: all definitions are compiled against the registry as it stands, and then
registered in order. -/
def registerBatch (registry : Registry) (definitions : List Definition) :
    Registry × List (Except Diagnostic Blueprint) :=
  registry.settleAll <| definitions.map fun definition =>
    (definition,
      if (registry.current? definition).isSome then none else some (registry.compile definition))

/-- The types that are registered, in order. -/
def typeIds (registry : Registry) : List String := Fields.keys registry.entries

end Registry

end ComponentCanvas
