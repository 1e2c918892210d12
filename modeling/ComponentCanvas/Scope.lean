import ComponentCanvas.Config.Basic

/-!
# The Scope of Generated Components

A generated component may use its own names, the capabilities that are injected into it, and a
short list of globals without side effects.  Nothing else resolves.
-/

namespace ComponentCanvas

/-- How a capability is imported from its module. -/
inductive ImportStyle where
  | default | named
deriving DecidableEq

/-- A name that is injected into generated components. -/
structure Capability where
  name : String
  module : String
  style : ImportStyle
  /-- A primitive element of the user interface, as opposed to a hook or the host namespace. -/
  isAtom : Bool

/-- The capabilities of generated components, sorted by name. -/
abbrev Scope := Fields Capability

namespace Scope

/-- Globals that may be used without a binding. -/
def safeGlobals : List String :=
  ["Math", "JSON", "String", "Number", "Boolean", "Array", "Object", "Date", "console",
   "undefined", "NaN", "Infinity", "parseInt", "parseFloat", "isNaN"]

/-- The name of the host namespace. -/
def hostNamespace : String := "React"

/-- The capabilities in the order in which they are declared; of two with one name the later one
counts. -/
def declared (config : CapabilityConfig) : List Capability :=
  ⟨hostNamespace, config.hostModule, .default, false⟩ ::
    (config.hooks.map fun hook => ⟨hook, config.hostModule, .named, false⟩) ++
    config.atoms.map fun atom => ⟨atom, config.atomsModule, .named, true⟩

/-- The scope that a configuration gives. -/
def ofConfig (config : CapabilityConfig) : Scope :=
  (declared config).foldl (fun scope c => Fields.insertSorted scope c.name c) []

/-- Whether the name is a primitive element. -/
def isAtom (scope : Scope) (name : String) : Bool := (Fields.get? scope name).any (·.isAtom)

/-- Whether the name may be used without a binding. -/
def isResolvable (scope : Scope) (name : String) : Bool :=
  Fields.contains scope name || safeGlobals.contains name

end Scope

end ComponentCanvas
