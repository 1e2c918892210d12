import ComponentCanvas.Scope
import ComponentCanvas.Script.Mentions

/-!
# The Names of a Script

The names that a script uses and binds, taken from its mentions without regard to scopes: a name
that is bound anywhere counts as bound everywhere.
-/

namespace ComponentCanvas

open Text (Span)
open Script (Mention)

/-- The names of a script. -/
structure Inventory where
  /-- The names in use, in the order of the source. -/
  references : List (String × Span)
  bindings : List String
  /-- Where modules are loaded. -/
  imports : List Span

namespace Inventory

/-- The name that a mention uses. -/
def reference? : Mention → Option (String × Span)
  | .reference name span => some (name, span)
  | _ => none

/-- The name that a mention binds. -/
def binding? : Mention → Option String
  | .binding name => some name
  | _ => none

/-- Where a mention loads a module. -/
def import? : Mention → Option Span
  | .dynamicImport span => some span
  | _ => none

/-- The names in a list of mentions. -/
def ofMentions (mentions : List Mention) : Inventory where
  references := mentions.filterMap reference?
  bindings := mentions.filterMap binding?
  imports := mentions.filterMap import?

/-- Whether a name is bound. -/
def binds (inventory : Inventory) (name : String) : Bool := inventory.bindings.contains name

/-- The first entry of each name. -/
def firstOfEach : List (String × Span) → List (String × Span)
  | [] => []
  | entry :: rest => entry :: (firstOfEach rest).filter (·.1 != entry.1)

/-- The names that neither are bound nor resolve in the scope, at their first use. -/
def unresolved (inventory : Inventory) (scope : Scope) : List (String × Span) :=
  firstOfEach <| inventory.references.filter fun (name, _) =>
    !inventory.binds name && !scope.isResolvable name

/-- The capabilities in use, sorted. -/
def capabilities (inventory : Inventory) (scope : Scope) : List String :=
  sortedNames <| (inventory.references.map (·.1)).filter fun name =>
    !inventory.binds name && Fields.contains scope name

end Inventory

end ComponentCanvas
