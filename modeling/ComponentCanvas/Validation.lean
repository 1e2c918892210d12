import ComponentCanvas.TypeId
import ComponentCanvas.Validation.Diagnostic
import ComponentCanvas.Validation.Factory
import ComponentCanvas.Validation.Inventory

/-!
# Validation

A generated source is accepted if it imports and exports nothing, has exactly one factory with the
name of its type, that factory returns markup, and every name resolves.  The checks run in this
order, and the first that fails gives the diagnostic.
-/

namespace ComponentCanvas

open Text (Span)
open Script (Stmt ModuleForm Program)

/-- What validation finds out about an accepted source. -/
structure Validated where
  factoryName : String
  /-- The capabilities in use, sorted. -/
  capabilities : List String

namespace Validation

/-- The import or export that a statement declares. -/
def moduleForm? : Stmt → Option (Span × ModuleForm)
  | .moduleItem span (.declaration form) _ => some (span, form)
  | _ => none

/-- Requires that nothing is declared to be imported or exported, and that no module is loaded at
run time. -/
def requireSelfContained (program : Program) (inventory : Inventory) (source : String) :
    Except Diagnostic Unit :=
  match program.body.findSome? moduleForm? with
  | some (span, form) => throw (.ofSpan (.moduleItem form) source span)
  | none =>
    match inventory.imports with
    | span :: _ => throw (.ofSpan .dynamicImport source span)
    | [] => return ()

/-- The one factory that has the name of the type, as it is written or in canonical form. -/
def locateFactory (factories : List Factory) (typeId source : String) :
    Except Diagnostic Factory :=
  let canonical := TypeId.canonical typeId
  let named := fun (f : Factory) => f.name == Text.trimmed typeId || f.name == canonical
  match factories.filter named, factories with
  | [factory], _ => return factory
  | _ :: second :: _, _ => throw (.ofSpan (.severalFactories second.name) source second.span)
  | [], [] => throw (.general (.noFactory typeId canonical))
  | [], first :: _ =>
    throw (.ofSpan (.otherFactories canonical (factories.map (·.name))) source first.span)

/-- Requires that the factory returns markup. -/
def requireMarkup (factory : Factory) (source : String) : Except Diagnostic Unit :=
  if anyReturnsMarkup factory.body then return ()
  else throw (.ofSpan (.notMarkup factory.name) source factory.span)

/-- Requires that every name resolves. -/
def requireResolved (inventory : Inventory) (scope : Scope) (source : String) :
    Except Diagnostic Unit :=
  match inventory.unresolved scope with
  | [] => return ()
  | (name, span) :: others =>
    throw (.ofSpan (.unresolved name (others.map (·.1)) (Fields.keys scope)) source span)

end Validation

open Validation in
/-- Runs all checks on a script. -/
def validate (program : Program) (source typeId : String) (scope : Scope) :
    Except Diagnostic Validated := do
  if program.body.isEmpty then throw (.general .emptySource)
  let inventory := Inventory.ofMentions program.mentions
  requireSelfContained program inventory source
  let factory ← locateFactory (Factory.ofProgram program) typeId source
  requireMarkup factory source
  requireResolved inventory scope source
  return ⟨factory.name, inventory.capabilities scope⟩

end ComponentCanvas
