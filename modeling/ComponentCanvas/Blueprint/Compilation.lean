import ComponentCanvas.Blueprint.Lowering
import ComponentCanvas.Digest
import ComponentCanvas.Payload.Fence
import ComponentCanvas.Script.Parser
import ComponentCanvas.Validation

/-!
# Compilation

From the text of a generated component to its blueprint: the fence is taken off, the script is
read, checked and lowered.  The digest is that of the text as given.
-/

namespace ComponentCanvas.Blueprint

/-- The diagnostic of a text that is no script. -/
def unreadable (source : String) (e : Script.SyntaxError) : Diagnostic :=
  ⟨.unreadable e.fault, Text.lineColumn source.toList e.offset, none⟩

/-- Compiles the source of a component of the given type. -/
def compile (typeId source : String) (scope : Scope) : Except Diagnostic Blueprint := do
  let canonical := TypeId.canonical typeId
  if canonical.isEmpty then throw (.general .noTypeId)
  let code := Payload.stripFence source
  if code.isEmpty then throw (.general .emptySource)
  let program ← (Script.Program.read code).mapError (unreadable code)
  let validated ← validate program code typeId scope
  match ofProgram? program code scope canonical validated.factoryName validated.capabilities
      (Digest.ofText source) with
  | some blueprint => return blueprint
  | none => throw (.general (.notLowered validated.factoryName))

end ComponentCanvas.Blueprint
