import ComponentCanvas.Blueprint.Evaluation

/-!
# Rendering

A blueprint is rendered with a bag of properties: its constants are bound, its factory is called,
and the nodes that the result shows are the outcome.
-/

namespace ComponentCanvas.Blueprint

/-- How long rendering may run and how deeply calls may nest. -/
structure Limits where
  steps : Nat := 100000
  depth : Nat := 48

/-- Why a component is not rendered. -/
inductive RenderError where
  | stepBudgetExceeded (typeId : String) (budget : Nat)
  | depthExceeded (typeId : String) (limit : Nat)
deriving DecidableEq

/-- The text of an error. -/
def RenderError.message : RenderError → String
  | .stepBudgetExceeded typeId budget =>
    "rendering \x60" ++ typeId ++ "\x60 exceeded the step budget of " ++ toString budget
  | .depthExceeded typeId limit =>
    "rendering \x60" ++ typeId ++ "\x60 exceeded the call depth limit of " ++ toString limit

/-- The error of a halt. -/
def Halt.toError (typeId : String) (limits : Limits) : Halt → RenderError
  | .steps => .stepBudgetExceeded typeId limits.steps
  | .depth => .depthExceeded typeId limits.depth

/-- Binds the constants at the top level, in order. -/
def bindConstants {m : Type → Type} [Machine m] (env : Env) (call : Caller m) :
    List (Pattern × Expr) → m Unit
  | [] => return ()
  | (pattern, init) :: rest => do
    let v ← eval env call init
    bindPattern env call pattern v
    bindConstants env call rest

end ComponentCanvas.Blueprint

namespace ComponentCanvas

open Blueprint

/-- What a blueprint looks up outside all frames, under the given limits. -/
def Blueprint.env (b : Blueprint) (limits : Limits) : Env where
  helpers := b.helpers
  capabilities := b.capabilities
  budget := limits.steps

/-- The run that renders a blueprint. -/
def Blueprint.rendering {m : Type → Type} [Machine m] (b : Blueprint) (props : Bag)
    (limits : Limits) : m (List RenderNode) :=
  let env := b.env limits
  let call := callAt env limits.depth
  do
    bindConstants env call b.constants
    let v ← call b.factory [.map (Value.fieldsOfJson props)]
    return v.nodes

/-- The nodes that a blueprint is rendered to. -/
def Blueprint.instantiate (b : Blueprint) (props : Bag) (limits : Limits) :
    Except RenderError (List RenderNode) :=
  match (b.rendering props limits : Run _) ⟨0, [[]]⟩ with
  | .ok (nodes, _) => .ok nodes
  | .error halt => .error (halt.toError b.typeId limits)

end ComponentCanvas
