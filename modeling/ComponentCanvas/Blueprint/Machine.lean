import ComponentCanvas.Blueprint.Value
import ComponentCanvas.Scope

/-!
# The Machine

Rendering runs with a budget of steps and a limit on how deeply calls nest.  Names are looked up in
the frames of all calls that are open, innermost first: a function sees what its caller has bound.
Below all frames lies that of the constants at the top level.

A machine is told what happens while it renders.  The one that components are rendered on takes no
note of it.
-/

namespace ComponentCanvas.Blueprint

/-- The names that a call has bound. -/
abbrev Frame := Fields Value

/-- What stays the same while a component is rendered. -/
structure Env where
  helpers : Fields Function
  capabilities : List String
  /-- The number of steps that may be taken. -/
  budget : Nat

/-- What changes while a component is rendered. -/
structure State where
  /-- The number of steps that have been taken. -/
  steps : Nat
  /-- The frames, innermost first. -/
  frames : List Frame

/-- Why rendering stops. -/
inductive Halt where
  | steps
  | depth
deriving DecidableEq

/-- What happens while a component is rendered. -/
inductive Event where
  /-- An evaluation or a call has a result. -/
  | result (v : Value)
  /-- A name is bound in a frame. -/
  | bound (name : String) (v : Value)
  /-- A builtin is called. -/
  | called (name : String)

/-- A machine that components are rendered on. -/
class Machine (m : Type → Type) extends Monad m, MonadStateOf State m, MonadExceptOf Halt m where
  /-- Takes note of an event. -/
  note : Event → m Unit
  /-- Takes note of a name that is about to be looked up. -/
  noteName : String → m Unit := fun _ => pure ()

/-- A computation on the machine that takes no notes. -/
abbrev Run := StateT State (Except Halt)

instance : Machine Run where
  note _ := return ()

section Operations

variable {m : Type → Type} [Machine m]

/-- The result of an evaluation or a call, which the machine takes note of. -/
def noted (v : Value) : m Value := do
  Machine.note (.result v)
  return v

/-- Takes a step. -/
def tick (env : Env) : m Unit := do
  let s ← get
  if env.budget < s.steps + 1 then throw .steps
  else set { s with steps := s.steps + 1 }

/-- Binds a name in the innermost frame. -/
def declare (name : String) (value : Value) : m Unit := do
  Machine.note (.bound name value)
  modify fun s => match s.frames with
    | frame :: outer => { s with frames := Fields.insert frame name value :: outer }
    | [] => s

/-- Opens a frame. -/
def openFrame : m Unit := modify fun s => { s with frames := [] :: s.frames }

/-- Closes the innermost frame. -/
def closeFrame : m Unit := modify fun s => { s with frames := s.frames.tail }

end Operations

/-- How a function is called. -/
abbrev Caller (m : Type → Type) := Function → List Value → m Value

/-- The value of a name that no frame binds. -/
def Env.global (env : Env) (name : String) : Value :=
  match Fields.get? env.helpers name with
  | some f => .function f
  | none =>
    match name with
    | "NaN" => .number Decimal.nan
    | "Infinity" => .number Decimal.infinity
    | "undefined" => .undefined
    | _ =>
      if Scope.safeGlobals.contains name || env.capabilities.contains name then .builtin name
      else .undefined

/-- The value that the frames bind a name to. -/
def boundValue? (frames : List Frame) (name : String) : Option Value :=
  frames.findSome? fun frame => Fields.get? frame name

/-- The value of a name. -/
def lookUp {m : Type → Type} [Machine m] (env : Env) (name : String) : m Value := do
  Machine.noteName name
  return (boundValue? (← get).frames name).getD (env.global name)

end ComponentCanvas.Blueprint
