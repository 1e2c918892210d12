import ComponentCanvas.Blueprint.Calls
import ComponentCanvas.Blueprint.Operators

/-!
# Evaluation

Expressions and markup are evaluated by recursion on their structure, and so are patterns and
statements.  How a function is called is a parameter, as the body of a function is no part of the
expression that calls it.  `callAt` closes the circle by recursion on how many calls may still
nest.
-/

namespace ComponentCanvas.Blueprint

variable {m : Type → Type} [Machine m]

/-! ## Expressions and markup -/

/-- The items that a spread value adds to a list. -/
def spreadItems : Value → List Value
  | .list items => items
  | .string s => Value.characters s
  | _ => []

/-- The fields that a spread value adds to an object. -/
def spreadFields : Value → Fields Value
  | .map fields => fields
  | .list items => items.zipIdx.map fun (v, i) => (toString i, v)
  | _ => []

/-- The properties that a spread value adds to an element. -/
def spreadProps : Value → Fields Value
  | .map fields => fields
  | _ => []

/-- The value of rendered nodes: a single one stands for itself. -/
def nodesValue : List RenderNode → Value
  | [node] => .node node
  | nodes => .list (nodes.map .node)

/-- Properties that only the host reads. -/
def reservedProps : List String := ["key", "ref"]

/-- The properties that stay on a rendered element. -/
def shownProps (props : Fields Value) : Fields Value :=
  props.filter fun (name, v) => !reservedProps.contains name && v.isRenderable

/-- The properties of a helper with its children. -/
def withChildren (props : Fields Value) (children : List RenderNode) : Fields Value :=
  if children.isEmpty then props
  else Fields.insert props "children" (.list (children.map .node))

/-- An element whose properties and children are known.  A helper that is a function is called. -/
def renderElement (env : Env) (call : Caller m) (tag : String) (kind : TagKind)
    (props : Fields Value) (children : List RenderNode) : m (List RenderNode) := do
  let plain := [RenderNode.element tag kind (shownProps props) children]
  if kind == .helper then
    match ← lookUp env tag with
    | .function f => return (← call f [.map (withChildren props children)]).nodes
    | _ => return plain
  else return plain

mutual

/-- The value of an expression. -/
def eval (env : Env) (call : Caller m) : Expr → m Value
  | .undefined => do
    tick env
    noted .undefined
  | .unmodelled _ => do
    tick env
    noted .undefined
  | .null => do
    tick env
    noted .null
  | .bool b => do
    tick env
    noted (.bool b)
  | .number x => do
    tick env
    noted (.number x)
  | .string s => do
    tick env
    noted (.string s)
  | .name name => do
    tick env
    noted (← lookUp env name)
  | .template quasis exprs => do
    tick env
    noted (.string (← evalTemplate env call exprs quasis ""))
  | .array items => do
    tick env
    noted (.list (← evalItems env call items))
  | .object entries => do
    tick env
    noted (.map (← evalFields env call spreadFields entries []))
  | .member object key => do
    tick env
    let v ← eval env call object
    let name ← eval env call key
    noted (v.member name.toText)
  | .unary op e => do
    tick env
    noted (op.apply (← eval env call e))
  | .binary op left right => do
    tick env
    let a ← eval env call left
    let b ← eval env call right
    noted (op.apply a b)
  | .logical op left right => do
    tick env
    let a ← eval env call left
    if op.takesFirst a then noted a else noted (← eval env call right)
  | .conditional test consequent alternate => do
    tick env
    let v ← eval env call test
    if v.truthy then noted (← eval env call consequent) else noted (← eval env call alternate)
  | .call (.member object key) args => do
    tick env
    let v ← eval env call object
    let method ← eval env call key
    let values ← evalList env call args
    noted (← callMethod env call v method.toText values)
  | .call callee args => do
    tick env
    let v ← eval env call callee
    let values ← evalList env call args
    noted (← callValue env call v values)
  | .function f => do
    tick env
    noted (.function f)
  | .markup node => do
    tick env
    noted (nodesValue (← renderNode env call node))

/-- The values of expressions, in order. -/
def evalList (env : Env) (call : Caller m) : List Expr → m (List Value)
  | [] => return []
  | e :: rest => do
    let v ← eval env call e
    return v :: (← evalList env call rest)

/-- The text of a template from what stands before a stretch on. -/
def evalTemplate (env : Env) (call : Caller m) : List Expr → List String → String → m String
  | [], quasis, text => return text ++ String.join quasis
  | _ :: _, [], text => return text
  | e :: rest, quasi :: quasis, text => do
    let v ← eval env call e
    evalTemplate env call rest quasis (text ++ quasi ++ v.toText)

/-- The values of the items of an array, in order. -/
def evalItems (env : Env) (call : Caller m) : List Item → m (List Value)
  | [] => return []
  | .value e :: rest => do
    let v ← eval env call e
    return v :: (← evalItems env call rest)
  | .spread e :: rest => do
    let v ← eval env call e
    return spreadItems v ++ (← evalItems env call rest)

/-- The fields of an object or the properties of an element, written over those before them. -/
def evalFields (env : Env) (call : Caller m) (spread : Value → Fields Value) :
    List Entry → Fields Value → m (Fields Value)
  | [], fields => return fields
  | .field key e :: rest, fields => do
    let v ← eval env call e
    evalFields env call spread rest (Fields.insert fields key v)
  | .spread e :: rest, fields => do
    let v ← eval env call e
    evalFields env call spread rest (Fields.insertAll fields (spread v))

/-- The nodes that a node of markup is rendered to. -/
def renderNode (env : Env) (call : Caller m) : Node → m (List RenderNode)
  | .text s => do
    tick env
    return [.text s]
  | .expr e => do
    tick env
    return (← eval env call e).nodes
  | .fragment children => do
    tick env
    renderNodes env call children
  | .element tag kind attributes children => do
    tick env
    let props ← evalFields env call spreadProps attributes []
    let nodes ← renderNodes env call children
    renderElement env call tag kind props nodes

/-- The nodes that nodes of markup are rendered to, in order. -/
def renderNodes (env : Env) (call : Caller m) : List Node → m (List RenderNode)
  | [] => return []
  | node :: rest => do
    let nodes ← renderNode env call node
    return nodes ++ (← renderNodes env call rest)

end

/-! ## Patterns and statements -/

/-- The fields that no slot of a pattern names. -/
def restFields (slots : List Slot) : Value → Fields Value
  | .map fields =>
    fields.filter fun (name, _) => !slots.any fun
      | .field key _ => key == name
      | _ => false
  | _ => []

mutual

/-- Binds the names of a pattern to the parts of a value. -/
def bindPattern (env : Env) (call : Caller m) : Pattern → Value → m Unit
  | .name name, v => declare name v
  | .object slots rest, v => do
    bindFields env call slots v
    match rest with
    | some name => declare name (.map (restFields slots v))
    | none => return ()
  | .array slots rest, v => do
    let items := spreadItems v
    bindItems env call slots items
    match rest with
    | some name => declare name (.list (items.drop slots.length))
    | none => return ()
  | .withDefault pattern default, v =>
    match v with
    | .undefined => do
      let v ← eval env call default
      bindPattern env call pattern v
    | v => bindPattern env call pattern v

/-- Binds the slots of an object pattern to members of a value. -/
def bindFields (env : Env) (call : Caller m) : List Slot → Value → m Unit
  | [], _ => return ()
  | .field key pattern :: rest, v => do
    bindPattern env call pattern (v.member key)
    bindFields env call rest v
  | .element _ :: rest, v => bindFields env call rest v
  | .hole :: rest, v => bindFields env call rest v

/-- Binds the slots of an array pattern to items in order. -/
def bindItems (env : Env) (call : Caller m) : List Slot → List Value → m Unit
  | [], _ => return ()
  | .element pattern :: rest, items => do
    bindPattern env call pattern (items.headD .undefined)
    bindItems env call rest items.tail
  | .field _ _ :: rest, items => bindItems env call rest items.tail
  | .hole :: rest, items => bindItems env call rest items.tail

end

/-- Binds patterns to arguments; a missing one is undefined. -/
def bindParams (env : Env) (call : Caller m) : List Pattern → List Value → m Unit
  | [], _ => return ()
  | pattern :: rest, args => do
    bindPattern env call pattern (args.headD .undefined)
    bindParams env call rest args.tail

/-- The value of an expression; undefined if there is none. -/
def evalOptional (env : Env) (call : Caller m) : Option Expr → m Value
  | some e => eval env call e
  | none => return .undefined

mutual

/-- Runs a statement; the result is what it returns, if it does. -/
def exec (env : Env) (call : Caller m) : Stmt → m (Option Value)
  | .bind pattern init => do
    tick env
    let v ← evalOptional env call init
    bindPattern env call pattern v
    return none
  | .cond test consequent alternate => do
    tick env
    let v ← eval env call test
    if v.truthy then execAll env call consequent else execAll env call alternate
  | .ret e => do
    tick env
    let v ← evalOptional env call e
    return some v
  | .effect _ => do
    tick env
    return none

/-- Runs statements up to the first that returns. -/
def execAll (env : Env) (call : Caller m) : List Stmt → m (Option Value)
  | [] => return none
  | stmt :: rest => do
    match ← exec env call stmt with
    | some v => return some v
    | none => execAll env call rest

end

/-! ## Calls -/

/-- Runs a function in a frame of its own. -/
def runFunction (env : Env) (call : Caller m) (f : Function) (args : List Value) : m Value := do
  openFrame
  bindParams env call f.params args
  let result ← execAll env call f.body
  closeFrame
  noted (result.getD .undefined)

/-- Calls a function where a number of calls may still nest. -/
def callAt (env : Env) : Nat → Caller m
  | 0 => fun _ _ => throw .depth
  | depth + 1 => runFunction env (callAt env depth)

end ComponentCanvas.Blueprint
