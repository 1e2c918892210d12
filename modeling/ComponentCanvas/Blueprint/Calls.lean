import ComponentCanvas.Blueprint.Builtins
import ComponentCanvas.Blueprint.Machine

/-!
# Calls

Calls of functions, builtins and methods.  How a function of the component is called is a
parameter.  A builtin may call what it is given, and what it is given may be a builtin, but such
calls do not go on: a builtin that a builtin calls gets no arguments, or an item and its index, and
an index cannot be called.
-/

namespace ComponentCanvas.Blueprint

variable {m : Type → Type} [Machine m]

/-- The value of a builtin that is called without arguments. -/
def bareBuiltin (name : String) : Value :=
  match name with
  | "useState" => statePair .undefined
  | "Array.from" => .list []
  | _ => builtin name []

/-- Calls a value without arguments. -/
def callBare (call : Caller m) : Value → m Value
  | .function f => call f []
  | .builtin name => do
    Machine.note (.called name)
    noted (bareBuiltin name)
  | _ => return .undefined

/-- Takes a step for each of a number of slots and fills them with undefined. -/
def emptySlots (env : Env) : Nat → List Value → m (List Value)
  | 0, slots => return slots
  | n + 1, slots => do
    tick env
    emptySlots env n (.undefined :: slots)

/-- The items that a list is made from: those of a list, the characters of a text, or as many
slots as the length of a map says. -/
def itemsFrom (env : Env) (v : Value) : m (List Value) :=
  match v with
  | .list items => return items
  | .string s => return Value.characters s
  | .map _ =>
    let x := (v.member "length").toNumber
    emptySlots env (if Decimal.isFinite x then Value.sizeOf x else 0) []
  | _ => return []

/-- Runs a builtin; how it maps the items of a list is a parameter. -/
def runBuiltin (env : Env) (call : Caller m) (mapItems : Value → List Value → m (List Value))
    (name : String) (args : List Value) : m Value :=
  match name with
  | "useState" =>
    match argument args 0 with
    | .function f => do return statePair (← callBare call (.function f))
    | .builtin b => do return statePair (← callBare call (.builtin b))
    | v => return statePair v
  | "useMemo" => callBare call (argument args 0)
  | "Array.from" => do
    let items ← itemsFrom env (argument args 0)
    match (args[1]? : Option Value) with
    | some mapper => return .list (← mapItems mapper items)
    | none => return .list items
  | _ => return builtin name args

/-- Calls a builtin; how it maps the items of a list is a parameter. -/
def builtinWith (env : Env) (call : Caller m) (mapItems : Value → List Value → m (List Value))
    (name : String) (args : List Value) : m Value := do
  Machine.note (.called name)
  noted (← runBuiltin env call mapItems name args)

/-- Maps items by something that cannot be called. -/
def mapToUndefined (_ : Value) (items : List Value) : m (List Value) :=
  return items.map fun _ => .undefined

/-- Calls a value for an item of a list and its index. -/
def callOnItem (env : Env) (call : Caller m) (callee item : Value) (index : Nat) : m Value :=
  let args := [item, .number (Float.ofNat index)]
  match callee with
  | .function f => call f args
  | .builtin name => builtinWith env call mapToUndefined name args
  | _ => return .undefined

/-! ## Methods of lists that call -/

/-- Maps items, which are counted from an index. -/
def mapItems (env : Env) (call : Caller m) (callee : Value) :
    Nat → List Value → m (List Value)
  | _, [] => return []
  | i, item :: rest => do
    let v ← callOnItem env call callee item i
    return v :: (← mapItems env call callee (i + 1) rest)

/-- The items for which a call holds. -/
def filterItems (env : Env) (call : Caller m) (callee : Value) :
    Nat → List Value → m (List Value)
  | _, [] => return []
  | i, item :: rest => do
    let keep ← callOnItem env call callee item i
    let kept ← filterItems env call callee (i + 1) rest
    return if keep.truthy then item :: kept else kept

/-- The first item for which a call gives what is wanted. -/
def findItem (env : Env) (call : Caller m) (callee : Value) (wanted : Bool) :
    Nat → List Value → m (Option Value)
  | _, [] => return none
  | i, item :: rest => do
    let v ← callOnItem env call callee item i
    if v.truthy == wanted then return some item
    else findItem env call callee wanted (i + 1) rest

/-- Calls a method of a list. -/
def callListMethod (env : Env) (call : Caller m) (items : List Value) (method : String)
    (args : List Value) : m Value :=
  let callee := argument args 0
  match method with
  | "map" => do return .list (← mapItems env call callee 0 items)
  | "filter" => do return .list (← filterItems env call callee 0 items)
  | "find" => do return (← findItem env call callee true 0 items).getD .undefined
  | "some" => do return .bool (← findItem env call callee true 0 items).isSome
  | "every" => do return .bool (← findItem env call callee false 0 items).isNone
  | _ => return listMethod items method args

/-! ## Calls of any value -/

/-- Calls a builtin. -/
def callBuiltin (env : Env) (call : Caller m) (name : String) (args : List Value) : m Value :=
  builtinWith env call (fun mapper items => mapItems env call mapper 0 items) name args

/-- Calls a value. -/
def callValue (env : Env) (call : Caller m) (callee : Value) (args : List Value) : m Value :=
  match callee with
  | .function f => call f args
  | .builtin name => callBuiltin env call name args
  | _ => return .undefined

/-- Takes a step for each of a number of characters, which repeat a text from the place given by
its rest. -/
def padChars (env : Env) (fill : List Char) : Nat → List Char → List Char → m (List Char)
  | 0, _, taken => return taken.reverse
  | n + 1, rest, taken => do
    tick env
    match rest with
    | c :: rest => padChars env fill n rest (c :: taken)
    | [] => padChars env fill n fill.tail (fill.headD ' ' :: taken)

/-- Fills a text up to a width. -/
def pad (env : Env) (s : String) (atStart : Bool) (padding : Padding) : m Value :=
  let length := s.toList.length
  if padding.width ≤ length || padding.fill.isEmpty then return .string s
  else do
    let chars ← padChars env padding.fill (padding.width - length) padding.fill []
    return ofChars (if atStart then chars ++ s.toList else s.toList ++ chars)

/-- Calls a method of a value. -/
def callMethod (env : Env) (call : Caller m) (object : Value) (method : String)
    (args : List Value) : m Value :=
  match object with
  | .list items => callListMethod env call items method args
  | .string s =>
    if method == "padStart" then pad env s true (.ofArguments args)
    else if method == "padEnd" then pad env s false (.ofArguments args)
    else return stringMethod s method args
  | .number x => return numberMethod x method args
  | .map fields =>
    match Fields.get? fields method with
    | some callee => callValue env call callee args
    | none => return .undefined
  | .builtin space => callBuiltin env call (space ++ "." ++ method) args
  | _ => return .undefined

end ComponentCanvas.Blueprint
