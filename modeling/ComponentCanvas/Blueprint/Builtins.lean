import ComponentCanvas.Blueprint.Methods
import ComponentCanvas.Json.Printer

/-!
# Builtins

Hooks and global functions that call no function of the component.  A hook gives the value that it
has when a component is first rendered.
-/

namespace ComponentCanvas.Blueprint

/-- The number that the start of a text spells, if there is one. -/
def leadingNumber (s : String) (integer : Bool) : Float :=
  let part := Decimal.leadingPart integer (Text.trimStart s.toList)
  if part.any Decimal.isDigit then
    (Decimal.read? (if part.getLast? = some '.' then part.dropLast else part)).getD Decimal.nan
  else Decimal.nan

/-- The greater of two numbers; what is not a number does not count. -/
def greater (a b : Float) : Float := if a < b || a.isNaN then b else a

/-- The lesser of two numbers; what is not a number does not count. -/
def lesser (a b : Float) : Float := if b < a || a.isNaN then b else a

/-- The value of a builtin that calls nothing. -/
def builtin (name : String) (args : List Value) : Value :=
  let first := argument args 0
  let x := first.toNumber
  match name with
  | "useRef" => .map [("current", first)]
  | "useCallback" => first
  | "String" => .string (if args.isEmpty then "" else first.toText)
  | "Number" => .number (if args.isEmpty then 0.0 else x)
  | "Boolean" => .bool first.truthy
  | "parseInt" => .number (leadingNumber first.toText true)
  | "parseFloat" => .number (leadingNumber first.toText false)
  | "isNaN" => .bool x.isNaN
  | "Math.max" => .number ((args.map Value.toNumber).foldl greater (-Decimal.infinity))
  | "Math.min" => .number ((args.map Value.toNumber).foldl lesser Decimal.infinity)
  | "Math.round" => .number (x + 0.5).floor
  | "Math.floor" => .number x.floor
  | "Math.ceil" => .number x.ceil
  | "Math.abs" => .number x.abs
  | "Math.sqrt" => .number x.sqrt
  | "Math.pow" =>
    let operand := fun i => (args[i]?.map Value.toNumber).getD Decimal.nan
    .number (Float.pow (operand 0) (operand 1))
  | "JSON.stringify" => .string (Json.compact first.toJson)
  | "Object.keys" =>
    match first with
    | .map fields => .list (fields.map fun field => .string field.1)
    | _ => .list []
  | "Object.values" =>
    match first with
    | .map fields => .list (fields.map (·.2))
    | _ => .list []
  | "Object.entries" =>
    match first with
    | .map fields => .list (fields.map fun field => .list [.string field.1, field.2])
    | _ => .list []
  | "Array.isArray" =>
    match first with
    | .list _ => .bool true
    | _ => .bool false
  | _ => .undefined

/-- The value of the hook for a state: the state and what sets it. -/
def statePair (initial : Value) : Value := .list [initial, .builtin "setState"]

end ComponentCanvas.Blueprint
