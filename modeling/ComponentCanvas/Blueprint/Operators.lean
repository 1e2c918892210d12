import ComponentCanvas.Blueprint.Coercion
import ComponentCanvas.Decimal.Remainder

/-!
# Operators on Values
-/

namespace ComponentCanvas.Blueprint

open Value (toText toNumber strictlyEquals looselyEquals)

/-- Whether a sum with the value is a text. -/
def Value.joins : Value → Bool
  | .string _ | .list _ | .map _ => true
  | _ => false

/-- Whether one value is before another: texts by their characters, others as numbers. -/
def Value.before (a b : Value) : Bool :=
  match a, b with
  | .string s, .string t => decide (s < t)
  | _, _ => decide (a.toNumber < b.toNumber)

/-- Whether one value is not after another: texts by their characters, others as numbers. -/
def Value.upTo (a b : Value) : Bool :=
  match a, b with
  | .string s, .string t => !decide (t < s)
  | _, _ => decide (a.toNumber ≤ b.toNumber)

/-- An operator before its operand. -/
def UnaryOperator.apply (op : UnaryOperator) (v : Value) : Value :=
  match op with
  | .not => .bool (!v.truthy)
  | .negate => .number (-v.toNumber)
  | .plus => .number v.toNumber
  | .typeOf => .string v.typeName

/-- An operator between two operands. -/
def BinaryOperator.apply (op : BinaryOperator) (a b : Value) : Value :=
  match op with
  | .add =>
    if a.joins || b.joins then .string (a.toText ++ b.toText)
    else .number (a.toNumber + b.toNumber)
  | .sub => .number (a.toNumber - b.toNumber)
  | .mul => .number (a.toNumber * b.toNumber)
  | .div => .number (a.toNumber / b.toNumber)
  | .rem => .number (Decimal.remainder a.toNumber b.toNumber)
  | .eq => .bool (looselyEquals a b)
  | .notEq => .bool (!looselyEquals a b)
  | .strictEq => .bool (strictlyEquals a b)
  | .strictNotEq => .bool (!strictlyEquals a b)
  | .lt => .bool (a.before b)
  | .ltEq => .bool (a.upTo b)
  | .gt => .bool (b.before a)
  | .gtEq => .bool (b.upTo a)

/-- Whether a logical operator takes its first operand. -/
def LogicalOperator.takesFirst (op : LogicalOperator) (v : Value) : Bool :=
  match op with
  | .and => !v.truthy
  | .or => v.truthy
  | .coalesce => !v.isNothing

end ComponentCanvas.Blueprint
