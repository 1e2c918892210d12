import ComponentCanvas.Script.Syntax

/-!
# Assignment Targets

An assignment is read as an expression first; what stands on its left is then checked to be
something that can be assigned to.  An object literal may hold a name with a default only if it
turns out to be such a target.
-/

namespace ComponentCanvas.Script

/-- Whether an expression is a single place that can be assigned to: a name or a member, perhaps
in parentheses or under a type assertion. -/
def Expr.isPlace : Expr → Bool
  | .mk _ (.name _) => true
  | .mk _ (.member _ _) => true
  | .mk _ (.other .hiddenMember _) => true
  | .mk _ (.paren e) => e.isPlace
  | .mk _ (.assertion _ e _) => e.isPlace
  | _ => false

mutual

/-- The offsets of the names with a default in an assignment target; `none` if the expression is
no target. -/
def Expr.targetDefaults? : Expr → Option (List Nat)
  | .mk _ (.name _) => some []
  | .mk _ (.member _ _) => some []
  | .mk _ (.other .hiddenMember _) => some []
  | .mk _ (.paren e) => if e.isPlace then some [] else none
  | .mk _ (.assertion _ e _) => if e.isPlace then some [] else none
  | .mk _ (.array items) => Item.targetDefaults? items
  | .mk _ (.object members) => Member.targetDefaults? members
  | _ => none

/-- The offsets of the names with a default in the target of an item, which may be an assignment
itself. -/
def Expr.partDefaults? : Expr → Option (List Nat)
  | .mk _ (.other .assignment _) => some []
  | .mk _ (.name _) => some []
  | .mk _ (.member _ _) => some []
  | .mk _ (.other .hiddenMember _) => some []
  | .mk _ (.paren e) => if e.isPlace then some [] else none
  | .mk _ (.assertion _ e _) => if e.isPlace then some [] else none
  | .mk _ (.array items) => Item.targetDefaults? items
  | .mk _ (.object members) => Member.targetDefaults? members
  | _ => none

/-- The offsets of the names with a default in an array target. -/
def Item.targetDefaults? : List Item → Option (List Nat)
  | [] => some []
  | .hole :: rest => Item.targetDefaults? rest
  | .value e :: rest => return (← e.partDefaults?) ++ (← Item.targetDefaults? rest)
  | [.spread _ e] => e.targetDefaults?
  | _ => none

/-- The offsets of the names with a default in an object target. -/
def Member.targetDefaults? : List Member → Option (List Nat)
  | [] => some []
  | .field _ _ value :: rest => return (← value.partDefaults?) ++ (← Member.targetDefaults? rest)
  | .defaulted name _ :: rest => return name.span.start :: (← Member.targetDefaults? rest)
  | [.spread e] => if e.isPlace then some [] else none
  | _ => none

end

end ComponentCanvas.Script
