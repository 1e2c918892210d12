import ComponentCanvas.Script.Syntax

/-!
# Factories

A factory is a function at the top level of a script whose name opens with a capital letter.  The
factory of a component has to return markup.
-/

namespace ComponentCanvas

open Text (Span)
open Script (Expr Stmt Function Binder Program)

/-- A function that may be the factory of a component. -/
structure Factory where
  name : String
  span : Span
  body : List Stmt

namespace Factory

/-- Whether a name is one of a component: its first letter is an ASCII capital. -/
def isComponentName (name : String) : Bool := name.toList.head?.any fun c => 'A' ≤ c && c ≤ 'Z'

/-- The function that an expression is. -/
def functionOf? : Expr → Option Function
  | .mk _ (.arrow f) => some f
  | .mk _ (.function f) => some f
  | _ => none

/-- A function with a body as a factory, if its name allows that. -/
def ofFunction? (name : String) (span : Span) (f : Function) : Option Factory :=
  if f.hasBody && isComponentName name then some ⟨name, span, f.body⟩ else none

/-- The factory that a declared variable is. -/
def ofBinder? : Binder → Option Factory
  | .mk span _ _ (.name name) _ (some e) => (functionOf? e).bind (ofFunction? name span)
  | _ => none

/-- The factories that a statement declares. -/
def ofStmt : Stmt → List Factory
  | .function f => match f with
    | .mk span (some name) _ _ _ _ _ => (ofFunction? name span f).toList
    | _ => []
  | .vars _ binders => binders.filterMap ofBinder?
  | _ => []

/-- The factories of a script, in the order of the source. -/
def ofProgram (program : Program) : List Factory := program.body.flatMap ofStmt

end Factory

/-- Whether an expression can be markup. -/
def Script.Expr.yieldsMarkup : Expr → Bool
  | .mk _ (.element _ _ _ _) => true
  | .mk _ (.fragment _) => true
  | .mk _ (.paren e) => e.yieldsMarkup
  | .mk _ (.conditional _ consequent alternate) =>
    consequent.yieldsMarkup || alternate.yieldsMarkup
  | .mk _ (.logical _ left right) => left.yieldsMarkup || right.yieldsMarkup
  | _ => false

mutual

/-- Whether a statement returns what can be markup. -/
def Script.Stmt.returnsMarkup : Stmt → Bool
  | .ret (some e) => e.yieldsMarkup
  | .block stmts => anyReturnsMarkup stmts
  | .cond _ consequent alternate => consequent.returnsMarkup || alternate.returnsMarkup
  | _ => false

/-- Whether one of the statements returns what can be markup. -/
def anyReturnsMarkup : List Stmt → Bool
  | [] => false
  | stmt :: rest => stmt.returnsMarkup || anyReturnsMarkup rest

end

end ComponentCanvas
