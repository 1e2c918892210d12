import ComponentCanvas.Script.Mentions
import ComponentCanvas.Script.Parser.Cursor

/-!
# The Rules of the Grammar

The rules of the grammar refer to each other in circles.  Each rule is written once, as a parser
that takes the parsers of all rules for the places where one rule uses another; how deep that
nesting may go is decided where the circle is closed.

This module also holds what rules of every kind share: names, keys, lists of expressions and
templates.
-/

namespace ComponentCanvas.Script

open Text (Span)

/-- Where a statement stands. -/
inductive Place where
  /-- At the top level of the script. -/
  | top
  /-- In a list of statements. -/
  | list
  /-- As the body of another statement. -/
  | body
deriving DecidableEq

/-- The rules that others refer to. -/
inductive Rule where
  /-- An expression without a comma.  `arrowReturns` tells whether an arrow function in it may
  state the type that it returns. -/
  | assignment (arrowReturns : Bool)
  /-- An expression of operators that bind more tightly than a given level. -/
  | binary (floor : Nat)
  | unary
  /-- An expression that may be called. -/
  | callee
  /-- An element or fragment; its closing bracket stays the current token. -/
  | markup
  | type
  | pattern
  | statement (place : Place)

/-- What a rule gives. -/
abbrev Rule.Result : Rule → Type
  | .assignment _ | .binary _ | .unary | .callee | .markup => Expr
  | .type => TypeNote
  | .pattern => Pattern
  | .statement _ => Stmt

/-- A parser for each rule. -/
abbrev Grammar := (rule : Rule) → Parser rule.Result

namespace Parser

/-! ## Expressions at their place -/

/-- An expression from an offset to the end of the token before. -/
def finish (start : Nat) (form : ExprForm) : Parser Expr := return .mk (← spanFrom start) form

/-- An expression as a part of another form. -/
def asPart (e : Expr) : Stmt := .expression e.span e

/-- An expression form that no unit runs. -/
def finishOther (start : Nat) (parts : List Stmt) : Parser Expr :=
  finish start (.other .unspecified parts)

/-- The names that a class, an enumeration or the like declares, as variables of a block. -/
def declaredNames (names : List String) : Stmt :=
  .vars .block (names.map fun name => .mk default false [] (.name name) [] none)

/-- The names of a type, whose parameters are bound in it alone. -/
def scopedNotes (notes : TypeNote) : Stmt := .block [.notes notes]

/-- Statements whose variables belong to them alone, as in a function. -/
def scopedBody (stmts : List Stmt) : Stmt := .function (.mk default none [] [] [] true stmts)

/-- Runs a parser where the operator `in` may occur and brackets index, as inside brackets. -/
def allowingIn {α : Type} (p : Parser α) : Parser α :=
  within (fun c => { c with allowIn := true, decorator := false }) p

/-- An expression: one or more with commas between them. -/
def expression (g : Grammar) : Parser Expr := do
  let start ← position
  match ← separatedBy1 "," (g (.assignment true)) with
  | [e] => return e
  | es => finishOther start (es.map asPart)

/-- An expression where `in` may occur. -/
def fullExpression (g : Grammar) : Parser Expr := allowingIn (expression g)

/-- An expression without a comma where `in` may occur. -/
def fullAssignment (g : Grammar) : Parser Expr := allowingIn (g (.assignment true))

/-- An initial value, if there is an equals sign. -/
def initializer (g : Grammar) : Parser (Option Expr) := do
  if ← eatPunct "=" then return some (← g (.assignment true))
  else return none

/-! ## Names and keys -/

/-- Whether a token can be a name. -/
def isName : Token → Bool
  | .word name _ => !isReserved name
  | _ => false

/-- Whether the current token can be a name. -/
def atName : Parser Bool := return isName (← token)

/-- A name that is bound or used. -/
def name : Parser String := do
  match ← token with
  | .word name _ =>
    let context ← context
    if isReserved name || (name == "yield" && context.allowYield) ||
        (name == "await" && context.allowAwait) then unexpected
    else
      next
      return name
  | _ => unexpected

/-- A name, if there is one. -/
def name? : Parser (Option String) := do
  if ← atName then return some (← name)
  else return none

/-- A word of any kind. -/
def word : Parser String := do
  match ← token with
  | .word name _ =>
    next
    return name
  | _ => unexpected

/-- Whether a token can open the key of a member. -/
def opensKey : Token → Bool
  | .word _ _ | .privateName _ | .number _ _ | .bigint | .string _ => true
  | t => t.isPunct "["

/-- The key of a member, and whether it is computed. -/
def key (g : Grammar) : Parser (Bool × Expr) := do
  let start ← position
  match ← token with
  | .word name _ =>
    next
    return (false, ← finish start (.string name))
  | .string value =>
    next
    return (false, ← finish start (.string value))
  | .number raw value =>
    next
    return (false, ← finish start (.number raw value))
  | .bigint | .privateName _ =>
    next
    return (false, ← finishOther start [])
  | _ =>
    expectPunct "["
    let e ← fullAssignment g
    expectPunct "]"
    return (true, e)

/-! ## Templates -/

/-- The stretches of a template literal and what stands between them.  The current token is the
first stretch. -/
def templateParts {α : Type} (part : Parser α) : Parser (List Quasi × List α) :=
  repeating (([] : List Quasi), ([] : List α)) fun (quasis, parts) => do
    match ← token with
    | .template quasi true =>
      next
      return .inr ((quasi :: quasis).reverse, parts.reverse)
    | .template quasi false =>
      next
      let e ← part
      let c ← get
      if c.token.isPunct "\x7d" then
        set (c.place c.start c.here (scanTemplate c.rest) (isProper_scanTemplate c.rest))
        return .inl (quasi :: quasis, e :: parts)
      else fail (.expected "\x7d")
    | _ => unexpected

end Parser

end ComponentCanvas.Script
