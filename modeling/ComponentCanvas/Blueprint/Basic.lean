import ComponentCanvas.Fields

/-!
# Blueprints

A blueprint is what a generated component does, in a form that can be rendered: its factory, its
helpers and its constants.  It holds the part of a script that rendering understands; of everything
else it keeps the text.
-/

namespace ComponentCanvas.Blueprint

/-- Operators before an operand. -/
inductive UnaryOperator where
  | not | negate | plus | typeOf
deriving DecidableEq

/-- Operators between two operands that evaluate both. -/
inductive BinaryOperator where
  | add | sub | mul | div | rem
  | eq | notEq | strictEq | strictNotEq
  | lt | ltEq | gt | gtEq
deriving DecidableEq

/-- Operators between two operands that may skip the second. -/
inductive LogicalOperator where
  | and | or | coalesce
deriving DecidableEq

/-- What kind of element a tag names. -/
inductive TagKind where
  /-- A host element such as `div`. -/
  | intrinsic
  /-- A primitive element that is injected. -/
  | atom
  /-- A component of the blueprint itself. -/
  | helper
  /-- A component of the catalog, of which only the place is rendered. -/
  | catalog
deriving DecidableEq

mutual

/-- An expression. -/
inductive Expr where
  | undefined
  | null
  | bool (b : Bool)
  | number (x : Float)
  | string (s : String)
  | name (name : String)
  | template (quasis : List String) (exprs : List Expr)
  | array (items : List Item)
  | object (entries : List Entry)
  | member (object key : Expr)
  | unary (op : UnaryOperator) (e : Expr)
  | binary (op : BinaryOperator) (left right : Expr)
  | logical (op : LogicalOperator) (left right : Expr)
  | conditional (test consequent alternate : Expr)
  | call (callee : Expr) (args : List Expr)
  | function (f : Function)
  | markup (node : Node)
  /-- Anything that is not understood, by its text.  Its value is undefined. -/
  | unmodelled (source : String)

/-- An item of an array. -/
inductive Item where
  | value (e : Expr)
  | spread (e : Expr)

/-- An entry of an object or an attribute of an element. -/
inductive Entry where
  | field (key : String) (value : Expr)
  | spread (e : Expr)

/-- A function.  The identity tells apart functions that are written alike. -/
inductive Function where
  | mk (identity : Nat) (params : List Pattern) (body : List Stmt)

/-- What a parameter or a variable binds. -/
inductive Pattern where
  | name (name : String)
  | object (slots : List Slot) (rest : Option String)
  | array (slots : List Slot) (rest : Option String)
  | withDefault (pattern : Pattern) (default : Expr)

/-- An item of a pattern. -/
inductive Slot where
  | field (key : String) (pattern : Pattern)
  | element (pattern : Pattern)
  | hole

/-- A statement. -/
inductive Stmt where
  | bind (pattern : Pattern) (init : Option Expr)
  | cond (test : Expr) (consequent alternate : List Stmt)
  | ret (e : Option Expr)
  /-- A statement with effects, by its text.  It does nothing. -/
  | effect (source : String)

/-- A node of markup. -/
inductive Node where
  | element (tag : String) (kind : TagKind) (attributes : List Entry) (children : List Node)
  | fragment (children : List Node)
  | text (text : String)
  | expr (e : Expr)

end

instance : Inhabited Expr := ⟨.undefined⟩

/-- What tells a function from others that are written alike. -/
def Function.identity : Function → Nat
  | .mk identity _ _ => identity

/-- The parameters of a function. -/
def Function.params : Function → List Pattern
  | .mk _ params _ => params

/-- The statements of a function. -/
def Function.body : Function → List Stmt
  | .mk _ _ body => body

end ComponentCanvas.Blueprint

namespace ComponentCanvas

open Blueprint in
/-- A compiled component. -/
structure Blueprint where
  typeId : String
  factoryName : String
  factory : Function
  /-- Bindings at the top level, which are made before the factory runs. -/
  constants : List (Pattern × Expr)
  /-- Functions at the top level, by name. -/
  helpers : Fields Function
  /-- The capabilities in use, sorted. -/
  capabilities : List String
  /-- The digest of the source. -/
  sourceHash : String

end ComponentCanvas
