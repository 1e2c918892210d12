import ComponentCanvas.Script.Token

/-!
# Syntax of a Script

The syntax tree of a typed script with markup.  Everything that can use, bind or load a name is in
the tree, in the order of the source.

Forms that a unit runs have constructors of their own.  Of the others (loops, classes, assignments
and so on) the tree keeps their parts as statements, and a part with a scope of its own as a block.
Types mean nothing at run time, so of a type only the names in it are kept.  Names that are declared
and stand for more than a type, such as that of a class, are variables.

Parentheses, optional chains and type assertions are nodes of their own.  A member written with a
point is the member whose key is that name as a string.
-/

namespace ComponentCanvas.Script

open Text (Span)

/-- An occurrence of a name, or of a call that loads a module.  Two kinds of names mean something in
a stretch of a script without being bound by it. -/
inductive Mention where
  /-- A name that is used. -/
  | reference (name : String) (span : Span)
  /-- A name that is bound. -/
  | binding (name : String)
  /-- A member of an enumeration, which means that member within the enumeration. -/
  | member (name : String)
  /-- The parameter of an index signature, which means the index within the signature. -/
  | index (name : String)
  /-- A module that is loaded at run time. -/
  | dynamicImport (span : Span)
deriving Inhabited

/-- The names that occur in a type. -/
abbrev TypeNote := List Mention

/-- Operators before an operand that change nothing. -/
inductive UnaryOperator where
  | not | complement | minus | plus | typeof | void | delete
deriving DecidableEq, Inhabited

/-- Operators between two operands that evaluate both. -/
inductive BinaryOperator where
  | add | sub | mul | div | rem | power
  | eq | notEq | strictEq | strictNotEq | lt | ltEq | gt | gtEq
  | bitAnd | bitOr | bitXor | shiftLeft | shiftRight | shiftRightZero
  | isIn | instanceOf
deriving DecidableEq, Inhabited

/-- Operators between two operands that may skip the second. -/
inductive LogicalOperator where
  | and | or | coalesce
deriving DecidableEq, Inhabited

/-- Whether the name of an element refers to a component: it does not open with a small letter and
holds no hyphen. -/
def isComponentName (name : String) : Bool :=
  !(name.toList.head?.any fun c => 'a' ≤ c && c ≤ 'z') && !name.toList.contains '-'

/-- The name of an element in markup. -/
inductive TagName where
  /-- A host element such as `div`. -/
  | host (name : String) (isHost : isComponentName name = false)
  /-- A component, which is a reference to its name. -/
  | component (name : String) (span : Span)
  /-- A name in a namespace. -/
  | namespaced (space name : String)
  /-- The receiver itself. -/
  | receiver
  /-- A member of a component or, if there is none, of the receiver. -/
  | member (root : Option (String × Span)) (path : List String)
deriving Inhabited

/-- Which names a list of variables binds: in the function around it or in the block. -/
inductive Reach where
  | function | block
deriving DecidableEq, Inhabited

/-- Type assertions, which mean nothing at run time. -/
inductive Assertion where
  | asType | satisfies | nonNull
deriving DecidableEq, Inhabited

/-- Declarations by which a module imports and exports. -/
inductive ModuleForm where
  | importDeclaration
  | exportDeclaration
deriving DecidableEq, Inhabited

/-- What a statement at the top level has to do with other modules. -/
inductive ModuleItem where
  | declaration (form : ModuleForm)
  /-- A module that is loaded into a name, `import x = require("m")`. -/
  | loadedName
  /-- A value that is exported as the whole module, `export = e`. -/
  | exportedValue
  /-- A namespace that the module is known under, `export as namespace N`. -/
  | exportedNamespace
deriving DecidableEq, Inhabited

/-- Expression forms that no unit runs. -/
inductive OtherForm where
  /-- A privately named member. -/
  | hiddenMember
  /-- A function value with type arguments. -/
  | instantiation
  /-- The receiver. -/
  | receiver
  /-- The class that the class of the receiver extends. -/
  | parent
  | assignment
  | dynamicImport
  | unspecified
deriving DecidableEq, Inhabited

mutual

/-- An expression and where it stands. -/
inductive Expr where
  | mk (span : Span) (form : ExprForm)

/-- The forms of an expression. -/
inductive ExprForm where
  | null
  | bool (b : Bool)
  | number (raw : String) (value : Float)
  | string (value : String)
  | name (name : String)
  | template (quasis : List Quasi) (exprs : List Item)
  | array (items : List Item)
  | object (members : List Member)
  | function (f : Function)
  | arrow (f : Function)
  | member (object key : Expr)
  | call (callee : Expr) (types : TypeNote) (args : List Item)
  | chain (e : Expr)
  | unary (op : UnaryOperator) (e : Expr)
  | binary (op : BinaryOperator) (left right : Expr)
  | logical (op : LogicalOperator) (left right : Expr)
  | conditional (test consequent alternate : Expr)
  | paren (e : Expr)
  | assertion (kind : Assertion) (e : Expr) (types : TypeNote)
  | element (tag : TagName) (types : TypeNote) (attributes : List Member)
    (children : List Item)
  | fragment (children : List Item)
  /-- A form that no unit runs, by its parts. -/
  | other (form : OtherForm) (parts : List Stmt)

/-- An item of an array literal, of a list of arguments or of the children of markup. -/
inductive Item where
  | value (e : Expr)
  | spread (span : Span) (e : Expr)
  /-- A missing item: nothing between two commas, or braces with nothing in them. -/
  | hole
  /-- Text between tags. -/
  | text (raw : String)
  /-- An element or fragment that is a child as such, not inside braces. -/
  | markup (e : Expr)

/-- A member of an object literal or an attribute of an element. -/
inductive Member where
  /-- A key and its value.  A key that is not computed is a string or a number. -/
  | field (computed : Bool) (key value : Expr)
  | method (computed : Bool) (key : Expr) (f : Function)
  | spread (e : Expr)
  /-- An attribute whose braces hold nothing. -/
  | hollow (name : String)
  /-- A name with a default, which only an assignment target may hold. -/
  | defaulted (name value : Expr)

/-- A function: a declaration, an expression, an arrow or a method.  A declaration without a body
only states a type.  The body of an arrow that is a single expression is its return. -/
inductive Function where
  | mk (span : Span) (name : Option String) (types : TypeNote) (params : List Binder)
    (returns : TypeNote) (hasBody : Bool) (body : List Stmt)

/-- A pattern that is bound: a declared variable, a parameter or a caught value.  Its decorators and
its initial value or default stand outside the pattern. -/
inductive Binder where
  | mk (span : Span) (rest : Bool) (decorators : List Stmt) (pattern : Pattern) (types : TypeNote)
    (init : Option Expr)

/-- A binding pattern. -/
inductive Pattern where
  | name (name : String)
  | object (items : List PatternItem)
  | array (items : List PatternItem)
  | withDefault (pattern : Pattern) (default : Expr)

/-- An item of a pattern. -/
inductive PatternItem where
  | field (key : Expr) (value : Pattern)
  | element (value : Pattern)
  | hole
  | rest (value : Pattern)

/-- A statement. -/
inductive Stmt where
  /-- Variables that are declared. -/
  | vars (reach : Reach) (binders : List Binder)
  | function (f : Function)
  | expression (span : Span) (e : Expr)
  | block (stmts : List Stmt)
  | empty
  /-- A condition; a missing alternative is the empty statement. -/
  | cond (test : Expr) (consequent alternate : Stmt)
  | ret (e : Option Expr)
  /-- An import or export at the top level, by its parts. -/
  | moduleItem (span : Span) (item : ModuleItem) (parts : List Stmt)
  /-- Names that a type mentions, the names of types that are declared, and the members that an
  enumeration has. -/
  | notes (mentions : TypeNote)
  /-- A form that no unit runs, by its parts. -/
  | other (span : Span) (parts : List Stmt)

end

instance : Inhabited Expr := ⟨.mk default .null⟩
instance : Inhabited Stmt := ⟨.empty⟩

/-- Where an expression stands. -/
def Expr.span : Expr → Span
  | .mk span _ => span

/-- The form of an expression. -/
def Expr.form : Expr → ExprForm
  | .mk _ form => form

/-- The name a function is declared with. -/
def Function.name? : Function → Option String
  | .mk _ name _ _ _ _ _ => name

/-- Whether a function has a body. -/
def Function.hasBody : Function → Bool
  | .mk _ _ _ _ _ hasBody _ => hasBody

/-- The statements of a function. -/
def Function.body : Function → List Stmt
  | .mk _ _ _ _ _ _ body => body

/-- A script: the statements of its body, without the directives in front of them. -/
structure Program where
  body : List Stmt

end ComponentCanvas.Script
