import ComponentCanvas.Blueprint.Basic
import ComponentCanvas.Blueprint.MarkupText
import ComponentCanvas.Decimal.Plain
import ComponentCanvas.Scope
import ComponentCanvas.Script.Parser.Markup

/-!
# Blueprints of Scripts

The blueprint of a script, form by form.  Parentheses, optional links and type assertions leave no
trace; a form that rendering does not understand becomes its text.  Of a function the defaults of
its parameters and the parameter that takes the rest are left out.
-/

namespace ComponentCanvas.Blueprint

open Text (Span)

/-- What lowering has to know of the script as a whole. -/
structure Surroundings where
  source : List Char
  scope : Scope
  /-- The functions at the top level. -/
  functions : List String

/-- The text at a span. -/
def Surroundings.slice (env : Surroundings) (span : Span) : String :=
  String.ofList ((Text.slice? env.source span).getD [])

/-- What kind of element a tag names. -/
def Surroundings.tagKind (env : Surroundings) (tag : String) : TagKind :=
  if (tag.toList.head?.any fun c => 'a' ≤ c && c ≤ 'z') || tag.toList.contains '.' then .intrinsic
  else if env.functions.contains tag then .helper
  else if env.scope.isAtom tag then .atom
  else .helper

/-- The operator before an operand that has the meaning of a scripted one, if there is one. -/
def unaryOperator? : Script.UnaryOperator → Option UnaryOperator
  | .not => some .not
  | .minus => some .negate
  | .plus => some .plus
  | .typeof => some .typeOf
  | .complement | .void | .delete => none

/-- The operator between operands that has the meaning of a scripted one, if there is one. -/
def binaryOperator? : Script.BinaryOperator → Option BinaryOperator
  | .add => some .add
  | .sub => some .sub
  | .mul => some .mul
  | .div => some .div
  | .rem => some .rem
  | .eq => some .eq
  | .notEq => some .notEq
  | .strictEq => some .strictEq
  | .strictNotEq => some .strictNotEq
  | .lt => some .lt
  | .ltEq => some .ltEq
  | .gt => some .gt
  | .gtEq => some .gtEq
  | .power | .bitAnd | .bitOr | .bitXor | .shiftLeft | .shiftRight | .shiftRightZero | .isIn
  | .instanceOf => none

/-- The logical operator of a script. -/
def logicalOperator : Script.LogicalOperator → LogicalOperator
  | .and => .and
  | .or => .or
  | .coalesce => .coalesce

/-- The name that a key stands for, if it is a string or a number. -/
def keyName? : Script.Expr → Option String
  | .mk _ (.string s) => some s
  | .mk _ (.number _ x) => some (Decimal.plainText x)
  | _ => none

/-- Whether an optional chain ends in a call or a member. -/
def isLink : Script.Expr → Bool
  | .mk _ (.call _ _ _) => true
  | .mk _ (.member _ _) => true
  | _ => false

/-- The name of an element. -/
def tagText : Script.TagName → String
  | .member none path => ".".intercalate ("unknown" :: path)
  | tag => tag.text

/-- The text of a stretch of a template. -/
def quasiText (quasi : Script.Quasi) : String := quasi.cooked.getD quasi.raw

/-- The name that an item of a pattern binds the rest to. -/
def restName? : Script.PatternItem → Option String
  | .rest (.name name) => some name
  | _ => none

/-- The node that an expression is. -/
def Expr.toNode : Expr → Node
  | .markup node => node
  | e => .expr e

mutual

/-- The expression of a scripted one. -/
def lowerExpr (env : Surroundings) : Script.Expr → Expr
  | .mk _ .null => .null
  | .mk _ (.bool b) => .bool b
  | .mk _ (.number _ x) => .number x
  | .mk _ (.string s) => .string s
  | .mk _ (.name name) => if name == "undefined" then .undefined else .name name
  | .mk _ (.template quasis exprs) => .template (quasis.map quasiText) (lowerArguments env exprs)
  | .mk _ (.array items) => .array (lowerItems env items)
  | .mk _ (.object members) => .object (lowerMembers env members)
  | .mk _ (.function f) => .function (lowerFunction env f)
  | .mk _ (.arrow f) => .function (lowerFunction env f)
  | .mk _ (.member object key) => .member (lowerExpr env object) (lowerExpr env key)
  | .mk _ (.call callee _ args) => .call (lowerExpr env callee) (lowerArguments env args)
  | .mk span (.chain e) => if isLink e then lowerExpr env e else .unmodelled (env.slice span)
  | .mk span (.unary op e) =>
    match unaryOperator? op with
    | some op => .unary op (lowerExpr env e)
    | none => .unmodelled (env.slice span)
  | .mk span (.binary op left right) =>
    match binaryOperator? op with
    | some op => .binary op (lowerExpr env left) (lowerExpr env right)
    | none => .unmodelled (env.slice span)
  | .mk _ (.logical op left right) =>
    .logical (logicalOperator op) (lowerExpr env left) (lowerExpr env right)
  | .mk _ (.conditional test consequent alternate) =>
    .conditional (lowerExpr env test) (lowerExpr env consequent) (lowerExpr env alternate)
  | .mk _ (.paren e) => lowerExpr env e
  | .mk _ (.assertion _ e _) => lowerExpr env e
  | .mk _ (.element tag _ attributes children) =>
    let name := tagText tag
    let nodes := lowerChildren env children
    if name == "Fragment" || name == "React.Fragment" then .markup (.fragment nodes)
    else .markup (.element name (env.tagKind name) (lowerAttributes env attributes) nodes)
  | .mk _ (.fragment children) => .markup (.fragment (lowerChildren env children))
  | .mk span (.other _ _) => .unmodelled (env.slice span)

/-- The items of an array; a hole is undefined. -/
def lowerItems (env : Surroundings) : List Script.Item → List Item
  | [] => []
  | .value e :: rest => .value (lowerExpr env e) :: lowerItems env rest
  | .spread _ e :: rest => .spread (lowerExpr env e) :: lowerItems env rest
  | .markup e :: rest => .value (lowerExpr env e) :: lowerItems env rest
  | .hole :: rest => .value .undefined :: lowerItems env rest
  | .text _ :: rest => .value .undefined :: lowerItems env rest

/-- Arguments of a call; a spread one is kept as text. -/
def lowerArguments (env : Surroundings) : List Script.Item → List Expr
  | [] => []
  | .value e :: rest => lowerExpr env e :: lowerArguments env rest
  | .spread span _ :: rest => .unmodelled (env.slice span) :: lowerArguments env rest
  | .markup e :: rest => lowerExpr env e :: lowerArguments env rest
  | .hole :: rest => .undefined :: lowerArguments env rest
  | .text _ :: rest => .undefined :: lowerArguments env rest

/-- The entries of an object; one with a computed key is left out. -/
def lowerMembers (env : Surroundings) : List Script.Member → List Entry
  | [] => []
  | .field computed key value :: rest =>
    let entries := lowerMembers env rest
    match computed, keyName? key with
    | false, some name => .field name (lowerExpr env value) :: entries
    | _, _ => entries
  | .method computed key f :: rest =>
    let entries := lowerMembers env rest
    match computed, keyName? key with
    | false, some name => .field name (.function (lowerFunction env f)) :: entries
    | _, _ => entries
  | .spread e :: rest => .spread (lowerExpr env e) :: lowerMembers env rest
  | .hollow _ :: rest => lowerMembers env rest
  | .defaulted _ _ :: rest => lowerMembers env rest

/-- The attributes of an element; one whose braces hold nothing is undefined. -/
def lowerAttributes (env : Surroundings) : List Script.Member → List Entry
  | [] => []
  | .field _ key value :: rest =>
    let entries := lowerAttributes env rest
    match keyName? key with
    | some name => .field name (lowerExpr env value) :: entries
    | none => entries
  | .spread e :: rest => .spread (lowerExpr env e) :: lowerAttributes env rest
  | .hollow name :: rest => .field name .undefined :: lowerAttributes env rest
  | .method _ _ _ :: rest => lowerAttributes env rest
  | .defaulted _ _ :: rest => lowerAttributes env rest

/-- The children of an element; blank text and empty braces are left out. -/
def lowerChildren (env : Surroundings) : List Script.Item → List Node
  | [] => []
  | .value e :: rest => .expr (lowerExpr env e) :: lowerChildren env rest
  | .spread _ e :: rest => .expr (lowerExpr env e) :: lowerChildren env rest
  | .markup e :: rest => (lowerExpr env e).toNode :: lowerChildren env rest
  | .hole :: rest => lowerChildren env rest
  | .text raw :: rest => ((markupText? raw).toList.map Node.text) ++ lowerChildren env rest

/-- The function of a scripted one. -/
def lowerFunction (env : Surroundings) : Script.Function → Function
  | .mk span _ _ params _ _ body => .mk span.start (lowerParams env params) (lowerStmts env body)

/-- The patterns of parameters. -/
def lowerParams (env : Surroundings) : List Script.Binder → List Pattern
  | [] => []
  | .mk _ rest _ pattern _ _ :: more =>
    if rest then lowerParams env more else lowerPattern env pattern :: lowerParams env more

/-- The pattern of a scripted one. -/
def lowerPattern (env : Surroundings) : Script.Pattern → Pattern
  | .name name => .name name
  | .object items => .object (lowerSlots env items) (items.findSome? restName?)
  | .array items => .array (lowerSlots env items) (items.findSome? restName?)
  | .withDefault pattern default => .withDefault (lowerPattern env pattern) (lowerExpr env default)

/-- The items of a pattern; one without a known key is left out. -/
def lowerSlots (env : Surroundings) : List Script.PatternItem → List Slot
  | [] => []
  | .field key value :: rest =>
    let slots := lowerSlots env rest
    match keyName? key with
    | some name => .field name (lowerPattern env value) :: slots
    | none => slots
  | .element value :: rest => .element (lowerPattern env value) :: lowerSlots env rest
  | .hole :: rest => .hole :: lowerSlots env rest
  | .rest _ :: rest => lowerSlots env rest

/-- The variables of a declaration. -/
def lowerVariables (env : Surroundings) : List Script.Binder → List Stmt
  | [] => []
  | .mk _ _ _ pattern _ none :: more =>
    .bind (lowerPattern env pattern) none :: lowerVariables env more
  | .mk _ _ _ pattern _ (some e) :: more =>
    .bind (lowerPattern env pattern) (some (lowerExpr env e)) :: lowerVariables env more

/-- The statements of a scripted one: a block stands for its statements. -/
def lowerStmt (env : Surroundings) : Script.Stmt → List Stmt
  | .vars _ binders => lowerVariables env binders
  | .function f =>
    match f.name? with
    | some name => [.bind (.name name) (some (.function (lowerFunction env f)))]
    | none => []
  | .expression span _ => [.effect (env.slice span)]
  | .block stmts => lowerStmts env stmts
  | .empty => []
  | .cond test consequent alternate =>
    [.cond (lowerExpr env test) (lowerStmt env consequent) (lowerStmt env alternate)]
  | .ret none => [.ret none]
  | .ret (some e) => [.ret (some (lowerExpr env e))]
  | .moduleItem span _ _ => [.effect (env.slice span)]
  | .notes _ => []
  | .other span _ => [.effect (env.slice span)]

/-- The statements of scripted ones. -/
def lowerStmts (env : Surroundings) : List Script.Stmt → List Stmt
  | [] => []
  | stmt :: rest => lowerStmt env stmt ++ lowerStmts env rest

end

/-! ## The top level -/

/-- What a declaration at the top level gives. -/
inductive Declaration where
  | helper (name : String) (f : Script.Function)
  | constant (pattern : Script.Pattern) (init : Option Script.Expr)

/-- What a declared variable gives: a helper if it is a name for a function. -/
def Declaration.ofBinder : Script.Binder → Declaration
  | .mk _ _ _ (.name name) _ (some (.mk _ (.arrow f))) => .helper name f
  | .mk _ _ _ (.name name) _ (some (.mk _ (.function f))) => .helper name f
  | .mk _ _ _ pattern _ init => .constant pattern init

/-- What a statement at the top level declares. -/
def Declaration.ofStmt : Script.Stmt → List Declaration
  | .function f => (f.name?.map fun name => .helper name f).toList
  | .vars _ binders => binders.map .ofBinder
  | _ => []

/-- What a script declares at the top level. -/
def declarations (program : Script.Program) : List Declaration :=
  program.body.flatMap Declaration.ofStmt

/-- The helpers of declarations, in order. -/
def helpersOf (env : Surroundings) (declarations : List Declaration) : Fields Function :=
  declarations.foldl
    (fun helpers d => match d with
      | .helper name f => Fields.insert helpers name (lowerFunction env f)
      | .constant _ _ => helpers) []

/-- The constants of declarations, in order. -/
def constantsOf (env : Surroundings) (declarations : List Declaration) : List (Pattern × Expr) :=
  declarations.filterMap fun
    | .helper _ _ => none
    | .constant pattern init =>
      some (lowerPattern env pattern, (init.map (lowerExpr env)).getD .undefined)

/-- The names of the helpers of declarations. -/
def helperNames (declarations : List Declaration) : List String :=
  declarations.filterMap fun
    | .helper name _ => some name
    | .constant _ _ => none

/-- The blueprint of a script with a factory of the given name. -/
def ofProgram? (program : Script.Program) (source : String) (scope : Scope)
    (typeId factoryName : String) (capabilities : List String) (sourceHash : String) :
    Option Blueprint := do
  let declarations := declarations program
  let env : Surroundings := ⟨source.toList, scope, helperNames declarations⟩
  let helpers := helpersOf env declarations
  let factory ← Fields.get? helpers factoryName
  return {
    typeId := typeId
    factoryName := factoryName
    factory := factory
    constants := constantsOf env declarations
    helpers := helpers
    capabilities := capabilities
    sourceHash := sourceHash }

end ComponentCanvas.Blueprint
