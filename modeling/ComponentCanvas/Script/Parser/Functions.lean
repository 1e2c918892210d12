import ComponentCanvas.Script.Parser.Types

/-!
# Functions

Function bodies, what stands in front of them, and arrows.  Whether an opening bracket begins the
parameters of an arrow or an expression is decided by looking ahead; where that is not enough, the
text is read as an arrow first.
-/

namespace ComponentCanvas.Script.Parser

open Text (Span)

/-! ## Bodies -/

/-- Whether a function is asynchronous and whether it is a generator. -/
structure Flavor where
  isAsync : Bool := false
  isGenerator : Bool := false

/-- The context inside a function. -/
def Flavor.inside (flavor : Flavor) (c : Context) : Context :=
  { c with allowAwait := flavor.isAsync, allowYield := flavor.isGenerator }

/-- Statements without the directives in front of them: strings that stand alone. -/
def withoutDirectives : List Stmt → List Stmt
  | .expression _ (.mk _ (.string _)) :: rest => withoutDirectives rest
  | stmts => stmts

/-- Statements in braces. -/
def block (g : Grammar) : Parser (List Stmt) := do
  expectPunct "\x7b"
  let stmts ← itemsUntil "\x7d" (g (.statement .list))
  expectPunct "\x7d"
  return stmts

/-- The body of a function, in braces. -/
def functionBody (g : Grammar) (flavor : Flavor) : Parser (List Stmt) :=
  within (fun c => { flavor.inside c with allowIn := true, allowReturn := true })
    do return withoutDirectives (← block g)

/-- A function from its type parameters on.  Where types are allowed it may have no body, if the
flag says so. -/
def functionRest (g : Grammar) (start : Nat) (name : Option String) (flavor : Flavor)
    (mayLackBody : Bool) : Parser Function := do
  let types ← typeParameters g
  let (receiver, binders) ← within flavor.inside (parameters g)
  let returns ← returnAnnotation g
  if mayLackBody && (← typed) && !(← atPunct "\x7b") then
    endOfStatement
    return .mk (← spanFrom start) name (types ++ receiver) binders returns false []
  else
    let body ← functionBody g flavor
    return .mk (← spanFrom start) name (types ++ receiver) binders returns true body

/-- A function from its keyword on, behind `async`.  A declaration needs a name; the name of an
expression is bound inside it. -/
def functionFromKeyword (g : Grammar) (start : Nat) (isAsync isDeclaration : Bool) :
    Parser Function := do
  expectWord "function"
  let isGenerator ← eatPunct "*"
  let flavor : Flavor := ⟨isAsync, isGenerator⟩
  let functionName ←
    if isDeclaration then some <$> name
    else within flavor.inside name?
  functionRest g start functionName flavor isDeclaration

/-- Whether `async` opens a function. -/
def opensAsyncFunction : Parser Bool := do
  return (← atWord "async") && ((← peekOnLine).any (·.isWord "function"))

/-! ## Arrows -/

/-- What can be told of an opening bracket by looking ahead. -/
inductive Outlook where
  | yes | no | maybe

/-- The outlook behind an opening parenthesis. -/
def outlookInParens : Parser Outlook := do
  let first ← token
  if first.isPunct ")" then
    next
    if (← atPunct "=>") || (← atPunct "\x7b") then return .yes
    else if ← atPunct ":" then return .maybe
    else return .no
  else if first.isPunct "[" || first.isPunct "\x7b" || first.isPunct "..." || first.isPunct "@" then
    return .maybe
  else if isName first || first.isWord "this" then
    next
    let second ← token
    if second.isPunct ":" then return .yes
    else if second.isPunct "?" then
      next
      if (← atPunct ":") || (← atPunct ",") || (← atPunct "=") || (← atPunct ")") then
        return .yes
      else return .no
    else if second.isPunct "," || second.isPunct "=" || second.isPunct ")" then return .maybe
    else return .no
  else return .no

/-- The outlook behind an opening angle bracket, which may also open markup. -/
def outlookInAngles : Parser Outlook := do
  let constant ← eatWord "const"
  if !(← atName) then return .no
  else if constant then return .yes
  else
    next
    if ← eatWord "extends" then
      if (← atPunct "=") || (← atPunct ">") || (← atPunct "/") then return .no else return .yes
    else if (← atPunct ",") || (← atPunct "=") then return .yes
    else return .no

/-- Whether parameters of an arrow open at the current token, in brackets or behind `async`. -/
def arrowOutlook : Parser Outlook := do
  let first ← token
  if first.isPunct "(" || first.isPunct "<" || first.isWord "async" then
    lookAhead .no do
      if ← atWord "async" then
        next
        if ← onNewLine then return .no
      if ← eatPunct "(" then outlookInParens
      else if (← atPunct "<") && (← typed) then
        next
        outlookInAngles
      else return .no
  else return .no

/-- What stands in front of the body of an arrow. -/
structure ArrowHead where
  start : Nat
  flavor : Flavor
  types : TypeNote
  binders : List Binder
  /-- The type that it returns, if one is stated. -/
  returns : Option TypeNote

/-- The arrow sign, which stands on the line of what is in front of it. -/
def arrowSign : Parser Unit := do
  noteIf (← onNewLine) (.misplaced "a line break before an arrow") (← position)
  expectPunct "=>"

/-- What stands in front of the body of an arrow whose parameters are in brackets. -/
def arrowHead (g : Grammar) : Parser ArrowHead := do
  let start ← position
  let isAsync ← eatWord "async"
  let types ← typeParameters g
  let flavor : Flavor := ⟨isAsync, false⟩
  let (receiver, binders) ← within (fun c => { c with allowAwait := isAsync }) (parameters g)
  let returns ←
    if (← typed) && (← atPunct ":") then some <$> returnAnnotation g
    else pure none
  arrowSign
  return ⟨start, flavor, types ++ receiver, binders, returns⟩

/-- The body of an arrow: statements in braces, or an expression that it returns. -/
def arrowBody (g : Grammar) (head : ArrowHead) (arrowReturns : Bool) : Parser Expr := do
  let body ←
    if ← atPunct "\x7b" then functionBody g head.flavor
    else do
      let e ← within (fun c => { c with allowAwait := head.flavor.isAsync, allowYield := false,
                                        allowReturn := true })
        (g (.assignment arrowReturns))
      pure [.ret (some e)]
  let span ← spanFrom head.start
  return .mk span (.arrow (.mk span none head.types head.binders (head.returns.getD []) true body))

/-- An arrow whose parameters are in brackets, if there is one.  Where an arrow may not state the
type that it returns, one that does has to be followed by a colon. -/
def bracketedArrow (g : Grammar) (arrowReturns : Bool) : Parser (Option Expr) := do
  match ← arrowOutlook with
  | .no => return none
  | .yes => return some (← arrowBody g (← arrowHead g) true)
  | .maybe =>
    let before ← get
    match ← attempt (arrowHead g) with
    | none => return none
    | some head =>
      let arrow ← arrowBody g head arrowReturns
      if head.returns.isNone || arrowReturns || (← atPunct ":") then return some arrow
      else
        set before
        return none

/-- The pattern of a single parameter without brackets. -/
def loneParameter (name : String) (span : Span) : Binder := .mk span false [] (.name name) [] none

/-- An asynchronous arrow with a single parameter without brackets, if there is one. -/
def asyncLoneArrow (g : Grammar) (arrowReturns : Bool) : Parser (Option Expr) := do
  let opens ← lookAhead false do
    expectWord "async"
    if (← onNewLine) || !(← atName) then return false
    else
      next
      return (← atPunct "=>") && !(← onNewLine)
  if opens then
    let start ← position
    next
    let nameStart ← position
    let bound ← within (fun c => { c with allowAwait := true }) name
    let span ← spanFrom nameStart
    arrowSign
    return some (← arrowBody g ⟨start, ⟨true, false⟩, [], [loneParameter bound span], none⟩
      arrowReturns)
  else return none

end ComponentCanvas.Script.Parser
