import ComponentCanvas.Script.Parser.Classes
import ComponentCanvas.Script.Parser.Markup
import ComponentCanvas.Script.Parser.Targets

/-!
# Expressions

Literals, calls and members, operators by their levels, and assignments.
-/

namespace ComponentCanvas.Script.Parser

open Text (Span)

/-! ## Operators -/

/-- An operator between two operands. -/
inductive Infix where
  | binary (op : BinaryOperator)
  | logical (op : LogicalOperator)

/-- The operators between two operands, each with its level; a higher level binds more tightly. -/
def infixOperators : List (String × Nat × Infix) :=
  [("??", 1, .logical .coalesce), ("||", 2, .logical .or), ("&&", 3, .logical .and),
   ("|", 4, .binary .bitOr), ("^", 5, .binary .bitXor), ("&", 6, .binary .bitAnd),
   ("==", 7, .binary .eq), ("!=", 7, .binary .notEq), ("===", 7, .binary .strictEq),
   ("!==", 7, .binary .strictNotEq),
   ("<", 8, .binary .lt), (">", 8, .binary .gt), ("<=", 8, .binary .ltEq),
   (">=", 8, .binary .gtEq), ("in", 8, .binary .isIn), ("instanceof", 8, .binary .instanceOf),
   ("<<", 9, .binary .shiftLeft), (">>", 9, .binary .shiftRight),
   (">>>", 9, .binary .shiftRightZero),
   ("+", 10, .binary .add), ("-", 10, .binary .sub),
   ("*", 11, .binary .mul), ("/", 11, .binary .div), ("%", 11, .binary .rem),
   ("**", 12, .binary .power)]

/-- The level of type assertions. -/
def assertionLevel : Nat := 8

/-- The operators that assign. -/
def assignmentOperators : List String :=
  ["=", "+=", "-=", "*=", "/=", "%=", "**=", "<<=", ">>=", ">>>=", "&=", "|=", "^=", "&&=", "||=",
   "??="]

/-- The operator at the current token, where closing angle brackets join. -/
def operatorHere : Parser (Option String) := do
  let c ← get
  match c.token with
  | .punct ">" => return some (angleOperator c.here)
  | .punct op => return some op
  | .word "in" false => return some "in"
  | .word "instanceof" false => return some "instanceof"
  | _ => return none

/-- Takes the operator at the current token. -/
def takeOperator (op : String) : Parser Unit := do
  modify fun c =>
    if c.token.isPunct ">" then
      { c with stop := c.start + op.length, rest := c.here.drop op.length }
    else c
  next

/-- Whether an expression joins operands by the given kind of logical operator. -/
def isLogical (coalesce : Bool) : Expr → Bool
  | .mk _ (.logical .coalesce _ _) => coalesce
  | .mk _ (.logical _ _ _) => !coalesce
  | _ => false

/-- Whether an expression is an operator in front of its operand. -/
def isUnary : Expr → Bool
  | .mk _ (.unary _ _) => true
  | _ => false

/-- Joins two operands; some operators need parentheses around what they join. -/
def joinOperands (start : Nat) (op : Infix) (left right : Expr) : Parser Expr := do
  match op with
  | .logical op =>
    let coalesce := op == .coalesce
    noteIf (isLogical (!coalesce) left || isLogical (!coalesce) right) .unexpectedToken start
    finish start (.logical op left right)
  | .binary op =>
    noteIf (op == .power && isUnary left) .unexpectedToken start
    finish start (.binary op left right)

/-- A type assertion at the current token, if it binds more tightly than the given level. -/
def assertion? (g : Grammar) (floor start : Nat) (left : Expr) : Parser (Option Expr) := do
  let t ← token
  if (t.isWord "as" || t.isWord "satisfies") && (← typed) && !(← onNewLine) &&
      floor < assertionLevel then
    next
    if t.isWord "as" && (← atWord "const") then
      next
      return some (← finish start (.assertion .asType left []))
    else
      let types ← g .type
      return some (← finish start
        (.assertion (if t.isWord "as" then .asType else .satisfies) left types))
  else return none

/-- The operators behind an operand that bind more tightly than the given level, and their
operands. -/
def infixRest (g : Grammar) (floor start : Nat) (first : Expr) : Parser Expr :=
  repeating first fun left => do
    match ← assertion? g floor start left with
    | some e => return .inl e
    | none =>
      match (← operatorHere).bind fun op => infixOperators.find? (·.1 == op) with
      | none => return .inr left
      | some (text, level, op) =>
        let stops := if text == "**" then level < floor else level ≤ floor
        if stops || (text == "in" && !(← context).allowIn) then return .inr left
        else
          takeOperator text
          let right ← g (.binary level)
          return .inl (← joinOperands start op left right)

/-- An expression of operators that bind more tightly than the given level. -/
def binaryStep (g : Grammar) (floor : Nat) : Parser Expr := do
  let start ← position
  match ← token with
  | .privateName _ =>
    next
    unless ← atWord "in" do unexpected
    infixRest g floor start (← finishOther start [])
  | _ => infixRest g floor start (← g .unary)

/-- The operator in front of an operand at the current token. -/
def unaryOperator? (t : Token) : Option UnaryOperator :=
  match t with
  | .punct "!" => some .not
  | .punct "~" => some .complement
  | .punct "-" => some .minus
  | .punct "+" => some .plus
  | .word "typeof" false => some .typeof
  | .word "void" false => some .void
  | .word "delete" false => some .delete
  | _ => none

/-- Whether the token steps a number up or down. -/
def isStep (t : Token) : Bool := t.isPunct "++" || t.isPunct "--"

/-- Whether a word that is only sometimes a keyword opens an expression that goes on on the same
line. -/
def opensOperand : Parser Bool := do
  return (← peekOnLine).any fun
    | .word _ _ | .number _ _ | .bigint | .string _ | .template _ _ | .privateName _ => true
    | _ => false

/-- An operand with the operators in front of it and behind it. -/
def unaryStep (g : Grammar) : Parser Expr := do
  let start ← position
  let t ← token
  match unaryOperator? t with
  | some op =>
    next
    let e ← g .unary
    finish start (.unary op e)
  | none =>
    if isStep t then
      next
      let e ← g .unary
      unless e.isPlace do fail .invalidTarget
      finishOther start [asPart e]
    else if t.isPunct "<" then
      let e ← g .markup
      next
      return e
    else if t.isWord "await" && ((← context).allowAwait || (← opensOperand)) then
      noteIf (!(← context).allowAwait) (.misplaced "await") start
      next
      finishOther start [asPart (← g .unary)]
    else
      let e ← g .callee
      if isStep (← token) && !(← onNewLine) then
        unless e.isPlace do fail .invalidTarget
        next
        finishOther start [asPart e]
      else return e

/-! ## Literals -/

/-- An item of an array literal or of arguments. -/
def listItem (g : Grammar) : Parser Item := do
  let start ← position
  if ← atPunct "," then return .hole
  else if ← eatPunct "..." then
    let e ← fullAssignment g
    return .spread (← spanFrom start) e
  else return .value (← fullAssignment g)

/-- An argument of a call. -/
def argument (g : Grammar) : Parser Item := do
  if ← atPunct "," then unexpected else listItem g

/-- Arguments in parentheses. -/
def arguments (g : Grammar) : Parser (List Item) := do
  expectPunct "("
  let items ← separatedUntil ")" (argument g)
  expectPunct ")"
  return items

/-- The parts of items. -/
def itemParts (items : List Item) : List Stmt :=
  items.filterMap fun
    | .value e | .spread _ e | .markup e => some (asPart e)
    | .hole | .text _ => none

/-- A member of an object literal. -/
def objectMember (g : Grammar) : Parser Member := do
  if ← eatPunct "..." then return .spread (← fullAssignment g)
  else
    let t ← token
    if (t.isWord "get" || t.isWord "set") && opensKey (← peek) then
      next
      let (computed, key) ← key g
      return .method computed key (← functionRest g (← position) none {} false)
    else
      let isAsync := t.isWord "async" && (← peekOnLine).any opensMember
      if isAsync then next
      let isGenerator ← eatPunct "*"
      let first ← token
      let (computed, key) ← key g
      if isAsync || isGenerator || (← atPunct "(") || (← atPunct "<") then
        return .method computed key
          (← functionRest g (← position) none ⟨isAsync, isGenerator⟩ false)
      else if ← eatPunct ":" then return .field computed key (← fullAssignment g)
      else
        match first with
        | .word name _ =>
          if !isName first then unexpected
          else
            let e : Expr := .mk key.span (.name name)
            match ← allowingIn (initializer g) with
            | some default =>
              modify fun c => { c with pending := key.span.start :: c.pending }
              return .defaulted e default
            | none => return .field false key e
        | _ => unexpected

/-- A regular expression, whose characters are read again from the start of the current token. -/
def regularExpression : Parser Expr := do
  let c ← get
  match scanPattern c.here with
  | .error fault => fail fault
  | .ok (size, rest) =>
    set { c with stop := c.start + size, rest := rest }
    next
    finishOther c.start []

/-- A template literal. -/
def templateLiteral (g : Grammar) : Parser Expr := do
  let start ← position
  let part : Parser Item := return .value (← fullExpression g)
  let (quasis, items) ← templateParts part
  finish start (.template quasis items)

/-- Whether a stretch of a template literal holds a malformed escape, which only a template with a
tag may. -/
def hasMalformedStretch : Expr → Bool
  | .mk _ (.template quasis _) => quasis.any (·.cooked.isNone)
  | _ => false

/-! ## Primary expressions -/

/-- The parts of an expression without the type arguments behind it, and those. -/
def withoutTypeArguments : Expr → Expr × TypeNote
  | .mk _ (.other .instantiation [.expression _ e, .notes types]) => (e, types)
  | e => (e, [])

/-- A class with the decorators in front of it. -/
def classExpression (g : Grammar) : Parser Expr := do
  let start ← position
  let above ← decorators g
  finishOther start (above ++ (← classParts g))

/-- A function expression from `async` or its keyword on. -/
def functionExpression (g : Grammar) : Parser Expr := do
  let start ← position
  let isAsync ← eatWord "async"
  let f ← functionFromKeyword g start isAsync false
  finish start (.function f)

/-- An expression that opens with a word. -/
def wordExpression (g : Grammar) (w : String) : Parser Expr := do
  let start ← position
  match w with
  | "null" =>
    next
    finish start .null
  | "true" =>
    next
    finish start (.bool true)
  | "false" =>
    next
    finish start (.bool false)
  | "this" =>
    next
    finish start (.other .receiver [])
  | "super" =>
    next
    unless (← atPunct "(") || (← atPunct ".") || (← atPunct "[") do unexpected
    finish start (.other .parent [])
  | "function" => functionExpression g
  | "class" => classExpression g
  | _ =>
    if ← opensAsyncFunction then functionExpression g
    else finish start (.name (← name))

/-- An expression in parentheses. -/
def parenthesized (g : Grammar) : Parser Expr := do
  let start ← position
  expectPunct "("
  let e ← fullExpression g
  expectPunct ")"
  finish start (.paren e)

/-- An expression without operators or calls. -/
def primary (g : Grammar) : Parser Expr := do
  let start ← position
  match ← token with
  | .word w false => wordExpression g w
  | .word _ true => finish start (.name (← name))
  | .number raw value =>
    next
    finish start (.number raw value)
  | .bigint =>
    next
    finishOther start []
  | .string value =>
    next
    finish start (.string value)
  | .template _ _ =>
    let e ← templateLiteral g
    noteIf (hasMalformedStretch e) .invalidEscape start
    return e
  | .punct "(" => parenthesized g
  | .punct "[" =>
    next
    let items ← separatedUntil "]" (listItem g)
    expectPunct "]"
    finish start (.array items)
  | .punct "\x7b" =>
    next
    let members ← separatedUntil "\x7d" (objectMember g)
    expectPunct "\x7d"
    finish start (.object members)
  | .punct "/" | .punct "/=" => regularExpression
  | .punct "@" => classExpression g
  | _ => unexpected

/-! ## Members and calls -/

/-- An expression that may be called, and whether an optional link is in it. -/
structure Link where
  e : Expr
  optional : Bool

/-- A member by its name or its key, from behind the point. -/
def namedMember (start : Nat) (object : Expr) : Parser Expr := do
  let keyStart ← position
  match ← token with
  | .privateName _ =>
    next
    finish start (.other .hiddenMember [asPart object])
  | .word w _ =>
    next
    let key ← finish keyStart (.string w)
    finish start (.member object key)
  | _ => unexpected

/-- A member by a key in square brackets. -/
def indexedMember (g : Grammar) (start : Nat) (object : Expr) : Parser Expr := do
  expectPunct "["
  let key ← fullExpression g
  expectPunct "]"
  finish start (.member object key)

/-- Operators and brackets that open an operand. -/
def openingMarks : List String := ["[", "\x7b", "!", "~", "++", "--", "/", "/=", "@"]

/-- Reserved words that open an operand. -/
def openingWords : List String :=
  ["null", "true", "false", "this", "super", "new", "delete", "typeof", "void", "function", "class",
   "import"]

/-- Whether the current token can follow type arguments in an expression. -/
def followsTypeArguments : Parser Bool := do
  let c ← get
  match c.token with
  | .punct "(" => return true
  | .template _ _ => return true
  | .punct "<" | .punct ">" | .punct "+" | .punct "-" => return false
  | .punct op =>
    return c.newline || !openingMarks.contains op
  | .word w _ =>
    return c.newline || ["in", "instanceof", "as", "satisfies"].contains w ||
      (isReserved w && !openingWords.contains w)
  | .eof => return true
  | _ => return c.newline

/-- Type arguments in an expression, unless the angle brackets compare. -/
def expressionTypeArguments? (g : Grammar) : Parser (Option TypeNote) := do
  if (← typed) && (← atPunct "<") then
    attemptSome do
      next
      let notes ← separatedUntil ">" (g .type)
      if angleOperator (← get).here == ">=" then return none
      else
        expectPunct ">"
        if ← followsTypeArguments then return some notes.flatten else return none
  else return none

/-- A call with the arguments at the current token. -/
def call (g : Grammar) (start : Nat) (callee : Expr) (types : TypeNote) : Parser Expr := do
  let args ← arguments g
  finish start (.call callee types args)

/-- What follows an optional link. -/
def optionalLink (g : Grammar) (start : Nat) (calls : Bool) (object : Expr) : Parser Expr := do
  if ← atPunct "[" then indexedMember g start object
  else if (← atPunct "(") && calls then call g start object []
  else if (← atPunct "<") && calls then
    match ← expressionTypeArguments? g with
    | some types => call g start object types
    | none => unexpected
  else namedMember start object

/-- A template literal with the tag in front of it. -/
def taggedTemplate (g : Grammar) (start : Nat) (tag : Expr) : Parser Expr := do
  let (tag, types) := withoutTypeArguments tag
  let e ← templateLiteral g
  finishOther start [asPart tag, .notes types, asPart e]

/-- One step behind an expression that may be called. -/
def linkStep (g : Grammar) (start : Nat) (calls : Bool) (link : Link) :
    Parser (Link ⊕ Link) := do
  match ← token with
  | .punct "." =>
    next
    return .inl { link with e := ← namedMember start link.e }
  | .punct "[" =>
    if (← context).decorator then return .inr link
    else return .inl { link with e := ← indexedMember g start link.e }
  | .punct "?." =>
    next
    return .inl ⟨← optionalLink g start calls link.e, true⟩
  | .punct "!" =>
    if (← typed) && !(← onNewLine) then
      next
      return .inl { link with e := ← finish start (.assertion .nonNull link.e []) }
    else return .inr link
  | .template _ _ =>
    if link.optional then unexpected
    else return .inl { link with e := ← taggedTemplate g start link.e }
  | .punct "<" =>
    match ← expressionTypeArguments? g with
    | some types =>
      let e ← finish start (.other .instantiation [asPart link.e, .notes types])
      return .inl { link with e := e }
    | none => return .inr link
  | .punct "(" =>
    if calls then
      let (callee, types) := withoutTypeArguments link.e
      return .inl { link with e := ← call g start callee types }
    else return .inr link
  | _ => return .inr link

/-- What `new` makes: the constructor, which is not called, and its arguments. -/
def construction (g : Grammar) : Parser Expr := do
  let start ← position
  expectWord "new"
  if ← eatPunct "." then
    expectWord "target"
    finishOther start []
  else
    let calleeStart ← position
    let first ← if ← atWord "new" then g .callee else primary g
    let link ← repeating (⟨first, false⟩ : Link) (linkStep g calleeStart false)
    if link.optional then fail (.misplaced "an optional link") else
    let (callee, types) := withoutTypeArguments link.e
    let args ← if ← atPunct "(" then arguments g else pure []
    finishOther start (asPart callee :: .notes types :: itemParts args)

/-- An expression that opens with `import`: a module that is loaded or what is known of this one. -/
def importExpression (g : Grammar) : Parser Expr := do
  let start ← position
  expectWord "import"
  if ← eatPunct "." then
    let w ← word
    if w == "meta" then finishOther start []
    else if w == "defer" || w == "source" then
      let args ← arguments g
      finish start (.other .dynamicImport (itemParts args))
    else unexpected
  else
    let args ← arguments g
    if args.isEmpty then unexpected
    else finish start (.other .dynamicImport (itemParts args))

/-- An expression that may be called, with its members and calls. -/
def calleeStep (g : Grammar) : Parser Expr := do
  let start ← position
  let first ←
    if ← atWord "new" then construction g
    else if ← atWord "import" then importExpression g
    else primary g
  let link ← repeating (⟨first, false⟩ : Link) (linkStep g start true)
  if !link.optional then return link.e
  else
    match link.e with
    | .mk span (.other .instantiation [.expression inner e, types]) =>
      return .mk span (.other .instantiation [.expression inner (.mk e.span (.chain e)), types])
    | e => return .mk e.span (.chain e)

/-! ## Assignments -/

/-- The right side of an assignment to what stands on its left. -/
def assignmentRest (g : Grammar) (arrowReturns : Bool) (start : Nat) (left : Expr) (op : String) :
    Parser Expr := do
  if op == "=" then
    match left.targetDefaults? with
    | none => fail .invalidTarget
    | some taken => modify fun c => { c with pending := c.pending.filter (!taken.contains ·) }
  else if !left.isPlace then fail .invalidTarget
  takeOperator op
  let right ← g (.assignment arrowReturns)
  finish start (.other (if op == "=" then .assignment else .unspecified)
    [asPart left, asPart right])

/-- What a condition chooses between, if there is a question mark behind it. -/
def conditionalRest (g : Grammar) (arrowReturns : Bool) (start : Nat) (test : Expr) :
    Parser Expr := do
  if ← eatPunct "?" then
    let consequent ← allowingIn (g (.assignment false))
    expectPunct ":"
    let alternate ← g (.assignment arrowReturns)
    finish start (.conditional test consequent alternate)
  else return test

/-- What a generator yields. -/
def yieldExpression (g : Grammar) : Parser Expr := do
  let start ← position
  noteIf (!(← context).allowYield) (.misplaced "yield") start
  expectWord "yield"
  if ← onNewLine then finishOther start []
  else
    let delegate ← eatPunct "*"
    let c ← get
    let ends := [";", "\x7d", "]", ")", ":", ","].any c.token.isPunct || c.token.isWord "in" ||
      (match c.token with | .eof => true | _ => false)
    if ends && !delegate then finishOther start []
    else finishOther start [asPart (← g (.assignment true))]

/-- The name that an expression is, if it is one. -/
def nameOf? : Expr → Option String
  | .mk _ (.name name) => some name
  | _ => none

/-- An expression that opens with an operand: an arrow with a single parameter, an assignment or a
condition. -/
def assignmentFromOperand (g : Grammar) (arrowReturns : Bool) : Parser Expr := do
  let start ← position
  let left ← g (.binary 0)
  match nameOf? left, ← atPunct "=>" with
  | some bound, true =>
    arrowSign
    arrowBody g ⟨start, {}, [], [loneParameter bound left.span], none⟩ arrowReturns
  | _, _ =>
    match (← operatorHere).filter assignmentOperators.contains with
    | some op => assignmentRest g arrowReturns start left op
    | none => conditionalRest g arrowReturns start left

/-- An expression without a comma. -/
def assignmentStep (g : Grammar) (arrowReturns : Bool) : Parser Expr := do
  if (← atWord "yield") && ((← context).allowYield || (← opensOperand)) then yieldExpression g
  else
    match ← bracketedArrow g arrowReturns with
    | some e => return e
    | none =>
      match ← asyncLoneArrow g arrowReturns with
      | some e => return e
      | none => assignmentFromOperand g arrowReturns

end ComponentCanvas.Script.Parser
