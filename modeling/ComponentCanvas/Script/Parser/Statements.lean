import ComponentCanvas.Script.Parser.Functions
import ComponentCanvas.Script.Parser.Classes
import ComponentCanvas.Script.Parser.Targets

/-!
# Statements

Variables, conditions and returns have forms of their own; loops and the like are kept by their
parts.
-/

namespace ComponentCanvas.Script.Parser

open Text (Span)

/-- A statement that no unit runs, from an offset to the end of the token before. -/
def finishParts (start : Nat) (parts : List Stmt) : Parser Stmt :=
  return .other (← spanFrom start) parts

/-! ## Variables -/

/-- Whether a pattern is a single name. -/
def isPlainName : Pattern → Bool
  | .name _ => true
  | _ => false

/-- A variable of a declaration. -/
def declarator (g : Grammar) : Parser Binder := do
  let start ← position
  let pattern ← g .pattern
  if (← typed) && !(← onNewLine) then discard <| eatPunct "!"
  let types ← annotation g
  let init ← initializer g
  return .mk (← spanFrom start) false [] pattern types init

/-- Notes a fault for each variable that lacks an initial value it needs: constants and patterns
need one, unless they only state types. -/
def requireInits (constant : Bool) (binders : List Binder) : Parser Unit := do
  unless (← context).ambient do
    for binder in binders do
      match binder with
      | .mk span _ _ pattern _ none =>
        noteIf (constant || !isPlainName pattern) .missingInitializer span.stop
      | _ => pure ()

/-- The variables of a declaration from its keyword on, and whether they are constants. -/
def declarators (g : Grammar) : Parser (Reach × Bool × List Binder) := do
  let w ← word
  let binders ← separatedBy1 "," (declarator g)
  return (if w == "var" then .function else .block, w == "const" || w == "using", binders)

/-- A declaration of variables. -/
def variableStatement (g : Grammar) (place : Place) : Parser Stmt := do
  let start ← position
  let (reach, constant, binders) ← declarators g
  requireInits constant binders
  noteIf (place == .body && reach == .block) (.misplaced "a declaration") start
  endOfStatement
  return .vars reach binders

/-- Whether `let` opens a declaration here. -/
def opensLet (place : Place) : Parser Bool := do
  let after ← peek
  return (← atWord "let") && (after.isPunct "[" ||
    (place != .body && (after.isPunct "\x7b" || (isName after &&
      !after.isWord "instanceof" && !after.isWord "in"))))

/-! ## Conditions and loops -/

/-- An expression in parentheses that decides or drives a statement. -/
def head (g : Grammar) : Parser Expr := do
  expectPunct "("
  let e ← fullExpression g
  expectPunct ")"
  return e

/-- The statement that another one governs. -/
def governed (g : Grammar) : Parser Stmt := g (.statement .body)

/-- A condition. -/
def conditionStatement (g : Grammar) : Parser Stmt := do
  expectWord "if"
  let test ← head g
  let consequent ← governed g
  let alternate ← if ← eatWord "else" then governed g else pure .empty
  return .cond test consequent alternate

/-- An expression up to a closing token, if there is one. -/
def optionalExpression (g : Grammar) (close : String) : Parser (List Stmt) := do
  if ← atPunct close then return [] else return [asPart (← fullExpression g)]

/-- The rest of a loop that counts, from its first semicolon on. -/
def countingRest (g : Grammar) : Parser (List Stmt) := do
  expectPunct ";"
  let test ← optionalExpression g ";"
  expectPunct ";"
  let update ← optionalExpression g ")"
  return test ++ update

/-- The values that a loop runs over, if it does. -/
def overValues? (g : Grammar) : Parser (Option Stmt) := do
  if ← eatWord "in" then return some (asPart (← fullExpression g))
  else if ← eatWord "of" then return some (asPart (← fullAssignment g))
  else return none

/-- Whether a declaration opens here, in the brackets of a loop. -/
def opensLoopDeclaration : Parser Bool := do
  let after ← peek
  return (← atWord "var") || (← atWord "const") || ((← atWord "let") &&
    (after.isPunct "[" || after.isPunct "\x7b" || (isName after && !after.isWord "of")))

/-- What stands in the brackets of a loop. -/
def loopHead (g : Grammar) : Parser (List Stmt) := do
  if ← atPunct ";" then countingRest g
  else if ← opensLoopDeclaration then
    let (reach, constant, binders) ←
      within (fun c => { c with allowIn := false }) (declarators g)
    match ← overValues? g with
    | some values => return [.vars reach binders, values]
    | none =>
      requireInits constant binders
      return .vars reach binders :: (← countingRest g)
  else
    let e ← within (fun c => { c with allowIn := false }) (expression g)
    if (← atWord "in") || (← atWord "of") then
      match e.targetDefaults? with
      | none => fail .invalidTarget
      | some taken => modify fun c => { c with pending := c.pending.filter (!taken.contains ·) }
    match ← overValues? g with
    | some values => return [asPart e, values]
    | none => return asPart e :: (← countingRest g)

/-- A loop from its keyword on; what stands in its brackets belongs to it alone. -/
def loopStatement (g : Grammar) (start : Nat) : Parser Stmt := do
  expectWord "for"
  discard <| eatWord "await"
  expectPunct "("
  let parts ← loopHead g
  expectPunct ")"
  finishParts start [.block (parts ++ [← governed g])]

/-- A case of a choice. -/
def caseClause (g : Grammar) : Parser (List Stmt) := do
  let test ←
    if ← eatWord "default" then pure []
    else do
      expectWord "case"
      pure [asPart (← fullExpression g)]
  expectPunct ":"
  let stmts ← repeating ([] : List Stmt) fun acc => do
    if (← atWord "case") || (← atWord "default") || (← atPunct "\x7d") then
      return .inr acc.reverse
    else return .inl ((← g (.statement .list)) :: acc)
  return test ++ stmts

/-- What is caught: the pattern that is bound and the statements. -/
def catchClause (g : Grammar) : Parser Stmt := do
  expectWord "catch"
  let start ← position
  let bound ←
    if ← eatPunct "(" then
      let pattern ← g .pattern
      let types ← annotation g
      let span ← spanFrom start
      expectPunct ")"
      pure [Stmt.vars .block [.mk span false [] pattern types none]]
    else pure []
  return .block (bound ++ [.block (← block g)])

/-- Statements of which a fault is caught. -/
def tryStatement (g : Grammar) (start : Nat) : Parser Stmt := do
  expectWord "try"
  let body ← block g
  let caught ← if ← atWord "catch" then some <$> catchClause g else pure none
  let final ← if ← eatWord "finally" then some <$> block g else pure none
  if caught.isNone && final.isNone then fail (.expected "catch") else
  finishParts start (.block body :: (caught.toList ++ final.toList.map .block))

/-! ## Statements that end here -/

/-- A return. -/
def returnStatement (g : Grammar) : Parser Stmt := do
  let start ← position
  noteIf (!(← context).allowReturn) (.misplaced "return") start
  expectWord "return"
  let e ← if ← canEnd then pure none else some <$> fullExpression g
  endOfStatement
  return .ret e

/-- A statement that leaves a loop or goes on with it. -/
def jumpStatement (start : Nat) : Parser Stmt := do
  next
  unless ← canEnd do discard name
  endOfStatement
  finishParts start []

/-- A statement that throws. -/
def throwStatement (g : Grammar) (start : Nat) : Parser Stmt := do
  expectWord "throw"
  noteIf (← onNewLine) .unexpectedToken start
  let e ← fullExpression g
  endOfStatement
  finishParts start [asPart e]

/-- An expression, or a statement with a label in front of it. -/
def expressionStatement (g : Grammar) : Parser Stmt := do
  let start ← position
  let e ← fullExpression g
  match e with
  | .mk _ (.name _) =>
    if ← eatPunct ":" then
      let stmt ← governed g
      finishParts start [stmt]
    else
      endOfStatement
      return .expression (← spanFrom start) e
  | _ =>
    endOfStatement
    return .expression (← spanFrom start) e

/-! ## Functions and classes -/

/-- A function that is declared. -/
def functionDeclaration (g : Grammar) (place : Place) : Parser Stmt := do
  let start ← position
  let isAsync ← eatWord "async"
  noteIf (isAsync && place == .body) (.misplaced "an asynchronous function") start
  noteIf (place == .body && (← peek).isPunct "*") (.misplaced "a generator") start
  return .function (← functionFromKeyword g start isAsync true)

/-- A class that is declared, with the decorators in front of it. -/
def classDeclaration (g : Grammar) (place : Place) : Parser Stmt := do
  let start ← position
  let above ← decorators g
  discard <| eatWord "abstract"
  noteIf (place == .body) (.misplaced "a class") start
  let parts ← classParts g
  finishParts start (above ++ parts)

/-! ## Declarations of types -/

/-- What an interface states. -/
def interfaceDeclaration (g : Grammar) : Parser (List Stmt) := do
  expectWord "interface"
  let bound ← name
  let types ← typeParameters g
  let above ← if ← eatWord "extends" then separatedBy1 "," (typeReference g) else pure []
  let members ← objectType g
  return [.notes [.binding bound], scopedNotes (types ++ above.flatten ++ members)]

/-- A name for a type. -/
def typeAlias (g : Grammar) : Parser (List Stmt) := do
  expectWord "type"
  let bound ← name
  let types ← typeParameters g
  expectPunct "="
  let type ← g .type
  endOfStatement
  return [.notes [.binding bound], scopedNotes (types ++ type)]

/-- The name that a key states, if it is a text. -/
def keyText? : Expr → Option String
  | .mk _ (.string value) => some value
  | .mk _ (.template [quasi] []) => quasi.cooked
  | _ => none

/-- A member of an enumeration: its name and its value. -/
def enumMember (g : Grammar) : Parser (Option String × List Stmt) := do
  let (_, key) ← key g
  return (keyText? key, (← allowingIn (initializer g)).toList.map asPart)

/-- An enumeration. -/
def enumDeclaration (g : Grammar) : Parser (List Stmt) := do
  discard <| eatWord "const"
  expectWord "enum"
  let bound ← name
  expectPunct "\x7b"
  let members ← separatedUntil "\x7d" (enumMember g)
  expectPunct "\x7d"
  let names := members.filterMap (·.1)
  return [declaredNames [bound], .block (.notes (names.map .member) :: members.flatMap (·.2))]

/-- A namespace or a declared module, whose statements are no part of what runs. -/
def namespaceDeclaration (g : Grammar) : Parser (List Stmt) := do
  if ← eatWord "global" then return [.block (← block g)]
  else
    next
    match ← token with
    | .string _ =>
      next
      if ← atPunct "\x7b" then return [.block [scopedBody (← block g)]]
      else
        endOfStatement
        return []
    | _ =>
      let names ← separatedBy1 "." name
      return [declaredNames names, scopedBody (← block g)]

/-- An alias for a name in a namespace or for a required module, from behind `import`.  The truth
value tells whether a module is required. -/
def importAlias (g : Grammar) : Parser (Bool × List Stmt) := do
  let bound ← name
  expectPunct "="
  let loads := (← atWord "require") && (← peek).isPunct "("
  let target ←
    if loads then
      next
      next
      match ← token with
      | .string _ => next
      | _ => unexpected
      expectPunct ")"
      pure []
    else typeReference g
  endOfStatement
  return (loads, [declaredNames [bound], scopedNotes target])

/-- Whether a declaration that only states types opens at the current token, perhaps behind words
in front of it. -/
def opensTypeDeclaration : Nat → Parser Bool
  | 0 => return false
  | fuel + 1 => do
    match ← token with
    | .word w false =>
      let after ← peek
      let onLine := (← peekOnLine).isSome
      if w == "interface" || w == "type" then return onLine && isName after
      else if w == "module" || w == "namespace" then
        return onLine && (isName after || (match after with | .string _ => true | _ => false))
      else if w == "global" then return after.isPunct "\x7b"
      else if w == "enum" then return true
      else if w == "const" then return after.isWord "enum"
      else if w == "declare" || w == "abstract" then
        if !onLine then return false
        else lookAhead false do
          next
          let declares := (← atWord "var") || (← atWord "let") || (← atWord "const") ||
            (← atWord "function") || (← atWord "class") || (← atWord "import") ||
            (← opensAsyncFunction)
          if declares then return true else opensTypeDeclaration fuel
      else return false
    | _ => return false

/-- What a declaration that only states types holds. -/
def typeDeclarationParts (g : Grammar) : Parser (List Stmt) := do
  match ← token with
  | .word "interface" _ => interfaceDeclaration g
  | .word "type" _ => typeAlias g
  | .word "enum" _ => enumDeclaration g
  | .word "const" _ =>
    if (← peek).isWord "enum" then enumDeclaration g
    else return [← variableStatement g .list]
  | .word "var" _ | .word "let" _ => return [← variableStatement g .list]
  | .word "function" _ | .word "async" _ => return [← functionDeclaration g .list]
  | .word "abstract" _ | .word "class" _ => return [← classDeclaration g .list]
  | .word "import" _ => do
    next
    return (← importAlias g).2
  | _ => namespaceDeclaration g

/-- A declaration that only states types.  Variables and functions of which the types are declared
keep their form. -/
def typeDeclaration (g : Grammar) (start : Nat) : Parser Stmt := do
  let ambient ← eatWord "declare"
  let parts ← within (fun c => { c with ambient := c.ambient || ambient })
    (typeDeclarationParts g)
  match parts with
  | [.vars reach binders] => return .vars reach binders
  | [.function f] => return .function f
  | parts => finishParts start parts

end ComponentCanvas.Script.Parser
