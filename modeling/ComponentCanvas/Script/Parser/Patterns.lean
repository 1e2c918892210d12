import ComponentCanvas.Script.Parser.Grammar

/-!
# Patterns and Parameters

What a declaration or a function binds: names, and patterns that take objects and arrays apart.
The default of a parameter stands beside its pattern; a default inside a pattern is part of it.
-/

namespace ComponentCanvas.Script.Parser

open Text (Span)

/-- Items between commas up to a closing token, which stays.  An item after three dots takes the
rest, and nothing may follow it. -/
def separatedWithRest {α : Type} (close : String) (item rest : Parser α) : Parser (List α) :=
  repeating [] fun acc => do
    if ← atPunct close then return .inr acc.reverse
    else if ← eatPunct "..." then
      let last ← rest
      unless ← atPunct close do fail (.misplaced "an item after the rest")
      return .inr (last :: acc).reverse
    else
      let acc := (← item) :: acc
      if ← eatPunct "," then return .inl acc
      else if ← atPunct close then return .inr acc.reverse
      else fail (.expected ",")

/-! ## Patterns -/

/-- A pattern with its default, if it has one. -/
def patternWithDefault (g : Grammar) : Parser Pattern := do
  let pattern ← g .pattern
  match ← allowingIn (initializer g) with
  | some default => return .withDefault pattern default
  | none => return pattern

/-- An item of an object pattern. -/
def objectPatternItem (g : Grammar) : Parser PatternItem := do
  let first ← token
  let (computed, key) ← key g
  if ← eatPunct ":" then return .field key (← patternWithDefault g)
  else
    match first with
    | .word name _ =>
      if computed || !isName first then unexpected
      else
        match ← allowingIn (initializer g) with
        | some default => return .field key (.withDefault (.name name) default)
        | none => return .field key (.name name)
    | _ => unexpected

/-- An item of an array pattern. -/
def arrayPatternItem (g : Grammar) : Parser PatternItem := do
  if ← atPunct "," then return .hole
  else return .element (← patternWithDefault g)

/-- A binding pattern without a default of its own. -/
def patternStep (g : Grammar) : Parser Pattern := do
  if ← eatPunct "\x7b" then
    let rest : Parser PatternItem := return .rest (.name (← name))
    let items ← separatedWithRest "\x7d" (objectPatternItem g) rest
    expectPunct "\x7d"
    return .object items
  else if ← eatPunct "[" then
    let rest : Parser PatternItem := return .rest (← g .pattern)
    let items ← separatedWithRest "]" (arrayPatternItem g) rest
    expectPunct "]"
    return .array items
  else return .name (← name)

/-! ## Parameters -/

/-- A type after a colon, if the script may hold types. -/
def annotation (g : Grammar) : Parser TypeNote := do
  if (← typed) && (← atPunct ":") then
    next
    g .type
  else return []

/-- The decorators in front of a class, a member or a parameter, as parts of it. -/
def decorators (g : Grammar) : Parser (List Stmt) :=
  repeating ([] : List Stmt) fun parts => do
    if ← eatPunct "@" then
      let e ← within (fun c => { c with decorator := true }) (g .callee)
      return .inl (parts ++ [asPart e])
    else return .inr parts

/-- Words that may stand in front of a parameter or of a member of a class. -/
def modifierWords : List String :=
  ["public", "private", "protected", "readonly", "override", "static", "abstract", "declare",
   "accessor", "export", "default", "const"]

/-- Skips words in front of a name, a key or a pattern, as long as the given test holds of what
follows them. -/
def skipModifiers (follows : Token → Bool) : Parser Unit :=
  repeating () fun () => do
    match ← token with
    | .word name false =>
      if modifierWords.contains name && follows (← peek) then
        next
        return .inl ()
      else return .inr ()
    | _ => return .inr ()

/-- Whether a token can open a pattern. -/
def opensPattern (t : Token) : Bool :=
  isName t || t.isPunct "\x7b" || t.isPunct "[" || t.isWord "this"

/-- A parameter. -/
def parameter (g : Grammar) : Parser Binder := do
  let start ← position
  let above ← decorators g
  if ← typed then skipModifiers fun t => opensPattern t || t.isPunct "..."
  let pattern ← g .pattern
  if ← typed then discard <| eatPunct "?"
  let types ← annotation g
  let init ← allowingIn (initializer g)
  return .mk (← spanFrom start) false above pattern types init

/-- The parameter that takes the rest, after its dots. -/
def restParameter (g : Grammar) : Parser Binder := do
  let start ← position
  let pattern ← g .pattern
  if ← typed then discard <| eatPunct "?"
  let types ← annotation g
  return .mk (← spanFrom start) true [] pattern types none

/-- The type stated for the receiver, which may stand in front of the parameters. -/
def receiverType (g : Grammar) : Parser TypeNote := do
  if (← typed) && (← atWord "this") then
    next
    let types ← annotation g
    unless ← atPunct ")" do expectPunct ","
    return types
  else return []

/-- Parameters in brackets, behind what they state of the receiver. -/
def parameters (g : Grammar) : Parser (TypeNote × List Binder) := do
  expectPunct "("
  let receiver ← receiverType g
  let binders ← separatedWithRest ")" (parameter g) (restParameter g)
  expectPunct ")"
  return (receiver, binders)

end ComponentCanvas.Script.Parser
