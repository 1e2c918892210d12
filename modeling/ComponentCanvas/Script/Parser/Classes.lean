import ComponentCanvas.Script.Parser.Functions

/-!
# Classes

No unit runs a class.  A class is kept as the parts of it that can mention names: what it extends
and implements, computed keys, functions and initial values.
-/

namespace ComponentCanvas.Script.Parser

open Text (Span)

/-- Whether a token can follow a word in front of a member. -/
def opensMember (t : Token) : Bool := opensKey t || t.isPunct "*"

/-- The parts of a key that mention names. -/
def keyParts (computed : Bool) (key : Expr) : List Stmt := if computed then [asPart key] else []

/-- A member with a function, from its key on. -/
def memberFunction (g : Grammar) (flavor : Flavor) (computed : Bool) (key : Expr) :
    Parser (List Stmt) := do
  let f ← functionRest g (← position) none flavor true
  return keyParts computed key ++ [.function f]

/-- The initial value of a member, which runs in a function of its own. -/
def memberInit (g : Grammar) : Parser (List Stmt) :=
  within (fun c => { c with allowAwait := false, allowYield := false, allowIn := true }) do
    return (← initializer g).toList.map asPart

/-- A member behind its decorators and the words in front of it. -/
def classMemberBody (g : Grammar) : Parser (List Stmt) := do
  let t ← token
  let after ← peek
  if (← typed) && (← opensIndex) then
    let notes ← indexSignature g
    endOfTypeMember
    return [scopedNotes notes]
  else if (t.isWord "get" || t.isWord "set") && opensKey after then
    next
    let (computed, key) ← key g
    memberFunction g {} computed key
  else
    let isAsync := t.isWord "async" && (← peekOnLine).any opensMember
    if isAsync then next
    let isGenerator ← eatPunct "*"
    let (computed, key) ← key g
    if ← typed then
      unless ← eatPunct "?" do discard <| eatPunct "!"
    if isAsync || isGenerator || (← atPunct "(") || (← atPunct "<") then
      memberFunction g ⟨isAsync, isGenerator⟩ computed key
    else
      let types ← annotation g
      let init ← memberInit g
      endOfStatement
      return keyParts computed key ++ (scopedNotes types :: init)

/-- A member of a class. -/
def classMember (g : Grammar) : Parser (List Stmt) := do
  if ← eatPunct ";" then return []
  else
    let above ← decorators g
    if (← atWord "static") && (← peek).isPunct "\x7b" then
      next
      let stmts ← within
        (fun c => { c with allowAwait := false, allowYield := false, allowReturn := false })
        (block g)
      return above ++ [scopedBody stmts]
    else
      skipModifiers opensMember
      return above ++ (← classMemberBody g)

/-- What a class extends and implements. -/
def heritage (g : Grammar) : Parser (List Stmt) := do
  let parent ←
    if ← eatWord "extends" then
      let e ← g .callee
      let types ← if (← typed) && (← atPunct "<") then typeArguments g else pure []
      pure [asPart e, scopedNotes types]
    else pure []
  let interfaces ←
    if (← typed) && (← eatWord "implements") then separatedBy1 "," (typeReference g)
    else pure []
  return parent ++ interfaces.map scopedNotes

/-- The parts of a class from its keyword on: its name, then what has a scope of its own. -/
def classParts (g : Grammar) : Parser (List Stmt) := do
  expectWord "class"
  let bound ←
    if (← atName) && !(← atWord "implements") then some <$> name
    else pure none
  let types ← typeParameters g
  let above ← heritage g
  expectPunct "\x7b"
  let members ← itemsUntil "\x7d" (classMember g)
  expectPunct "\x7d"
  return [declaredNames bound.toList, .block (.notes types :: above ++ members.flatten)]

end ComponentCanvas.Script.Parser
