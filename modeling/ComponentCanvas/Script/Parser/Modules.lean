import ComponentCanvas.Script.Parser.Statements

/-!
# Imports and Exports

A unit may not import or export, so of these statements little is kept: what they have to do with
other modules, and the names that they bind and use.
-/

namespace ComponentCanvas.Script.Parser

open Text (Span)

/-- An import or export: at the top level a module item, elsewhere its parts. -/
def finishModuleItem (place : Place) (start : Nat) (item : ModuleItem) (parts : List Stmt) :
    Parser Stmt := do
  let span ← spanFrom start
  return if place == .top then .moduleItem span item parts else .other span parts

/-- A string. -/
def stringText : Parser Unit := do
  match ← token with
  | .string _ => next
  | _ => unexpected

/-- A name or a string that names what a module gives. -/
def moduleName : Parser String := do
  match ← token with
  | .string _ =>
    next
    return ""
  | _ => word

/-- How a module is to be loaded, and the end of the statement. -/
def moduleEnd (g : Grammar) : Parser Unit := do
  if ((← atWord "with") || (← atWord "assert")) && !(← onNewLine) then
    next
    expectPunct "\x7b"
    let entry : Parser Unit := do
      discard <| key g
      expectPunct ":"
      stringText
    discard <| separatedUntil "\x7d" entry
    expectPunct "\x7d"
  endOfStatement

/-- The words of one name in a list of names, with the place of the first. -/
def specifier : Parser (Span × List String) := do
  let start ← position
  let first ← moduleName
  let span ← spanFrom start
  let more ← repeating [] fun acc => do
    if (← atPunct ",") || (← atPunct "\x7d") then return .inr acc.reverse
    else return .inl ((← moduleName) :: acc)
  return (span, first :: more)

/-- A list of names in braces. -/
def specifiers : Parser (List (Span × List String)) := do
  expectPunct "\x7b"
  let items ← separatedUntil "\x7d" specifier
  expectPunct "\x7d"
  return items

/-- The names that an import binds, up to the module. -/
def importedNames : Parser (List String) := do
  let listed : Parser (List String) := do
    if ← eatPunct "*" then
      expectWord "as"
      return [← name]
    else return (← specifiers).filterMap (·.2.getLast?)
  if (← atPunct "*") || (← atPunct "\x7b") then listed
  else
    let default ← name
    if ← eatPunct "," then return default :: (← listed) else return [default]

/-- An import. -/
def importStatement (g : Grammar) (place : Place) : Parser Stmt := do
  let start ← position
  expectWord "import"
  match ← token with
  | .string _ =>
    next
    moduleEnd g
    finishModuleItem place start (.declaration .importDeclaration) []
  | t =>
    let after ← peek
    if (t.isWord "type" || t.isWord "defer" || t.isWord "source") &&
        (after.isPunct "\x7b" || after.isPunct "*" || (isName after && !after.isWord "from")) then
      next
    if (← atName) && (← peek).isPunct "=" then
      let (loads, parts) ← importAlias g
      if loads then finishModuleItem place start .loadedName parts else finishParts start parts
    else
      let names ← importedNames
      expectWord "from"
      stringText
      moduleEnd g
      finishModuleItem place start (.declaration .importDeclaration)
        [declaredNames names]

/-- What is exported by default. -/
def defaultExport (g : Grammar) : Parser (List Stmt) := do
  let start ← position
  if (← atWord "function") || (← opensAsyncFunction) then
    let isAsync ← eatWord "async"
    expectWord "function"
    let isGenerator ← eatPunct "*"
    let bound ← if ← atPunct "(" then pure none else name?
    return [.function (← functionRest g start bound ⟨isAsync, isGenerator⟩ true)]
  else if (← atWord "class") || (← atPunct "@") ||
      ((← atWord "abstract") && (← peek).isWord "class") then
    return [← classDeclaration g .list]
  else if (← atWord "interface") && isName (← peek) then interfaceDeclaration g
  else
    let e ← fullAssignment g
    endOfStatement
    return [asPart e]

/-- Names that are exported. -/
def namedExports (g : Grammar) : Parser (List Stmt) := do
  let items ← specifiers
  if ← eatWord "from" then
    stringText
    moduleEnd g
    return []
  else
    endOfStatement
    return [.notes (items.filterMap fun (span, words) => words.head?.map (.reference · span))]

/-- Whether the declaration of something to export opens at the current token. -/
def opensDeclaration : Parser Bool := do
  let t ← token
  return ["var", "let", "const", "function", "class"].any t.isWord || t.isPunct "@" ||
    (← opensAsyncFunction) || (← opensTypeDeclaration (← bound))

/-- An export from behind its keyword on. -/
def exportRest (g : Grammar) (place : Place) (start : Nat) : Parser Stmt := do
  let t ← token
  let after ← peek
  if t.isPunct "=" then
    next
    let e ← fullExpression g
    endOfStatement
    finishModuleItem place start .exportedValue [asPart e]
  else if t.isWord "as" && after.isWord "namespace" then
    next
    next
    discard name
    endOfStatement
    finishModuleItem place start .exportedNamespace []
  else
    let parts ←
      if t.isWord "default" then do
        next
        defaultExport g
      else if t.isWord "import" then do
        next
        pure (← importAlias g).2
      else do
        if t.isWord "type" && (after.isPunct "\x7b" || after.isPunct "*") then next
        if ← eatPunct "*" then
          if ← eatWord "as" then discard moduleName
          expectWord "from"
          stringText
          moduleEnd g
          pure []
        else if ← atPunct "\x7b" then namedExports g
        else if ← opensDeclaration then pure [← g (.statement .list)]
        else unexpected
    finishModuleItem place start (.declaration .exportDeclaration) parts

/-- An export. -/
def exportStatement (g : Grammar) (place : Place) : Parser Stmt := do
  let start ← position
  expectWord "export"
  exportRest g place start

end ComponentCanvas.Script.Parser
