import ComponentCanvas.Script.Parser.Patterns

/-!
# Types

Types mean nothing when a unit runs, so reading a type gives only the names that it mentions.
A name of a type is used; a type parameter is bound, as are the parameters of a function type.
-/

namespace ComponentCanvas.Script.Parser

open Text (Span)

/-! ## Type parameters and arguments -/

/-- The words that are types by themselves. -/
def typeKeywords : List String :=
  ["any", "bigint", "boolean", "never", "number", "object", "string", "symbol", "undefined",
   "unknown"]

/-- A type parameter. -/
def typeParameter (g : Grammar) : Parser TypeNote := do
  repeating () fun () => do
    match ← token with
    | .word w false =>
      if w == "const" || ((w == "in" || w == "out") && (match ← peek with
          | .word w _ => w != "extends"
          | _ => false)) then
        next
        return .inl ()
      else return .inr ()
    | _ => return .inr ()
  let bound ← name
  let limit ← if ← eatWord "extends" then g .type else pure []
  let default ← if ← eatPunct "=" then g .type else pure []
  return .binding bound :: (limit ++ default)

/-- The type parameters of a declaration, if there are any. -/
def typeParameters (g : Grammar) : Parser TypeNote := do
  if (← typed) && (← atPunct "<") then
    next
    let notes ← separatedUntil ">" (typeParameter g)
    expectPunct ">"
    return notes.flatten
  else return []

/-- Type arguments in angle brackets. -/
def typeArguments (g : Grammar) : Parser TypeNote := do
  expectPunct "<"
  let notes ← separatedUntil ">" (g .type)
  expectPunct ">"
  return notes.flatten

/-- Type arguments, if they follow on the same line. -/
def typeArguments? (g : Grammar) : Parser TypeNote := do
  if (← atPunct "<") && !(← onNewLine) then typeArguments g else return []

/-- A name that may lead through others to a type, and its type arguments. -/
def typeReference (g : Grammar) : Parser TypeNote := do
  let start ← position
  let root ← name
  let span ← spanFrom start
  repeating () fun () => do
    if ← eatPunct "." then
      discard word
      return .inl ()
    else return .inr ()
  return .reference root span :: (← typeArguments? g)

/-! ## Functions -/

/-- What a function returns: a type, or a statement about one of its parameters. -/
def returnedType (g : Grammar) : Parser TypeNote := do
  let guard ← lookAhead false do
    discard word
    return (← atWord "is") && !(← onNewLine)
  if guard && !(← atWord "asserts") then
    next
    next
  g .type

/-- The type that a function returns, after its colon, if it is stated. -/
def returnAnnotation (g : Grammar) : Parser TypeNote := do
  if (← typed) && (← atPunct ":") then
    next
    returnedType g
  else return []

/-- Whether a function type opens with the current bracket. -/
def opensFunctionType (g : Grammar) : Parser Bool :=
  lookAhead false do
    expectPunct "("
    if (← atPunct ")") || (← atPunct "...") then return true
    else
      skipModifiers opensPattern
      unless ← eatWord "this" do discard <| g .pattern
      if (← atPunct ":") || (← atPunct ",") || (← atPunct "?") || (← atPunct "=") then
        return true
      else
        expectPunct ")"
        atPunct "=>"

/-- A function type from its type parameters on. -/
def functionType (g : Grammar) : Parser TypeNote := do
  let types ← typeParameters g
  let (receiver, binders) ← parameters g
  expectPunct "=>"
  return types ++ receiver ++ Binder.listMentions binders ++ (← returnedType g)

/-- The parameters and the returned type of a member that may be called. -/
def callSignature (g : Grammar) : Parser TypeNote := do
  let types ← typeParameters g
  let (receiver, binders) ← parameters g
  return types ++ receiver ++ Binder.listMentions binders ++ (← returnAnnotation g)

/-! ## Objects and tuples -/

/-- The end of a member of a type. -/
def endOfTypeMember : Parser Unit := do
  unless ← eatPunct "," do
    unless ← eatPunct ";" do
      unless (← atPunct "\x7d") || (← onNewLine) do fail (.expected ";")

/-- Whether the keys of an object type are given by a parameter, as in `[key: string]`. -/
def opensIndex : Parser Bool :=
  lookAhead false do
    expectPunct "["
    discard word
    atPunct ":"

/-- The parameter and the type behind an index, from its bracket on. -/
def indexSignature (g : Grammar) : Parser TypeNote := do
  expectPunct "["
  let parameter ← word
  let key ← annotation g
  expectPunct "]"
  return .index parameter :: key ++ (← annotation g)

/-- A member of an object type. -/
def typeMember (g : Grammar) : Parser TypeNote := do
  let t ← token
  let after ← peek
  let notes ←
    if t.isPunct "(" || t.isPunct "<" then callSignature g
    else if t.isWord "new" && (after.isPunct "(" || after.isPunct "<") then do
      next
      callSignature g
    else do
      if t.isWord "readonly" && opensKey after then next
      if ← opensIndex then indexSignature g
      else
        if ((← atWord "get") || (← atWord "set")) && opensKey (← peek) then next
        let (_, key) ← key g
        discard <| eatPunct "?"
        let notes ← if (← atPunct "(") || (← atPunct "<") then callSignature g else annotation g
        pure (key.mentions ++ notes)
  endOfTypeMember
  return notes

/-- The members of an object type, in braces. -/
def objectType (g : Grammar) : Parser TypeNote := do
  expectPunct "\x7b"
  let notes ← itemsUntil "\x7d" (typeMember g)
  expectPunct "\x7d"
  return notes.flatten

/-- Whether the current brace opens a type that runs over keys. -/
def opensMappedType : Parser Bool :=
  lookAhead false do
    expectPunct "\x7b"
    if (← atPunct "+") || (← atPunct "-") then
      next
      atWord "readonly"
    else
      if (← atWord "readonly") && (← peek).isPunct "[" then next
      expectPunct "["
      discard word
      atWord "in"

/-- A type that runs over keys. -/
def mappedType (g : Grammar) : Parser TypeNote := do
  let sign : Parser Unit := do
    unless ← eatPunct "+" do discard <| eatPunct "-"
  expectPunct "\x7b"
  sign
  discard <| eatWord "readonly"
  expectPunct "["
  let bound ← name
  expectWord "in"
  let keys ← g .type
  let renamed ← if ← eatWord "as" then g .type else pure []
  expectPunct "]"
  sign
  discard <| eatPunct "?"
  let types ← annotation g
  discard <| eatPunct ";"
  discard <| eatPunct ","
  expectPunct "\x7d"
  return .binding bound :: (keys ++ renamed ++ types)

/-- An item of a tuple type. -/
def tupleItem (g : Grammar) : Parser TypeNote := do
  discard <| eatPunct "..."
  let named ← lookAhead false do
    discard word
    discard <| eatPunct "?"
    atPunct ":"
  if named then
    next
    discard <| eatPunct "?"
    next
  let notes ← g .type
  discard <| eatPunct "?"
  return notes

/-! ## Types without operators -/

/-- The type of a module that is loaded, from its keyword on. -/
def moduleType (g : Grammar) : Parser TypeNote := do
  expectWord "import"
  expectPunct "("
  let notes ← g .type
  let options ← do
    if ← eatPunct "," then
      let e ← fullAssignment g
      discard <| eatPunct ","
      pure e.mentions
    else pure []
  expectPunct ")"
  repeating () fun () => do
    if ← eatPunct "." then
      discard word
      return .inl ()
    else return .inr ()
  return notes ++ options ++ (← typeArguments? g)

/-- A word that opens a type. -/
def typeFromWord (g : Grammar) (w : String) : Parser TypeNote := do
  let after ← peekOnLine
  if (typeKeywords.contains w && !(after.any (·.isPunct "."))) || w == "void" || w == "null" ||
      w == "true" || w == "false" then
    next
    return []
  else if w == "this" then
    next
    if (← atWord "is") && !(← onNewLine) then
      next
      g .type
    else return []
  else if w == "typeof" then
    next
    if ← atWord "import" then moduleType g
    else if ← eatWord "this" then
      repeating () fun () => do
        if ← eatPunct "." then
          discard word
          return .inl ()
        else return .inr ()
      return []
    else typeReference g
  else if w == "import" then moduleType g
  else if w == "asserts" && after.any fun t => isName t || t.isWord "this" then
    next
    discard word
    if ← eatWord "is" then g .type else return []
  else typeReference g

/-- A type without operators around it. -/
def primaryType (g : Grammar) : Parser TypeNote := do
  match ← token with
  | .word w _ => typeFromWord g w
  | .string _ | .number _ _ | .bigint =>
    next
    return []
  | .template _ _ =>
    let (_, notes) ← templateParts (g .type)
    return notes.flatten
  | .punct "-" =>
    next
    match ← token with
    | .number _ _ | .bigint =>
      next
      return []
    | _ => unexpected
  | .punct "\x7b" => if ← opensMappedType then mappedType g else objectType g
  | .punct "[" =>
    next
    let notes ← separatedUntil "]" (tupleItem g)
    expectPunct "]"
    return notes.flatten
  | .punct "(" =>
    next
    let notes ← within (fun c => { c with allowConditionalType := true }) (g .type)
    expectPunct ")"
    return notes
  | _ => unexpected

/-! ## Types with operators -/

/-- A type and what follows it in square brackets. -/
def postfixType (g : Grammar) : Parser TypeNote := do
  let notes ← primaryType g
  repeating notes fun notes => do
    if (← atPunct "[") && !(← onNewLine) then
      next
      if ← eatPunct "]" then return .inl notes
      else
        let index ← g .type
        expectPunct "]"
        return .inl (notes ++ index)
    else return .inr notes

/-- The limit of a type that is inferred, unless the word opens a condition around it. -/
def inferredLimit (g : Grammar) : Parser TypeNote := do
  let limit ← attemptSome do
    if ← eatWord "extends" then
      let notes ← within (fun c => { c with allowConditionalType := false }) (g .type)
      if !(← context).allowConditionalType || !(← atPunct "?") then return some notes
      else return none
    else return none
  return limit.getD []

/-- A type behind the operators in front of it.  The first argument bounds their number. -/
def operatorType (g : Grammar) : Nat → Parser TypeNote
  | 0 => unexpected
  | fuel + 1 => do
    let t ← token
    if t.isWord "keyof" || t.isWord "unique" || t.isWord "readonly" then
      next
      operatorType g fuel
    else if t.isWord "infer" then
      next
      let bound ← name
      return .binding bound :: (← inferredLimit g)
    else within (fun c => { c with allowConditionalType := true }) (postfixType g)

/-- Types with an operator between them, which may also stand in front of the first. -/
def joinedTypes (operator : String) (type : Parser TypeNote) : Parser TypeNote := do
  discard <| eatPunct operator
  return (← separatedBy1 operator type).flatten

/-- A type without a condition around it. -/
def unionType (g : Grammar) : Parser TypeNote := do
  joinedTypes "|" (joinedTypes "&" (operatorType g (← bound)))

/-- A type. -/
def typeStep (g : Grammar) : Parser TypeNote := do
  let t ← token
  if t.isPunct "<" || (t.isPunct "(" && (← opensFunctionType g)) then functionType g
  else if t.isWord "new" then
    next
    functionType g
  else if t.isWord "abstract" && (← peek).isWord "new" then
    next
    next
    functionType g
  else
    let notes ← unionType g
    if (← context).allowConditionalType && (← atWord "extends") && !(← onNewLine) then
      next
      let limit ← within (fun c => { c with allowConditionalType := false }) (g .type)
      expectPunct "?"
      let yes ← within (fun c => { c with allowConditionalType := true }) (g .type)
      expectPunct ":"
      let no ← within (fun c => { c with allowConditionalType := true }) (g .type)
      return notes ++ limit ++ yes ++ no
    else return notes

end ComponentCanvas.Script.Parser
