import ComponentCanvas.Script.Parser.Types

/-!
# Markup

Elements and fragments.  Names in markup may hold hyphens, the value of an attribute may be any
text between two quotes, and what stands between tags is text until a brace or a tag: these places
read the characters behind the current token by rules of their own.
-/

namespace ComponentCanvas.Script

open Text (Span byteSize)

/-- A name of an element as it is written. -/
def TagName.text : TagName → String
  | .host name _ => name
  | .component name _ => name
  | .namespaced space name => space ++ ":" ++ name
  | .receiver => "this"
  | .member root path => ".".intercalate ((root.elim "this" Prod.fst) :: path)

namespace Parser

/-! ## Names -/

/-- A character of a name in markup. -/
def isMarkupNamePart (c : Char) : Bool := Text.isIdentifierPart c || c == '-'

/-- A name in markup, whose characters are read again from the start of the current token. -/
def markupName : Parser String := do
  match ← token with
  | .word _ false =>
    modify fun c =>
      let size := byteSize (c.here.takeWhile isMarkupNamePart)
      let rest := c.here.dropWhile isMarkupNamePart
      { c with stop := c.start + size, rest := rest }
    let written := (← get).here.takeWhile isMarkupNamePart
    next
    return String.ofList written
  | _ => unexpected

/-- The name of an element. -/
def tagName : Parser TagName := do
  let start ← position
  let first ← markupName
  let span ← spanFrom start
  if ← eatPunct ":" then return .namespaced first (← markupName)
  else if ← atPunct "." then
    if first.toList.contains '-' then unexpected
    else
      let path ← repeating [] fun path => do
        if ← eatPunct "." then return .inl ((← markupName) :: path)
        else return .inr path.reverse
      return .member (if first == "this" then none else some (first, span)) path
  else if first == "this" then return .receiver
  else if h : isComponentName first then return .component first span
  else return .host first (Bool.eq_false_iff.mpr h)

/-! ## Attributes -/

/-- An expression in braces, up to the closing brace, which stays.  There may be none, and a comma
may not stand in it. -/
def bracedExpression (g : Grammar) : Parser (Option Expr) := do
  expectPunct "\x7b"
  if ← atPunct "\x7d" then return none
  else
    let e ← fullAssignment g
    unless ← atPunct "\x7d" do fail (.expected "\x7d")
    return some e

/-- The text between two quotes, read from behind the current token. -/
def quotedText? : Parser (Option String) := do
  let c ← get
  let gap := skipGap .code 0 false c.rest
  match gap.rest with
  | quote :: rest =>
    if quote == '"' || quote == '\'' then
      let text := rest.takeWhile (· != quote)
      match rest.dropWhile (· != quote) with
      | _ :: after =>
        let start := c.stop + gap.size
        set { c with start := start, here := gap.rest, stop := start + byteSize text + 2,
                     rest := after }
        next
        return some (String.ofList text)
      | [] => fail .unterminatedString
    else return none
  | [] => return none

/-- The value of an attribute behind its equals sign, which is the current token. -/
def attributeValue (g : Grammar) : Parser (Option Expr) := do
  let start := (← get).stop
  match ← quotedText? with
  | some text => return some (← finish start (.string text))
  | none =>
    next
    if ← atPunct "\x7b" then
      let value ← bracedExpression g
      next
      return value
    else
      let e ← g .markup
      next
      return some e

/-- An attribute.  One without a value is true. -/
def markupAttribute (g : Grammar) : Parser Member := do
  let start ← position
  if ← eatPunct "\x7b" then
    expectPunct "..."
    let e ← fullAssignment g
    expectPunct "\x7d"
    return .spread e
  else
    let first ← markupName
    let name ← if ← eatPunct ":" then pure (first ++ ":" ++ (← markupName)) else pure first
    let key ← finish start (.string name)
    if ← atPunct "=" then
      match ← attributeValue g with
      | some value => return .field false key value
      | none => return .hollow name
    else return .field false key (← finish start (.bool true))

/-! ## Children -/

/-- The text up to the next tag or brace, read from behind the current token. -/
def textChild : Parser (Option Item) := do
  let c ← get
  let text := c.rest.takeWhile fun ch => ch != '<' && ch != '{'
  let after := c.rest.dropWhile fun ch => ch != '<' && ch != '{'
  let start := c.stop + byteSize text
  if text.any fun ch => ch == '>' || ch == '}' then
    throw ⟨.unexpectedToken, start⟩
  else if after.isEmpty then throw ⟨.unterminatedMarkup, start⟩
  else
    set ({ c with previous := c.stop, newline := false }.place start after (scanToken after)
      (isProper_scanToken after))
    return if text.isEmpty then none else some (.text (String.ofList text))

/-- A child in braces; the closing brace stays the current token. -/
def bracedChild (g : Grammar) : Parser Item := do
  let start ← position
  if (← peek).isPunct "..." then
    next
    next
    let e ← fullAssignment g
    unless ← atPunct "\x7d" do fail (.expected "\x7d")
    return .spread ⟨start, (← get).stop⟩ e
  else return (← bracedExpression g).elim .hole .value

/-- The children of an element behind the current token, up to the bracket that opens its closing
tag. -/
def children (g : Grammar) : Parser (List Item) :=
  repeating ([] : List Item) fun acc => do
    let acc := (← textChild).toList ++ acc
    if ← atPunct "\x7b" then return .inl ((← bracedChild g) :: acc)
    else if (← peek).isPunct "/" then return .inr acc.reverse
    else return .inl (.markup (← g .markup) :: acc)

/-- Markup up to the current token. -/
def finishMarkup (start : Nat) (form : ExprForm) : Parser Expr :=
  return .mk ⟨start, (← get).stop⟩ form

/-- Requires the bracket that closes a tag, which stays. -/
def closingAngle : Parser Unit := do
  unless ← atPunct ">" do fail (.expected ">")

/-- An element or fragment from its opening bracket on.  The bracket that closes it stays the
current token, as what follows may be text. -/
def markupStep (g : Grammar) : Parser Expr := do
  let start ← position
  expectPunct "<"
  if ← atPunct ">" then
    let items ← children g
    next
    expectPunct "/"
    closingAngle
    finishMarkup start (.fragment items)
  else
    let tag ← tagName
    let types ← if (← typed) && (← atPunct "<") then typeArguments g else pure []
    let attributes ← repeating [] fun acc => do
      if (← atPunct ">") || (← atPunct "/") then return .inr acc.reverse
      else return .inl ((← markupAttribute g) :: acc)
    if ← eatPunct "/" then
      closingAngle
      finishMarkup start (.element tag types attributes [])
    else
      let items ← children g
      next
      expectPunct "/"
      if ← atPunct ">" then fail (.mismatchedTag tag.text)
      let close ← tagName
      unless close.text == tag.text do fail (.mismatchedTag tag.text)
      closingAngle
      finishMarkup start (.element tag types attributes items)

end Parser

end ComponentCanvas.Script
