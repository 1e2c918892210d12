import ComponentCanvas.Script.Parser.Expressions
import ComponentCanvas.Script.Parser.Modules

/-!
# Reading a Script

The statement rule, the grammar with its circle closed, and the readers of a whole script and of a
single expression.  Rules refer to each other at most to a depth that the size of the text bounds.
-/

namespace ComponentCanvas.Script

open Text (Span)

namespace Parser

/-- A statement that opens with a name that is no keyword here. -/
def nameStatement : Parser Stmt := do
  let start ← position
  let bound ← name
  let span ← spanFrom start
  endOfStatement
  return .expression (← spanFrom start) (.mk span (.name bound))

/-- A statement that opens with `let`. -/
def letStatement (g : Grammar) (place : Place) : Parser Stmt := do
  let after ← peek
  if ← opensLet place then variableStatement g place
  else if after.isPunct "." || after.isPunct "(" then expressionStatement g
  else nameStatement

/-- Whether `using` opens a declaration. -/
def opensUsing : Parser Bool := do
  return (← atWord "using") && ((← peekOnLine).any fun t =>
    isName t && !t.isWord "of" && !t.isWord "in")

/-- A statement that opens with a word. -/
def wordStatement (g : Grammar) (place : Place) (w : String) : Parser Stmt := do
  let start ← position
  if (← typed) && (← opensTypeDeclaration (← bound)) then typeDeclaration g start
  else
    match w with
    | "if" => conditionStatement g
    | "for" => loopStatement g start
    | "while" =>
      next
      let test ← Parser.head g
      finishParts start [asPart test, ← governed g]
    | "do" =>
      next
      let body ← governed g
      expectWord "while"
      let test ← Parser.head g
      discard <| eatPunct ";"
      finishParts start [body, asPart test]
    | "break" | "continue" => jumpStatement start
    | "return" => returnStatement g
    | "throw" => throwStatement g start
    | "try" => tryStatement g start
    | "switch" =>
      next
      let subject ← Parser.head g
      expectPunct "\x7b"
      let cases ← itemsUntil "\x7d" (caseClause g)
      expectPunct "\x7d"
      finishParts start [asPart subject, .block cases.flatten]
    | "with" =>
      next
      let subject ← Parser.head g
      finishParts start [asPart subject, ← governed g]
    | "debugger" =>
      next
      endOfStatement
      finishParts start []
    | "var" | "const" => variableStatement g place
    | "let" => letStatement g place
    | "function" => functionDeclaration g place
    | "class" => classDeclaration g place
    | "export" => exportStatement g place
    | "import" =>
      let after ← peek
      if after.isPunct "(" || after.isPunct "." then expressionStatement g
      else importStatement g place
    | _ =>
      if ← opensAsyncFunction then functionDeclaration g place
      else if ← opensUsing then variableStatement g place
      else expressionStatement g

/-- A statement. -/
def statementStep (g : Grammar) (place : Place) : Parser Stmt := do
  match ← token with
  | .punct "\x7b" => return .block (← block g)
  | .punct ";" =>
    next
    return .empty
  | .punct "@" =>
    let start ← position
    let exported ← lookAhead false do
      discard <| decorators g
      atWord "export"
    if exported then
      discard <| decorators g
      next
      exportRest g place start
    else classDeclaration g place
  | .word w false => wordStatement g place w
  | _ => expressionStatement g

/-- The rules of the grammar, down to a depth. -/
def grammar : Nat → Grammar
  | 0, _ => unexpected
  | depth + 1, .assignment arrowReturns => assignmentStep (grammar depth) arrowReturns
  | depth + 1, .binary floor => binaryStep (grammar depth) floor
  | depth + 1, .unary => unaryStep (grammar depth)
  | depth + 1, .callee => calleeStep (grammar depth)
  | depth + 1, .markup => markupStep (grammar depth)
  | depth + 1, .type => typeStep (grammar depth)
  | depth + 1, .pattern => patternStep (grammar depth)
  | depth + 1, .statement place => statementStep (grammar depth) place

/-- The rules of the grammar for a text: between two tokens less than eight rules open. -/
def grammarFor (text : List Char) : Grammar := grammar (8 * (text.length + 2))

/-- Runs a parser on a text.  A fault that was noted, or a name with a default that never became a
target, makes the text no script. -/
def run {α : Type} (p : Parser α) (typed : Bool) (text : List Char) : Except SyntaxError α :=
  match p (Cursor.atStart typed text) with
  | .error e => .error e
  | .ok (a, c) =>
    match c.faults.getLast?, c.pending.getLast? with
    | some e, _ => .error e
    | none, some offset => .error ⟨.invalidTarget, offset⟩
    | none, none => .ok a

/-- The statements of a script, up to the end of the text. -/
def statements (g : Grammar) : Parser (List Stmt) :=
  repeating ([] : List Stmt) fun acc => do
    match ← token with
    | .eof => return .inr acc.reverse
    | _ => return .inl ((← g (.statement .top)) :: acc)

end Parser

/-- Reads a script that may hold types. -/
def Program.read (text : String) : Except SyntaxError Program := do
  let stmts ← Parser.run (Parser.statements (Parser.grammarFor text.toList)) true text.toList
  return ⟨Parser.withoutDirectives stmts⟩

/-- Reads the expression that a text without types opens with; what follows it is left alone. -/
def Expr.read (text : String) : Except SyntaxError Expr :=
  Parser.run (Parser.expression (Parser.grammarFor text.toList)) false text.toList

end ComponentCanvas.Script
