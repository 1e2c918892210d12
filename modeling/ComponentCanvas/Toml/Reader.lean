import ComponentCanvas.Toml.Scalars
import ComponentCanvas.Toml.Table

/-!
# Reading TOML

A document is a list of lines: headers, which choose the table to fill, and keys with their values.
-/

namespace ComponentCanvas.Toml

/-- The greatest number of arrays and tables around a value, the innermost included. -/
def depthLimit : Nat := 79

/-- Skips blanks within a line. -/
def skipSpaces : Scan Unit := fun s => some ((), s.dropWhile isSpace)

/-- The text after the comment that it opens with, if it opens with one. -/
def dropComment : List Char → List Char
  | '#' :: rest => rest.dropWhile isText
  | s => s

/-- Skips the end of a line with its comment; the text may also end. -/
def endOfLine : Scan Unit := fun s =>
  match dropComment (s.dropWhile isSpace) with
  | [] => some ((), [])
  | rest => (dropLineEnd? rest).map ((), ·)

/-- Skips blanks, line ends and comments; `comment` within a comment. -/
def dropTrivia (comment : Bool) : List Char → List Char
  | '\n' :: rest => dropTrivia false rest
  | '\r' :: '\n' :: rest => dropTrivia false rest
  | c :: rest =>
    if comment then (if isText c then dropTrivia true rest else c :: rest)
    else if c == '#' then dropTrivia true rest
    else if isSpace c then dropTrivia false rest
    else c :: rest
  | [] => []

/-- Skips blanks, line ends and comments. -/
def skipTrivia : Scan Unit := fun s => some ((), dropTrivia false s)

/-! ## Keys -/

/-- A character of a key without quotes. -/
def isBare (c : Char) : Bool :=
  Decimal.isDigit c || ('a' ≤ c && c ≤ 'z') || ('A' ≤ c && c ≤ 'Z') || c == '_' || c == '-'

/-- A key without dots. -/
def simpleKey : Scan String := fun s =>
  match s with
  | '"' :: rest => readShort '"' rest
  | '\'' :: rest => readShort '\'' rest
  | s =>
    let name := s.takeWhile isBare
    if name.isEmpty then none else some (String.ofList name, s.dropWhile isBare)

/-- Further parts of a key, each after a dot.  The first argument bounds their number. -/
def moreKeys : Nat → Scan (List String)
  | 0 => return []
  | fuel + 1 =>
    (do
      skipSpaces
      expect '.'
      skipSpaces
      let part ← simpleKey
      return part :: (← moreKeys fuel)) <|>
    pure []

/-- A key: the parts in front of its last dot, and the last part. -/
def key : Scan (List String × String) := do
  skipSpaces
  let first ← simpleKey
  let more ← fun s => moreKeys s.length s
  skipSpaces
  let parts := first :: more
  if depthLimit < parts.length then failure
  return (parts.dropLast, parts.getLastD first)

/-! ## Values -/

/-- The items of an array up to its closing bracket. -/
def arrayItems (item : Scan Json) : Nat → List Json → Scan Json
  | 0, _ => failure
  | fuel + 1, acc => do
    skipTrivia
    (do
      expect ']'
      return .arr acc.reverse) <|>
    (do
      let value ← item
      skipTrivia
      (do
        expect ','
        arrayItems item fuel (value :: acc)) <|>
      (do
        expect ']'
        return .arr (value :: acc).reverse))

/-- The members of an inline table up to its closing brace; at least one of them. -/
def inlineMembers (item : Scan Json) : Nat → Table → Scan Table
  | 0, _ => failure
  | fuel + 1, table => do
    let (path, name) ← key
    expect '='
    skipSpaces
    let value ← item
    skipSpaces
    match table.assignAt path name value with
    | none => failure
    | some table =>
      (do
        expect ','
        inlineMembers item fuel table) <|>
      (do
        expect '\x7d'
        return table)

/-- An inline table after its opening brace. -/
def inlineTable (item : Scan Json) : Scan Json := do
  skipSpaces
  (do
    expect '\x7d'
    return .obj []) <|>
  (do
    let table ← fun s => inlineMembers item (s.length + 1) (.mk .defined []) s
    return table.toJson)

/-- A value inside at most `depth` further arrays and tables. -/
def value : Nat → Scan Json
  | 0 => (do return .str (← readString)) <|> scalar
  | depth + 1 => fun s =>
    match s with
    | '[' :: rest => arrayItems (value depth) (rest.length + 1) [] rest
    | '\x7b' :: rest => inlineTable (value depth) rest
    | s => ((do return .str (← readString)) <|> scalar) s

/-! ## Documents -/

/-- What has been read of a document: its tables, and the path of the one that is being filled. -/
structure Document where
  root : Table
  current : List String

/-- The document before its first line. -/
def Document.start : Document := ⟨.mk .defined [], []⟩

/-- A header after its opening bracket. -/
def header (document : Document) : Scan Document := do
  let isList := (← optionally (expect '[')).isSome
  let (path, name) ← key
  expect ']'
  if isList then expect ']'
  let change := if isList then Table.append name else Table.define name
  match document.root.modify .passed change path with
  | some root => return ⟨root, path ++ [name]⟩
  | none => failure

/-- A key with its value. -/
def keyLine (document : Document) : Scan Document := do
  let (path, name) ← key
  expect '='
  skipSpaces
  let v ← value depthLimit
  match document.root.modify .passed (Table.assignAt path name v) document.current with
  | some root => return { document with root }
  | none => failure

/-- A line. -/
def line (document : Document) : Scan Document := fun s =>
  match s.dropWhile isSpace with
  | [] => some (document, [])
  | '#' :: rest => some (document, '#' :: rest)
  | '\n' :: rest => some (document, '\n' :: rest)
  | '\r' :: rest => some (document, '\r' :: rest)
  | '[' :: rest => header document rest
  | rest => keyLine document rest

/-- The lines of a document.  The first argument bounds their number. -/
def lines : Nat → Document → List Char → Option Document
  | 0, _, _ => none
  | _ + 1, document, [] => some document
  | fuel + 1, document, s => do
    let (document, rest) ← line document s
    let ((), rest) ← endOfLine rest
    lines fuel document rest

/-- The text without a byte order mark at its start. -/
def withoutMark : List Char → List Char
  | c :: rest => if c.toNat == 0xFEFF then rest else c :: rest
  | [] => []

/-- The object of a document. -/
def read? (text : String) : Option Json :=
  let s := withoutMark text.toList
  (lines (s.length + 1) .start s).map (·.root.toJson)

end ComponentCanvas.Toml
