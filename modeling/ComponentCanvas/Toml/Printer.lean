import ComponentCanvas.Decimal.Plain
import ComponentCanvas.Json.Printer
import ComponentCanvas.Toml.Reader

/-!
# Printing TOML

A string is written in the plainest of the quotes that it needs no escapes in: double quotes,
single quotes, three double quotes, three single quotes.  If it needs escapes in all of them, it is
escaped in double quotes, three of them if it has several lines.
-/

namespace ComponentCanvas.Toml

/-! ## Strings -/

/-- The length of the longest run of a character; `current` is that of the run in progress. -/
def longestRun (c : Char) (current : Nat) : List Char → Nat
  | [] => current
  | d :: rest =>
    if d == c then longestRun c (current + 1) rest else max current (longestRun c 0 rest)

/-- A control character that has to be escaped wherever it stands. -/
def needsEscape (c : Char) : Bool := !isText c && c != '\n'

/-- The quotes that a string stands in. -/
structure Quotes where
  mark : Char
  /-- Whether there are three of them on each side. -/
  long : Bool
deriving DecidableEq

/-- The greatest number of marks that may follow one another inside. -/
def Quotes.marksInside (quotes : Quotes) : Nat := if quotes.long then 2 else 0

/-- Whether a string can stand in quotes as it is. -/
def Quotes.suit (quotes : Quotes) (s : List Char) : Bool :=
  !s.any needsEscape && longestRun quotes.mark 0 s ≤ quotes.marksInside &&
    (quotes.long || !s.contains '\n') && (quotes.mark == '\'' || !s.contains '\\')

/-- The quotes in the order of preference. -/
def quotesInOrder : List Quotes :=
  [⟨'"', false⟩, ⟨'\'', false⟩, ⟨'"', true⟩, ⟨'\'', true⟩]

/-- The quotes of a string. -/
def quotesFor (s : List Char) : Quotes :=
  (quotesInOrder.find? (·.suit s)).getD ⟨'"', s.contains '\n'⟩

/-- One upper-case hexadecimal digit. -/
def upperHexDigit (n : Nat) : Char := (Json.hexDigit n).toUpper

/-- A character that is escaped. -/
def escapeText (c : Char) : List Char :=
  if c == '"' || c == '\\' then ['\\', c]
  else if c.toNat == 8 then ['\\', 'b']
  else if c == '\t' then ['\\', 't']
  else if c == '\n' then ['\\', 'n']
  else if c.toNat == 12 then ['\\', 'f']
  else if c == '\r' then ['\\', 'r']
  else ['\\', 'u', '0', '0', upperHexDigit (c.toNat / 16 % 16), upperHexDigit (c.toNat % 16)]

/-- A string inside double quotes; `run` double quotes stand in front of it. -/
def escapedIn (quotes : Quotes) (run : Nat) : List Char → List Char
  | [] => []
  | c :: rest =>
    if c == '"' then
      if run < quotes.marksInside then c :: escapedIn quotes (run + 1) rest
      else escapeText c ++ escapedIn quotes 0 rest
    else if c == '\n' && quotes.long then c :: escapedIn quotes 0 rest
    else if c == '\\' || !isText c || c == '\t' then escapeText c ++ escapedIn quotes 0 rest
    else c :: escapedIn quotes 0 rest

/-- A string with its quotes.  One of several lines begins on a line of its own. -/
def stringChars (s : List Char) : List Char :=
  let quotes := quotesFor s
  let marks := List.replicate (if quotes.long then 3 else 1) quotes.mark
  let start := if s.contains '\n' then ['\n'] else []
  let body := if quotes.mark == '"' then escapedIn quotes 0 s else s
  marks ++ start ++ body ++ marks

/-- A key: bare if it can be, else in quotes of one line. -/
def keyChars (key : List Char) : List Char :=
  if !key.isEmpty && key.all isBare then key
  else
    match [⟨'"', false⟩, ⟨'\'', false⟩].find? fun (quotes : Quotes) => quotes.suit key with
    | some quotes => quotes.mark :: key ++ [quotes.mark]
    | none => '"' :: escapedIn ⟨'"', false⟩ 0 key ++ ['"']

/-! ## Values and tables -/

/-- A float: positional, with a point. -/
def floatText (x : Float) : String :=
  if x.isNaN then "nan"
  else if x.isInf then Decimal.plainText x
  else
    let text := Decimal.plainText x
    if text.toList.contains '.' then text else text ++ ".0"

/-- The text of a string. -/
def stringText (s : String) : String := String.ofList (stringChars s.toList)

/-- A list of strings: with more than one of them, each on a line of its own. -/
def listText : List String → String
  | [] => "[]"
  | [only] => "[" ++ stringText only ++ "]"
  | items => "[\n" ++ String.join (items.map fun item => "    " ++ stringText item ++ ",\n") ++ "]"

/-- A line that gives a key its value. -/
def keyLineText (key value : String) : String :=
  String.ofList (keyChars key.toList) ++ " = " ++ value ++ "\n"

/-- A table with its header. -/
def tableText (header : String) (lines : List String) : String :=
  "[" ++ header ++ "]\n" ++ String.join lines

/-- Tables with an empty line between two of them. -/
def documentText (tables : List String) : String := "\n".intercalate tables

end ComponentCanvas.Toml
