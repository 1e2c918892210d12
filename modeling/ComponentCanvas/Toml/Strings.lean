import ComponentCanvas.Json.Reader

/-!
# Strings of TOML

A string stands in double quotes, where a backslash escapes, or in single quotes, where nothing
does.  Three quotes open a string of several lines.  Its first line feed does not count, a
backslash at the end of a line joins the next text to it, and up to two quotes may stand inside.
-/

namespace ComponentCanvas.Toml

/-- A reading step: the result and the rest of the text. -/
abbrev Scan := StateT (List Char) Option

/-- A blank within a line. -/
def isSpace (c : Char) : Bool := c == ' ' || c == '\t'

/-- A character that may stand in a comment or a string as it is. -/
def isText (c : Char) : Bool := c == '\t' || (0x20 ≤ c.toNat && c.toNat != 0x7F)

/-- The text after a line end, if it opens with one. -/
def dropLineEnd? : List Char → Option (List Char)
  | '\n' :: rest => some rest
  | '\r' :: '\n' :: rest => some rest
  | _ => none

/-- The character of hexadecimal digits. -/
def hexChar? (digits : List Char) : Option Char := do
  let values ← digits.mapM Json.hexValue?
  let n := values.foldl (fun acc d => acc * 16 + d) 0
  if n.isValidChar then some (Char.ofNat n) else none

/-- The character of an escape with a number of hexadecimal digits. -/
def hexEscape (count : Nat) (s : List Char) : Option (Char × List Char) :=
  if s.length < count then none else (hexChar? (s.take count)).map (·, s.drop count)

/-- The character of an escape, after the backslash. -/
def escape : List Char → Option (Char × List Char)
  | '"' :: rest => some ('"', rest)
  | '\\' :: rest => some ('\\', rest)
  | 'b' :: rest => some (Char.ofNat 8, rest)
  | 't' :: rest => some ('\t', rest)
  | 'n' :: rest => some ('\n', rest)
  | 'f' :: rest => some (Char.ofNat 12, rest)
  | 'r' :: rest => some ('\r', rest)
  | 'u' :: rest => hexEscape 4 rest
  | 'U' :: rest => hexEscape 8 rest
  | _ => none

/-- The rest of a string in one line; `acc` holds the characters read, last first.  The first
argument bounds the number of characters. -/
def shortString (quote : Char) : Nat → List Char → Scan (List Char)
  | 0, _, _ => none
  | _ + 1, _, [] => none
  | fuel + 1, acc, c :: rest =>
    if c == quote then some (acc.reverse, rest)
    else if c == '\\' && quote == '"' then
      match escape rest with
      | none => none
      | some (escaped, rest) => shortString quote fuel (escaped :: acc) rest
    else if isText c then shortString quote fuel (c :: acc) rest
    else none

/-- The text after blanks and line ends. -/
def skipBlankLines : List Char → List Char
  | '\n' :: rest => skipBlankLines rest
  | '\r' :: '\n' :: rest => skipBlankLines rest
  | c :: rest => if isSpace c then skipBlankLines rest else c :: rest
  | [] => []

/-- The text after the backslash, if that joins lines. -/
def joinedLine? (s : List Char) : Option (List Char) :=
  (dropLineEnd? (s.dropWhile isSpace)).map skipBlankLines

/-- The rest of a string of several lines. -/
def longString (quote : Char) : Nat → List Char → Scan (List Char)
  | 0, _, _ => none
  | _ + 1, _, [] => none
  | fuel + 1, acc, c :: rest =>
    if c == quote then
      let run := (rest.takeWhile (· == quote)).length + 1
      if run < 3 then longString quote fuel (c :: acc) rest
      else if run ≤ 5 then
        some (acc.reverse ++ List.replicate (run - 3) quote, rest.drop (run - 1))
      else none
    else if c == '\\' && quote == '"' then
      match joinedLine? rest with
      | some rest => longString quote fuel acc rest
      | none =>
        match escape rest with
        | none => none
        | some (escaped, rest) => longString quote fuel (escaped :: acc) rest
    else
      match dropLineEnd? (c :: rest) with
      | some rest => longString quote fuel ('\n' :: acc) rest
      | none => if isText c then longString quote fuel (c :: acc) rest else none

/-- The text of a string in one line, after its opening quote. -/
def readShort (quote : Char) : Scan String := fun s =>
  (shortString quote (s.length + 1) [] s).map fun (text, rest) => (String.ofList text, rest)

/-- The text of a string of several lines, after its opening quotes. -/
def readLong (quote : Char) : Scan String := fun s =>
  (longString quote (s.length + 1) [] ((dropLineEnd? s).getD s)).map fun (text, rest) =>
    (String.ofList text, rest)

/-- A string at its opening quote. -/
def readString : Scan String := fun s =>
  match s with
  | a :: b :: c :: rest =>
    if a != '"' && a != '\'' then none
    else if a == b && b == c then readLong a rest
    else readShort a (b :: c :: rest)
  | a :: rest => if a != '"' && a != '\'' then none else readShort a rest
  | [] => none

end ComponentCanvas.Toml
