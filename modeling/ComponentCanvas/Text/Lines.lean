/-!
# Lines and Separators

Splitting a text at a separator, and into lines.  A line ends at a line feed, and one carriage
return before the line feed belongs to the line end.
-/

namespace ComponentCanvas.Text

/-- The pieces between the characters that satisfy `p`; there is always at least one piece. -/
def splitBy (p : Char → Bool) : List Char → List (List Char)
  | [] => [[]]
  | c :: rest =>
    if p c then [] :: splitBy p rest
    else
      match splitBy p rest with
      | piece :: pieces => (c :: piece) :: pieces
      | [] => [[c]]

/-- The text without one final carriage return. -/
def dropCarriageReturn (line : List Char) : List Char :=
  if line.getLast? = some '\r' then line.dropLast else line

/-- Helper: closes every piece but the last, which no line feed ends. -/
def closeLines : List (List Char) → List (List Char)
  | [] => []
  | [last] => if last.isEmpty then [] else [last]
  | piece :: pieces => dropCarriageReturn piece :: closeLines pieces

/-- The lines of a text.  A final line feed opens no further line. -/
def lines (s : List Char) : List (List Char) := closeLines (splitBy (· == '\n') s)

/-- The first line of a text, empty for the empty text. -/
def firstLine (s : List Char) : List Char := (lines s).headD []

/-- Lines of a file, each ended by a line feed. -/
def unlines (parts : List String) : String := String.join (parts.map (· ++ "\n"))

end ComponentCanvas.Text
