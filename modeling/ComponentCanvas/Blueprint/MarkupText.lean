import ComponentCanvas.Text.Blank
import ComponentCanvas.Text.Lines

/-!
# Text Between Tags

Text in one line stands as it is written.  Of text in several lines, each line loses the blanks at
the line breaks, empty lines are dropped, and single spaces join the rest.
-/

namespace ComponentCanvas.Blueprint

open Text (trimStart trimEnd)

/-- Helper: the lines after the first one, of which only the last keeps its trailing blanks. -/
def laterLines : List (List Char) → List (List Char)
  | [] => []
  | [last] => [trimStart last]
  | line :: rest => trimEnd (trimStart line) :: laterLines rest

/-- The lines without the blanks at line breaks. -/
def trimmedLines : List (List Char) → List (List Char)
  | [] => []
  | [only] => [only]
  | first :: rest => trimEnd first :: laterLines rest

/-- What is shown of a text between tags, if anything. -/
def markupText? (raw : String) : Option String :=
  let text := raw.toList
  if text.contains '\n' then
    match (trimmedLines (Text.lines text)).filter (!·.isEmpty) with
    | [] => none
    | parts => some (" ".intercalate (parts.map String.ofList))
  else if text.isEmpty then none
  else some raw

end ComponentCanvas.Blueprint
