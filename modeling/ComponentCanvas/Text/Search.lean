/-!
# Searching in Texts

Whether a text holds another one, cutting a text at another one, and replacing the first place at
which it occurs.
-/

namespace ComponentCanvas.Text

/-- Whether a text holds another one. -/
def holds (part : List Char) : List Char → Bool
  | [] => part.isEmpty
  | c :: rest => part.isPrefixOf (c :: rest) || holds part rest

/-- Helper: the pieces of a text cut at a separator, after a number of characters that belong to a
separator are skipped. -/
def cutFrom (separator : List Char) : Nat → List Char → List (List Char)
  | _, [] => [[]]
  | skip + 1, _ :: rest => cutFrom separator skip rest
  | 0, c :: rest =>
    if separator.isPrefixOf (c :: rest) then [] :: cutFrom separator (separator.length - 1) rest
    else
      match cutFrom separator 0 rest with
      | piece :: pieces => (c :: piece) :: pieces
      | [] => [[c]]

/-- The pieces of a text between the places where a separator occurs.  The separator is not empty;
places do not overlap. -/
def cutAt (separator s : List Char) : List (List Char) := cutFrom separator 0 s

/-- The text with the first place of a part replaced. -/
def replaceFirst (part replacement : List Char) : List Char → List Char
  | [] => if part.isEmpty then replacement else []
  | c :: rest =>
    if part.isPrefixOf (c :: rest) then replacement ++ (c :: rest).drop part.length
    else c :: replaceFirst part replacement rest

end ComponentCanvas.Text
