import ComponentCanvas.Text.Blank
import ComponentCanvas.Text.LetterCase
import ComponentCanvas.Text.Lines

/-!
# Type Identifiers

A component type is known by one canonical form, whatever way its name is written:
`pricing-card`, `pricing_card` and `pricing card` are all `PricingCard`.  The hyphenated form goes
the other way and names files and catalog entries.
-/

namespace ComponentCanvas.TypeId

open Text (isBlank trim splitBy upperChar lowerChar isUpper)

/-- A character that parts two words of a name. -/
def isSeparator (c : Char) : Bool := c == '-' || c == '_' || isBlank c

/-- A word with its first letter in upper case. -/
def capitalize : List Char → List Char
  | [] => []
  | c :: rest => upperChar c ++ rest

/-- The words of a name; empty ones do not count. -/
def words (s : List Char) : List (List Char) :=
  (splitBy isSeparator (trim s)).filter (!·.isEmpty)

/-- The canonical form on lists of characters. -/
def canonicalChars (s : List Char) : List Char := (words s).flatMap capitalize

/-- The canonical form: the words of a name, each with its first letter raised, in one. -/
def canonical (name : String) : String := String.ofList (canonicalChars name.toList)

/-- The hyphenated form of one character; `first` for the first one of a name. -/
def hyphenateChar (first : Bool) (c : Char) : List Char :=
  if isUpper c then (if first then [] else ['-']) ++ lowerChar c
  else if c == '_' || isBlank c then ['-']
  else [c]

/-- The hyphenated form on lists of characters. -/
def hyphenatedChars (s : List Char) : List Char :=
  match trim s with
  | [] => []
  | c :: rest => hyphenateChar true c ++ rest.flatMap (hyphenateChar false)

/-- The hyphenated form: a hyphen stands before every capital but a first one, and every letter is
in lower case. -/
def hyphenated (name : String) : String := String.ofList (hyphenatedChars name.toList)

end ComponentCanvas.TypeId
