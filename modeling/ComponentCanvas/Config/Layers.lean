import ComponentCanvas.Decimal.Reading
import ComponentCanvas.Fields
import ComponentCanvas.Json.Basic
import ComponentCanvas.Text.LetterCase
import ComponentCanvas.Text.Search

/-!
# Layers of Settings

A configuration is put together from layers of settings, each over those before it: tables are
merged, and any other value is replaced.  Keys are in lower case.  A setting may be named by a
path, `layout.origin_x` or `capabilities.atoms[0]`; what is missing on the way is made, and what is
in the way is replaced.
-/

namespace ComponentCanvas.Config

/-! ## Paths -/

/-- A step of a path. -/
inductive Step where
  | key (name : String)
  | index (n : Nat)
deriving DecidableEq

/-- A character of a name in a path. -/
def isNameChar (c : Char) : Bool :=
  Decimal.isDigit c || ('a' ≤ c && c ≤ 'z') || ('A' ≤ c && c ≤ 'Z') || c == '_' || c == '-' ||
    c == ' '

/-- A name at the start of a path, and the rest. -/
def stepName? (s : List Char) : Option (Step × List Char) :=
  let name := s.takeWhile isNameChar
  if name.isEmpty then none else some (.key (String.ofList name), s.dropWhile isNameChar)

/-- A position in brackets, after the opening one, and the rest. -/
def stepIndex? (s : List Char) : Option (Step × List Char) :=
  let digits := s.takeWhile Decimal.isDigit
  match s.dropWhile Decimal.isDigit with
  | ']' :: rest => if digits.isEmpty then none else some (.index (Decimal.valueOf digits), rest)
  | _ => none

/-- The steps after the first name.  The first argument bounds their number. -/
def moreSteps? : Nat → List Char → Option (List Step)
  | _, [] => some []
  | 0, _ => none
  | fuel + 1, '.' :: rest => do
    let (step, rest) ← stepName? rest
    return step :: (← moreSteps? fuel rest)
  | fuel + 1, '[' :: rest => do
    let (step, rest) ← stepIndex? rest
    return step :: (← moreSteps? fuel rest)
  | _ + 1, _ => none

/-- The path of a text. -/
def path? (text : String) : Option (List Step) := do
  let (first, rest) ← stepName? text.toList
  return first :: (← moreSteps? rest.length rest)

/-- The path that a text names: a text that is no path is a key as it stands. -/
def pathOf (text : String) : List Step := (path? text).getD [.key text]

/-! ## Merging -/

/-- The members of a table; any other value has none. -/
def membersOf : Json → Fields Json
  | .obj members => members
  | _ => []

/-- The items of a list; any other value has none. -/
def itemsOf : Json → List Json
  | .arr items => items
  | _ => []

/-- A key in lower case. -/
def lowerKey (key : String) : String := String.ofList (key.toList.flatMap Text.lowerChar)

/-- What a table holds under a key before it is written to. -/
def slotOf (members : Fields Json) (key : String) : Json := (Fields.get? members key).getD (.obj [])

mutual

/-- The members of a table with one more setting under a key. -/
def setKey (members : Fields Json) (key : String) : Json → Fields Json
  | .obj additions =>
    Fields.insert members (lowerKey key) (mergeAll (slotOf members (lowerKey key)) additions)
  | .null => Fields.insert members (lowerKey key) .null
  | .bool b => Fields.insert members (lowerKey key) (.bool b)
  | .int n => Fields.insert members (lowerKey key) (.int n)
  | .float x => Fields.insert members (lowerKey key) (.float x)
  | .str s => Fields.insert members (lowerKey key) (.str s)
  | .arr items => Fields.insert members (lowerKey key) (.arr items)

/-- A value with further settings; without any it stays what it is. -/
def mergeAll (value : Json) : List (String × Json) → Json
  | [] => value
  | (key, addition) :: rest => mergeAll (.obj (setKey (membersOf value) key addition)) rest

end

/-- The items of a list with one replaced; a list that is too short is filled up with null. -/
def setIndex (items : List Json) (n : Nat) (value : Json) : List Json :=
  (items ++ List.replicate (n + 1 - items.length) Json.null).set n value

/-- A value with a setting at a path. -/
def setAt (value : Json) : List Step → Json → Json
  | [], setting => setting
  | [.key key], setting => .obj (setKey (membersOf value) key setting)
  | .key key :: rest, setting =>
    let below := (Fields.get? (membersOf value) key).getD .null
    .obj (Fields.insert (membersOf value) key (setAt below rest setting))
  | .index n :: rest, setting =>
    let below := ((itemsOf value)[n]?).getD .null
    .arr (setIndex (itemsOf value) n (setAt below rest setting))

/-- Settings with a layer over them, of which the keys name paths. -/
def addLayer (settings : Json) (layer : Fields Json) : Json :=
  layer.foldl (fun acc entry => setAt acc (pathOf entry.1) entry.2) settings

/-! ## The environment -/

/-- What the names of variables open with. -/
def variableStart : List Char := ['b', 'u', 'i', 'l', 'd', 'e', 'r', '_', '_']

/-- What parts the steps of a path in the name of a variable. -/
def variableSeparator : List Char := ['_', '_']

/-- The path that the name of a variable stands for, if it is one of ours. -/
def variablePath? (name : String) : Option String :=
  let chars := name.toList.flatMap Text.lowerChar
  if variableStart.isPrefixOf chars then
    let parts := Text.cutAt variableSeparator (chars.drop variableStart.length)
    some (".".intercalate (parts.map String.ofList))
  else none

/-- The integer of a text, if it is one of 64 signed bits. -/
def integer? (s : List Char) : Option Int :=
  let (negative, digits) := Decimal.readSign s
  if digits.isEmpty || !digits.all Decimal.isDigit then none
  else
    let magnitude : Int := Decimal.valueOf digits
    let n := if negative then -magnitude else magnitude
    if Decimal.isSignedWord n then some n else none

/-- The value of a variable: a truth value, an integer, a float, or else its text. -/
def variableValue (text : String) : Json :=
  let lower := lowerKey text
  if lower == "true" then .bool true
  else if lower == "false" then .bool false
  else
    match integer? text.toList with
    | some n => .int n
    | none =>
      match Decimal.read? text.toList with
      | some x => .float x
      | none => .str text

/-- The layer of the environment. -/
def environmentLayer (environment : List (String × String)) : Fields Json :=
  Fields.ofList <| environment.filterMap fun (name, text) =>
    (variablePath? name).map (·, variableValue text)

end ComponentCanvas.Config
