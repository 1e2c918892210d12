import ComponentCanvas.Blueprint.Coercion
import ComponentCanvas.Text.LetterCase
import ComponentCanvas.Text.Search

/-!
# Methods of Texts, Numbers and Lists

The methods that call no function of the component.
-/

namespace ComponentCanvas.Blueprint

open Value (toText toNumber strictlyEquals)

/-- An argument; a missing one is undefined. -/
def argument (args : List Value) (i : Nat) : Value := args.getD i .undefined

/-! ## Parts of texts and lists -/

/-- A bound of a part: counted from the end if it is negative, and at most the length. -/
def bound (length : Nat) (default : Nat) (v : Value) : Nat :=
  match v with
  | .undefined => default
  | v =>
    let x := v.toNumber
    if x.isNaN then 0
    else if x < 0.0 then length - Value.sizeOf (-x)
    else min (Value.sizeOf x) length

/-- Where a part starts and ends; the end is not before the start. -/
def sliceBounds (length : Nat) (start : Value) (stop : Option Value) : Nat × Nat :=
  let first := bound length 0 start
  let last := (stop.map (bound length length)).getD length
  (first, max last first)

/-- A part of a list. -/
def slice {α : Type} (items : List α) (start : Value) (stop : Option Value) : List α :=
  let (first, last) := sliceBounds items.length start stop
  (items.take last).drop first

/-! ## Texts -/

/-- A text as a value. -/
def ofChars (s : List Char) : Value := .string (String.ofList s)

/-- The pieces of a text at a separator; the empty one parts all characters. -/
def splitText (s separator : List Char) : List Value :=
  if separator.isEmpty then s.map fun c => ofChars [c] else (Text.cutAt separator s).map ofChars

/-- A method of a text. -/
def stringMethod (s : String) (method : String) (args : List Value) : Value :=
  let chars := s.toList
  let part := (toText (argument args 0)).toList
  match method with
  | "toUpperCase" => ofChars (Text.upper chars)
  | "toLowerCase" => ofChars (Text.lower chars)
  | "trim" => ofChars (Text.trim chars)
  | "toString" => .string s
  | "includes" => .bool (Text.holds part chars)
  | "startsWith" => .bool (part.isPrefixOf chars)
  | "endsWith" => .bool (part.isSuffixOf chars)
  | "charAt" =>
    let x := toNumber (argument args 0)
    ofChars ((chars.drop (if Decimal.isFinite x then Value.sizeOf x else 0)).take 1)
  | "split" =>
    match argument args 0 with
    | .undefined => .list [.string s]
    | _ => .list (splitText chars part)
  | "slice" | "substring" => ofChars (slice chars (argument args 0) args[1]?)
  | "replace" =>
    match argument args 0 with
    | .string _ => ofChars (Text.replaceFirst part (toText (argument args 1)).toList chars)
    | _ => .string s
  | _ => .undefined

/-- What a text is to be filled up with: the width and the characters. -/
structure Padding where
  width : Nat
  fill : List Char

/-- The padding that arguments ask for. -/
def Padding.ofArguments (args : List Value) : Padding where
  width :=
    match (args[0]? : Option Value) with
    | some v => if Decimal.isFinite v.toNumber then Value.sizeOf v.toNumber else 0
    | none => 0
  fill :=
    match (args[1]? : Option Value) with
    | none | some .undefined => [' ']
    | some v => v.toText.toList

/-! ## Numbers -/

/-- A number with a fixed number of places. -/
def fixed (x : Float) (places : Nat) : String :=
  if Decimal.isFinite x then String.ofList (Decimal.fixedText x places) else Decimal.plainText x

/-- The number of places that an argument asks for, at most twenty. -/
def placesOf (v : Option Value) : Nat :=
  match v with
  | none => 0
  | some v => min (Value.sizeOf v.toNumber) 20

/-- A method of a number. -/
def numberMethod (x : Float) (method : String) (args : List Value) : Value :=
  match method with
  | "toFixed" => .string (fixed x (placesOf args[0]?))
  | "toString" | "toLocaleString" => .string (numberText x)
  | _ => .undefined

/-! ## Lists -/

/-- The place of a value in a list. -/
def positionOf (items : List Value) (v : Value) : Float :=
  match items.findIdx? (strictlyEquals · v) with
  | some i => Float.ofNat i
  | none => -1.0

/-- What an argument adds to a list: the items of a list, nothing if it is undefined. -/
def additions : Value → List Value
  | .list items => items
  | .undefined => []
  | v => [v]

/-- A method of a list that calls nothing. -/
def listMethod (items : List Value) (method : String) (args : List Value) : Value :=
  match method with
  | "join" =>
    let separator := match argument args 0 with
      | .undefined => ","
      | v => v.toText
    .string (separator.intercalate (Value.itemTexts items))
  | "slice" => .list (slice items (argument args 0) args[1]?)
  | "includes" => .bool (items.any (strictlyEquals · (argument args 0)))
  | "indexOf" => .number (positionOf items (argument args 0))
  | "concat" => .list (items ++ args.flatMap additions)
  | "reverse" => .list items.reverse
  | _ => .undefined

end ComponentCanvas.Blueprint
