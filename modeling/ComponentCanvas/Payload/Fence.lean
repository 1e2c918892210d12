import ComponentCanvas.Text.Blank
import ComponentCanvas.Text.Identifier

/-!
# Code Fences

A response often wraps its text in a fence: a line of three backquotes, which may name a language,
and three backquotes at the end.
-/

namespace ComponentCanvas.Payload

open Text (isBlank trim trimEnd isAsciiLetter isAsciiDigit)

/-- The mark of a fence. -/
def fenceMark : List Char := List.replicate 3 (Char.ofNat 0x60)

/-- A character of the name of a language. -/
def isInfoChar (c : Char) : Bool :=
  isAsciiLetter c || isAsciiDigit c || c == '_' || c == '+' || c == '-'

/-- What follows a text, if it opens with it. -/
def after? : List Char → List Char → Option (List Char)
  | [], s => some s
  | _ :: _, [] => none
  | c :: expected, d :: rest => if c == d then after? expected rest else none

/-- The text behind the line that opens a fence, if there is such a line. -/
def afterOpening? (s : List Char) : Option (List Char) := do
  let rest ← after? fenceMark (s.dropWhile isBlank)
  let rest := (rest.dropWhile isInfoChar).dropWhile fun c => c == ' ' || c == '\t'
  match rest with
  | '\n' :: body => some body
  | '\r' :: '\n' :: body => some body
  | _ => none

/-- The text in front of the mark that closes a fence; all of it if there is no such mark. -/
def beforeClosing (s : List Char) : List Char :=
  let text := trimEnd s
  match after? fenceMark text.reverse with
  | some front => front.reverse
  | none => text

/-- The text without a fence around it, trimmed. -/
def withoutFence (s : List Char) : List Char :=
  match afterOpening? s with
  | some body => trim (beforeClosing body)
  | none => trim s

/-- The text without a fence around it, trimmed. -/
def stripFence (text : String) : String := String.ofList (withoutFence text.toList)

end ComponentCanvas.Payload
