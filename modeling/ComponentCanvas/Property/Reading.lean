import ComponentCanvas.Property.Names
import ComponentCanvas.Json.Basic
import ComponentCanvas.Script.Parser
import ComponentCanvas.Text.Blank

/-!
# Properties from Source

The value of a source expression: strings, numbers, the two truth values, and lists and objects of
them.  Any other expression has no value.
-/

namespace ComponentCanvas.Property

open Script (Expr)
open Text (Span)

/-- Why a source has no value. -/
inductive ReadError where
  /-- The text is no expression. -/
  | noExpression
  /-- The expression is none of a value. -/
  | unsupported (source : String)
deriving DecidableEq

/-- The text of an error. -/
def ReadError.message : ReadError → String
  | .noExpression => "not a source expression"
  | .unsupported source => "\x60" ++ source ++ "\x60 is outside the property value domain"

/-- The error of the expression at a span. -/
def unsupportedAt (source : List Char) (span : Span) : ReadError :=
  .unsupported (String.ofList ((Text.slice? source span).getD []))

/-- The value of a number as it is written: an integer if it has digits alone and fits, else a
float. -/
def numberValue? (raw : String) (x : Float) (negative : Bool) : Option Json :=
  let digits := raw.toList.filter (· != '_')
  let value : Int := Json.digitsValue digits
  let integer : Int := if negative then -value else value
  let fits := if negative then Decimal.isSignedWord integer else Decimal.isUnsignedWord integer
  if !digits.isEmpty && digits.all Text.isAsciiDigit && fits then some (.int integer)
  else
    let x := if negative then -x else x
    if Decimal.isFinite x then some (.float x) else none

/-- The key of a member: a name or string, or a computed string.  A plain key must not be the one
that has a meaning of its own. -/
def keyOf? (computed : Bool) : Expr → Option String
  | .mk _ (.string s) => if s == protoKey && !computed then none else some s
  | _ => none

mutual

/-- The value of an expression. -/
def valueOf (source : List Char) : Expr → Except ReadError Json
  | .mk _ (.string s) => return .str s
  | .mk _ (.bool b) => return .bool b
  | .mk span (.number raw x) =>
    match numberValue? raw x false with
    | some value => return value
    | none => throw (unsupportedAt source span)
  | .mk span (.unary .minus (.mk _ (.number raw x))) =>
    match numberValue? raw x true with
    | some value => return value
    | none => throw (unsupportedAt source span)
  | .mk _ (.template quasis []) => return .str ((quasis.head?.bind (·.cooked)).getD "")
  | .mk _ (.paren e) => valueOf source e
  | .mk span (.array items) => do return .arr (← itemValues source span items)
  | .mk span (.object members) => do return .obj (← memberValues source span members [])
  | .mk span _ => throw (unsupportedAt source span)

/-- The values of the items of the list at a span. -/
def itemValues (source : List Char) (span : Span) : List Script.Item → Except ReadError (List Json)
  | [] => return []
  | .value e :: rest => do
    let value ← valueOf source e
    return value :: (← itemValues source span rest)
  | _ => throw (unsupportedAt source span)

/-- The values of the members of the object at a span, written over those before them. -/
def memberValues (source : List Char) (span : Span) :
    List Script.Member → Bag → Except ReadError Bag
  | [], bag => return bag
  | .field computed key e :: rest, bag => do
    match keyOf? computed key with
    | none => throw (unsupportedAt source span)
    | some name =>
      let value ← valueOf source e
      memberValues source span rest (Fields.insert bag name value)
  | _, _ => throw (unsupportedAt source span)

end

/-- The value of the source expression that a text opens with. -/
def read (text : String) : Except ReadError Json :=
  match Expr.read text with
  | .ok e => valueOf text.toList e
  | .error _ => throw .noExpression

/-- What stands between two characters that open and close a text. -/
def between? (opening closing : Char) : List Char → Option (List Char)
  | c :: rest =>
    if c == opening && rest.getLast? == some closing then some rest.dropLast else none
  | [] => none

/-- The value of an attribute: an expression in braces or a text in quotes. -/
def readAttribute (text : String) : Except ReadError Json :=
  let chars := Text.trim text.toList
  match between? '\x7b' '\x7d' chars with
  | some inner => read (String.ofList inner)
  | none =>
    match between? '"' '"' chars with
    | some inner => return .str (String.ofList inner)
    | none => throw .noExpression

end ComponentCanvas.Property
