import ComponentCanvas.Text.Lines

/-!
# Positions in a Source Text

A position is a byte offset into the UTF-8 form of the text.  Diagnostics show it as a line and a
column, both counted from one, the column in characters.  Both are numbers of 32 bits: what is
counted is cut down to 32 bits, and one is added to that, around the end of their range.
-/

namespace ComponentCanvas.Text

/-- A half-open stretch of source text, in byte offsets. -/
structure Span where
  start : Nat
  stop : Nat
deriving BEq, Repr, Inhabited

/-- The number of bytes of a text. -/
def byteSize : List Char → Nat
  | [] => 0
  | c :: rest => c.utf8Size + byteSize rest

/-- The first `n` bytes of a text, if they end between two characters. -/
def takeBytes? : List Char → Nat → Option (List Char)
  | _, 0 => some []
  | [], _ + 1 => none
  | c :: rest, n + 1 =>
    if c.utf8Size ≤ n + 1 then (takeBytes? rest (n + 1 - c.utf8Size)).map (c :: ·) else none

/-- What follows the first `n` bytes of a text, if they end between two characters. -/
def dropBytes? : List Char → Nat → Option (List Char)
  | s, 0 => some s
  | [], _ + 1 => none
  | c :: rest, n + 1 => if c.utf8Size ≤ n + 1 then dropBytes? rest (n + 1 - c.utf8Size) else none

/-- The text of a span, if both its ends lie between characters of the text. -/
def slice? (source : List Char) (span : Span) : Option (List Char) :=
  if span.start ≤ span.stop then
    (dropBytes? source span.start).bind (takeBytes? · (span.stop - span.start))
  else none

/-- The text before an offset; an offset past the end or inside a character stands for the end. -/
def before (source : List Char) (offset : Nat) : List Char := (takeBytes? source offset).getD source

/-- The numbers of 32 bits.  Sums of them go around at the end of their range. -/
abbrev Word32 : Type := Fin 0x100000000

/-- A line and a column, both counted from one. -/
structure LineColumn where
  line : Word32
  column : Word32
deriving BEq, Repr, Inhabited

/-- Where a text that has been walked through ends. -/
def LineColumn.after (walked : List Char) : LineColumn where
  line := Fin.ofNat 0x100000000 (walked.count '\n') + 1
  column := Fin.ofNat 0x100000000 (walked.reverse.takeWhile (· != '\n')).length + 1

/-- The line and the column of a byte offset. -/
def lineColumn (source : List Char) (offset : Nat) : LineColumn :=
  LineColumn.after (before source offset)

end ComponentCanvas.Text
