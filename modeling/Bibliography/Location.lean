import Bibliography.Text.Basic

/-
  Places in a source text.

  Offsets are counted in bytes of the UTF-8 form, lines and
  columns in characters from one.  Lines and columns are numbers
  of 32 bits, and the greatest of these stands for all that are
  too great.  A location keeps a copy of its line, so that a
  message can be shown without the source.

  Key definitions include:
    * `Text.byteLength`
    * `Text.takeBytes`
    * `Location`
    * `Location.locate`
    * `Location.render`
    * `Span`
-/

------------------------------------------------------------
-- Byte Offsets
------------------------------------------------------------

namespace Bibliography

namespace Text

/- The length of the UTF-8 form. -/
def byteLength : Text → Nat
  | [] => 0
  | c :: rest => c.utf8Size + byteLength rest

/-
  The longest beginning whose UTF-8 form has at most `offset`
  bytes.
-/
def takeBytes : Nat → Text → Text
  | _, [] => []
  | offset, c :: rest =>
      if c.utf8Size ≤ offset then
        c :: takeBytes (offset - c.utf8Size) rest
      else []

/- The text after `takeBytes`. -/
def dropBytes
    (offset : Nat)
    (t : Text) : Text :=
  t.drop (takeBytes offset t).length

/- The characters after the last newline. -/
def lastLine (t : Text) : Text :=
  (t.reverse.takeWhile (fun c => c != '\n')).reverse

/- The characters before the first newline. -/
def firstLine (t : Text) : Text :=
  t.takeWhile (fun c => c != '\n')

end Text

------------------------------------------------------------
-- Locations
------------------------------------------------------------

/- A line or column, read as a number. -/
instance counterToNat : Coe UInt32 Nat where
  coe := UInt32.toNat

/- A line, a column on it, and the text of the line. -/
structure Location where
  line : UInt32
  column : UInt32
  context : Text
  deriving DecidableEq

namespace Location

/- The place between the two parts of a source text. -/
def between
    (before after : Text) : Location where
  line := .ofNatClamp (before.count '\n' + 1)
  column := .ofNatClamp (before.lastLine.length + 1)
  context :=
    (before.lastLine ++ after.firstLine).trimEndBy
      (fun c => c == '\r')

/-
  The place of a byte offset.  An offset past the end is the
  end, and one inside a character is its beginning.
-/
def locate
    (source : Text)
    (offset : Nat) : Location :=
  between (source.takeBytes offset) (source.dropBytes offset)

/- A caret below the column. -/
def marker (l : Location) : Text :=
  List.replicate (l.column.toNat - 1) ' ' ++ ['^']

/- The words that name the place. -/
def describe (l : Location) : String :=
  s!"line {l.line}, column {l.column}"

/- A message above the line and its caret. -/
def render
    (l : Location)
    (message : Text) : Text :=
  message ++ '\n' :: l.context ++ '\n' :: l.marker

end Location

------------------------------------------------------------
-- Spans
------------------------------------------------------------

/- A range of bytes and the place where it begins. -/
structure Span where
  start : Nat
  stop : Nat
  line : UInt32
  column : UInt32
  deriving DecidableEq

namespace Span

/- The text of the range. -/
def text
    (s : Span)
    (source : Text) : Text :=
  (source.dropBytes s.start).takeBytes (s.stop - s.start)

end Span

end Bibliography
