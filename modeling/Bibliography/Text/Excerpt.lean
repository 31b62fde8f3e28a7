import Bibliography.Error

/-
  Excerpts of text, and the full stop at the end of a sentence.

  Positions and lengths are 64-bit integers.  A window of
  characters is clipped to the text; a truncation closes the
  groups that it leaves open.

  Key definitions include:
    * `Counting.saturatingAdd`
    * `Text.windowBounds`
    * `Text.substring`
    * `Text.truncate`
    * `Text.addPeriod`
-/

------------------------------------------------------------
-- Counting in 64 Bits
------------------------------------------------------------

namespace Bibliography

namespace Counting

/- A sum that stops at the ends of the range. -/
def saturatingAdd (a b : Int64) : Int64 :=
  Int64.ofIntClamp (a.toInt + b.toInt)

/- A number of things, at most the greatest integer. -/
def ofNat (n : Nat) : Int64 :=
  Int64.ofIntClamp n

/- The part of an integer that lies between zero and a bound. -/
def clamp
    (bound : Int64)
    (n : Int64) : Nat :=
  if n < 0 then 0
  else if bound < n then bound.toInt.toNat
  else n.toInt.toNat

end Counting

------------------------------------------------------------
-- Substrings
------------------------------------------------------------

namespace Text

/-
  How many of `length` characters stand before a window, and how
  many up to its end.  The window begins at position `start` and
  is `len` wide; positions count from one, and negative ones from
  the end.
-/
def windowBounds
    (length : Nat)
    (start len : Int64) : Nat × Nat :=
  let n := Counting.ofNat length
  let first :=
    if 0 < start then start - 1
    else Counting.saturatingAdd n start
  let stop := Counting.saturatingAdd first len
  (Counting.clamp n first, Counting.clamp n stop)

/-
  The characters from position `start`, at most `len` of them.
-/
def substring
    (t : Text)
    (start len : Int64) : Except Error Text :=
  if start = 0 then .error (.of .substringStartZero)
  else if len ≤ 0 then .ok []
  else
    let bounds := windowBounds t.length start len
    .ok ((t.take bounds.2).drop bounds.1)

------------------------------------------------------------
-- Truncation
------------------------------------------------------------

/-
  The text up to `left` more visible characters, read from brace
  depth `depth`, with what is open at its end closed.
-/
def truncateFrom : Nat → Nat → Text → Text
  | depth, _, [] => List.replicate depth '}'
  | depth, left, c :: rest =>
      if left = 0 then List.replicate depth '}'
      else if c = '{' then c :: truncateFrom (depth + 1) left rest
      else if c = '}' then
        if depth = 0 then truncateFrom 0 left rest
        else c :: truncateFrom (depth - 1) left rest
      else c :: truncateFrom depth (left - 1) rest

/-
  The first `len` visible characters with the braces among them.
  Closing braces without a partner are dropped.
-/
def truncate
    (t : Text)
    (len : Int64) : Text :=
  truncateFrom 0 len.toInt.toNat t

------------------------------------------------------------
-- Full Stops
------------------------------------------------------------

/- The marks that end a sentence. -/
def endsSentence (c : Char) : Bool :=
  c == '.' || c == '?' || c == '!'

/-
  The text with a full stop, unless a mark that ends a sentence
  stands before its last closing braces.  Of those braces as many
  are dropped as the text closes groups too many.
-/
def addPeriod (t : Text) : Text :=
  let visible := t.trimEndBy (fun c => c == '}')
  match visible.getLast? with
  | none => t
  | some c =>
      if endsSentence c then t
      else
        let closing := t.length - visible.length
        let excess := t.count '}' - t.count '{'
        t.take (t.length - min excess closing) ++ ['.']

end Text

end Bibliography
