import Bibliography.Unicode.Character

/-
  Text as a list of characters, with braces that group.

  Bibliography text treats a braced group as protected, so most
  operations follow the brace depth while they read from left to
  right.  A stray closing brace leaves the depth at zero.

  Key definitions include:
    * `Text`
    * `Text.nest`
    * `Text.isBalanced`
    * `Text.visibleLength`
    * `Text.trim`
    * `Text.normalizeSpace`
    * `Text.lower`
-/

------------------------------------------------------------
-- Text and Brace Depth
------------------------------------------------------------

namespace Bibliography

/- A text is its characters in order. -/
abbrev Text := List Char

namespace Text

/- The characters of a literal. -/
abbrev ofString (s : String) : Text :=
  s.toList

/- The brace depth after one more character. -/
def nest
    (depth : Nat)
    (c : Char) : Nat :=
  if c = '{' then depth + 1
  else if c = '}' then depth - 1
  else depth

/-
  Whether the text closes every group that it opens and the
  `depth` groups that were open before it, and no other.
-/
def balancedFrom : Nat → Text → Bool
  | depth, [] => depth == 0
  | depth, c :: rest =>
      if c = '}' ∧ depth = 0 then false
      else balancedFrom (nest depth c) rest

/- Whether every brace has its partner. -/
def isBalanced (t : Text) : Bool :=
  balancedFrom 0 t

/- The braces themselves. -/
def isBrace (c : Char) : Bool :=
  c == '{' || c == '}'

/- The number of characters that are no braces. -/
def visibleLength (t : Text) : Nat :=
  t.countP (fun c => !isBrace c)

------------------------------------------------------------
-- White Space
------------------------------------------------------------

/- The text without the characters of a class at its end. -/
def trimEndBy
    (p : Char → Bool)
    (t : Text) : Text :=
  (t.reverse.dropWhile p).reverse

/- The text without white space at its end. -/
def trimEnd (t : Text) : Text :=
  t.trimEndBy Character.isSpace

/- The text without white space at both ends. -/
def trim (t : Text) : Text :=
  trimEnd (t.dropWhile Character.isSpace)

/-
  The maximal runs without white space, with a run under way,
  whose characters are, last first, `run`.
-/
def runsFrom (run : Text) : Text → List Text
  | [] => if run.isEmpty then [] else [run.reverse]
  | c :: rest =>
      if Character.isSpace c then
        if run.isEmpty then runsFrom [] rest
        else run.reverse :: runsFrom [] rest
      else runsFrom (c :: run) rest

/- The maximal runs without white space, in order. -/
def runs (t : Text) : List Text :=
  runsFrom [] t

/- The texts with a separator between them. -/
def join
    (separator : Text)
    (parts : List Text) : Text :=
  separator.intercalate parts

/- The texts with one blank between them. -/
def unwords (parts : List Text) : Text :=
  join [' '] parts

/- Single blanks inside, and no white space at the ends. -/
def normalizeSpace (t : Text) : Text :=
  unwords t.runs

------------------------------------------------------------
-- Lower Case
------------------------------------------------------------

/-
  Whether the first character that is not case-ignorable is
  cased.
-/
def leadsToCased (t : Text) : Bool :=
  match t.dropWhile Character.isCaseIgnorable with
  | [] => false
  | c :: _ => Character.isCased c

/-
  Lower case of the rest of a text whose characters before it,
  last first, are `before`.  A capital sigma that ends a word
  takes its final form.
-/
def lowerAfter (before : Text) : Text → Text
  | [] => []
  | c :: rest =>
      if c = 'Σ' then
        if leadsToCased before && !leadsToCased rest then
          'ς' :: lowerAfter (c :: before) rest
        else 'σ' :: lowerAfter (c :: before) rest
      else Character.lower c ++ lowerAfter (c :: before) rest

/- The text in lower case. -/
def lower (t : Text) : Text :=
  lowerAfter [] t

/- The text with its ASCII letters in lower case. -/
def lowerAscii (t : Text) : Text :=
  t.map Character.lowerAscii

end Text

end Bibliography
