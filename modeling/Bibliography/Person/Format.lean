import Bibliography.Person.Basic

/-
  Names laid out by a pattern.

  A pattern is literal text with brace groups.  A group stands
  for one part of the name, given by a letter: `f` for first and
  middle names, `v` for the von part, `l` for the last name, `j`
  for the lineage.  A doubled letter writes words in full, a
  single one their first letters.  What surrounds the letters in
  the group is written only if the part has words; a group right
  after the letters is the separator between words.

  Key definitions include:
    * `Text.closeGroup`
    * `NamePart`
    * `Person.formatGroup`
    * `Person.format`
-/

------------------------------------------------------------
-- Brace Groups
------------------------------------------------------------

namespace Bibliography

namespace Text

/-
  Divide a text at the brace that closes the group around it and
  `depth` groups inside.  A group that is not closed runs to the
  end.
-/
def closeGroup : Nat → Text → Text × Text
  | _, [] => ([], [])
  | depth, c :: rest =>
      if c = '}' ∧ depth = 0 then ([], rest)
      else
        let (inner, after) := closeGroup (nest depth c) rest
        (c :: inner, after)

/- What follows a group is no longer than the text. -/
theorem closeGroup_length_le
    (depth : Nat)
    (t : Text) :
    (closeGroup depth t).2.length ≤ t.length := by
  induction t generalizing depth with
  | nil => simp [closeGroup]
  | cons c rest ih =>
      rw [closeGroup]
      split
      · simp
      · have h := ih (nest depth c)
        simp only [List.length_cons]
        omega

/-
  The first letter of a word, or the whole brace group that opens
  it.
-/
def abbreviate : Text → Text
  | [] => []
  | c :: rest =>
      if c = '{' then
        let after := (closeGroup 0 rest).2
        (c :: rest).take (rest.length + 1 - after.length)
      else [c]

end Text

------------------------------------------------------------
-- Groups of a Pattern
------------------------------------------------------------

/- The parts that a pattern can name. -/
inductive NamePart where
  | given
  | von
  | last
  | lineage
  deriving DecidableEq

namespace NamePart

/- The part that a letter names. -/
def ofLetter? (c : Char) : Option NamePart :=
  if c = 'f' then some .given
  else if c = 'v' then some .von
  else if c = 'l' then some .last
  else if c = 'j' then some .lineage
  else none

end NamePart

namespace Person

/- The words of a part. -/
def wordsOf
    (p : Person) : NamePart → List Text
  | .given => p.given
  | .von => p.prelast
  | .last => p.last
  | .lineage => p.lineage

/-
  Divide a group at its first part letter outside of braces: the
  text before it, the letter, its part, and the text after it.
-/
def cutLetter? :
    Nat → Text → Option (Text × Char × NamePart × Text)
  | _, [] => none
  | depth, c :: rest =>
      match depth, NamePart.ofLetter? c with
      | 0, some part => some ([], c, part, rest)
      | _, _ =>
          match cutLetter? (Text.nest depth c) rest with
          | none => none
          | some (before, letter, part, after) =>
              some (c :: before, letter, part, after)

/- A word in full or abbreviated. -/
def showWord
    (full : Bool)
    (word : Text) : Text :=
  if full then word else word.abbreviate

/-
  The text between two words when the group gives none: words
  are tied before the final word and after a short word.
-/
def defaultGap
    (full : Bool)
    (shown : Text)
    (beforeFinal : Bool) : Text :=
  let gap := if beforeFinal || shown.length < 3 then '~' else ' '
  if full then [gap] else ['.', gap]

/- The words of a part with their separators. -/
def joinWords
    (full : Bool)
    (separator : Option Text) : List Text → Text
  | [] => []
  | [word] => showWord full word
  | word :: next :: more =>
      let shown := showWord full word
      let gap :=
        match separator with
        | some s => s
        | none => defaultGap full shown more.isEmpty
      shown ++ gap ++ joinWords full separator (next :: more)

/-
  The separator that a group gives right after its letters, and
  the rest of the group.
-/
def takeSeparator : Text → Option Text × Text
  | [] => (none, [])
  | c :: rest =>
      if c = '{' then
        let (inner, after) := Text.closeGroup 0 rest
        (some inner, after)
      else (none, c :: rest)

/- The text of one group; a group without a letter is literal. -/
def formatGroup
    (p : Person)
    (group : Text) : Text :=
  match cutLetter? 0 group with
  | none => group
  | some (before, letter, part, rest) =>
      let full := rest.head? == some letter
      let (separator, after) :=
        takeSeparator (if full then rest.tail else rest)
      let words := p.wordsOf part
      if words.isEmpty then []
      else before ++ joinWords full separator words ++ after

/- The name laid out by a pattern. -/
def format (p : Person) : Text → Text
  | [] => []
  | c :: rest =>
      if c = '{' then
        p.formatGroup (Text.closeGroup 0 rest).1 ++
          p.format (Text.closeGroup 0 rest).2
      else c :: p.format rest
termination_by pattern => pattern.length
decreasing_by
  · have h := Text.closeGroup_length_le 0 rest
    simp only [List.length_cons]
    omega
  · simp

end Person

end Bibliography
