import Bibliography.Error
import Bibliography.Text.Split

/-
  Personal names in five parts.

  A name is written in one of three forms, told apart by the
  number of its commas outside of braces:
    * `First von Last`
    * `von Last, First`
    * `von Last, Jr, First`

  Words in lower case mark the von part.  The last word of a name
  always belongs to the last name.

  Key definitions include:
    * `Person`
    * `Person.parse`
    * `Person.ofParts`
    * `Person.render`
-/

------------------------------------------------------------
-- Persons
------------------------------------------------------------

namespace Bibliography

/- The words of each part of a personal name. -/
structure Person where
  first : List Text
  middle : List Text
  prelast : List Text
  last : List Text
  lineage : List Text
  deriving DecidableEq

namespace Person

/- The name without words. -/
def nameless : Person :=
  ⟨[], [], [], [], []⟩

/- First and middle names. -/
def given (p : Person) : List Text :=
  p.first ++ p.middle

/- The von part and the last name. -/
def family (p : Person) : List Text :=
  p.prelast ++ p.last

/- Whether no part has a word. -/
def isEmpty (p : Person) : Bool :=
  p.first.isEmpty && p.middle.isEmpty && p.prelast.isEmpty &&
    p.last.isEmpty && p.lineage.isEmpty

/- A person from the text of each part. -/
def ofParts
    (first middle prelast last lineage : Text) : Person where
  first := first.words
  middle := middle.words
  prelast := prelast.words
  last := last.words
  lineage := lineage.words

------------------------------------------------------------
-- Reading Names
------------------------------------------------------------

/-
  Divide words before the first lower-case word, but before the
  final word at the latest.
-/
def splitBeforeVon : List Text → List Text × List Text
  | [] => ([], [])
  | [w] => ([], [w])
  | w :: rest =>
      if w.isLowercaseWord then ([], w :: rest)
      else
        let (before, after) := splitBeforeVon rest
        (w :: before, after)

/-
  Divide words after the last lower-case word that is not the
  final word.
-/
def splitAfterVon : List Text → List Text × List Text
  | [] => ([], [])
  | [w] => ([], [w])
  | w :: rest =>
      match splitAfterVon rest with
      | ([], last) =>
          if w.isLowercaseWord then ([w], last)
          else ([], w :: last)
      | (von, last) => (w :: von, last)

/- The person with the given parts, each a list of words. -/
def ofWords
    (givenWords familyWords lineageWords : List Text) : Person :=
  let (von, last) := splitAfterVon familyWords
  { first := givenWords.take 1
    middle := givenWords.drop 1
    prelast := von
    last := last
    lineage := lineageWords }

/- Read a name in any of its three forms. -/
def parse (name : Text) : Except Error Person :=
  let name := name.trim
  if name.isEmpty then .ok nameless
  else
    match (Text.splitOutside [','] name).map Text.trim with
    | [vonLast, lineage, given] =>
        .ok (ofWords given.words vonLast.words lineage.words)
    | [vonLast, given] =>
        .ok (ofWords given.words vonLast.words [])
    | [whole] =>
        let (given, vonLast) := splitBeforeVon whole.words
        .ok (ofWords given vonLast [])
    | _ => .error (.of (.invalidName name))

------------------------------------------------------------
-- Writing Names
------------------------------------------------------------

/-
  The name with the last name first.  The lineage makes the form
  with two commas; without it a comma stands only before given
  names.
-/
def render (p : Person) : Text :=
  let vonLast := Text.unwords p.family
  let given := Text.unwords p.given
  if !p.lineage.isEmpty then
    vonLast ++ ", ".toList ++ Text.unwords p.lineage ++
      ", ".toList ++ given
  else if given.isEmpty then vonLast
  else vonLast ++ ", ".toList ++ given

/- A list of names joined by the word "and". -/
def renderAll (persons : List Person) : Text :=
  Text.join " and ".toList (persons.map render)

end Person

end Bibliography
