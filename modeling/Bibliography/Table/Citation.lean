import Bibliography.Table.Basic

/-
  Resolving a list of citations.

  A wildcard stands for all keys of the table.  Repeated citations
  are dropped.  An entry that enough citations refer to is added
  at the end although nobody cites it.

  Key definitions include:
    * `Table.expandCitations`
    * `Table.crossreferenced`
    * `Table.resolveCitations`
-/

------------------------------------------------------------
-- Wildcards
------------------------------------------------------------

namespace Bibliography

namespace Table

/- The citation that stands for every key. -/
def wildcard : Text :=
  ['*']

/-
  The keys whose lower-case form has not been seen before, each
  in its first spelling.
-/
def dropRepeats : List Text → List Text → List Text
  | _, [] => []
  | seen, key :: rest =>
      if key.lower ∈ seen then dropRepeats seen rest
      else key :: dropRepeats (key.lower :: seen) rest

/- The citations with wildcards replaced, without repeats. -/
def expandCitations
    (t : Table)
    (citations : List Text) : List Text :=
  dropRepeats []
    (citations.flatMap
      (fun c => if c = wildcard then t.keys else [c]))

------------------------------------------------------------
-- Cross-references
------------------------------------------------------------

/- The key that the entry of a citation refers to. -/
def crossrefOf?
    (t : Table)
    (citation : Text) : Option Text :=
  (t.get? citation).bind Entry.crossref?

/-
  The references of the citations, in order, to keys that are
  not cited.
-/
def outsideRefs
    (t : Table)
    (citations : List Text) : List Text :=
  let cited := citations.map Text.lower
  (citations.filterMap t.crossrefOf?).filter
    (fun target => !cited.contains target.lower)

/-
  The references with which the count of their key reaches a
  number; `before` holds the lower-case keys counted so far.
-/
def reaching
    (count : Nat) : List Text → List Text → List Text
  | _, [] => []
  | before, target :: rest =>
      let later := reaching count (target.lower :: before) rest
      if before.count target.lower + 1 = count then
        target :: later
      else later

/-
  The keys that at least `minimum` citations refer to and that
  are not cited, in the spelling of the table if it has them.  A
  minimum of zero counts as one.
-/
def crossreferenced
    (t : Table)
    (citations : List Text)
    (minimum : Nat) : List Text :=
  (reaching (max minimum 1) [] (t.outsideRefs citations)).map
    (fun target => (t.canonicalKey? target).getD target)

/- The citations in full, followed by what they refer to. -/
def resolveCitations
    (t : Table)
    (citations : List Text)
    (minimum : Nat) : List Text :=
  let expanded := t.expandCitations citations
  expanded ++ t.crossreferenced expanded minimum

end Table

end Bibliography
