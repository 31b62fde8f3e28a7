/-
  Sets of code points and case mappings, in the forms in which
  the tables of this folder give them.

  A set is the ascending list of the code points at which
  membership switches, first on, then off, and so on.  A case
  mapping is an ascending list of runs that move together, with
  a short list of the code points that become several.

  Key definitions include:
    * `CodePointSet`
    * `CodePointSet.contains`
    * `CaseRun`
    * `CaseMapping`
    * `CaseMapping.apply`
-/

------------------------------------------------------------
-- Sets of Code Points
------------------------------------------------------------

namespace Bibliography

/- The boundaries at which membership switches, ascending. -/
structure CodePointSet where
  boundaries : List Nat

namespace CodePointSet

/-
  Whether an odd number of the boundaries are at most `n`.
-/
def switchedOn : List Nat → Nat → Bool
  | [], _ => false
  | b :: rest, n =>
      if n < b then false else !switchedOn rest n

/- Membership of a character. -/
def contains
    (s : CodePointSet)
    (c : Char) : Bool :=
  switchedOn s.boundaries c.toNat

end CodePointSet

------------------------------------------------------------
-- Case Mappings
------------------------------------------------------------

/-
  The code points `first`, `first + step`, ..., `last` go to
  `image`, `image + step`, and so on.
-/
structure CaseRun where
  first : Nat
  last : Nat
  step : Nat
  image : Nat

namespace CaseRun

/- Whether a code point lies on the run. -/
def covers
    (r : CaseRun)
    (n : Nat) : Bool :=
  r.first ≤ n && n ≤ r.last && (n - r.first) % r.step == 0

end CaseRun

/- A full mapping of single code points. -/
structure CaseMapping where
  runs : List CaseRun
  expansions : List (Nat × List Nat)

namespace CaseMapping

/-
  The image of a code point in ascending runs; a code point on
  no run stays as it is.
-/
def runImage : List CaseRun → Nat → Nat
  | [], n => n
  | r :: rest, n =>
      if n < r.first then n
      else if r.covers n then r.image + (n - r.first)
      else runImage rest n

/- The image of a code point, which may be several. -/
def image
    (m : CaseMapping)
    (n : Nat) : List Nat :=
  match m.expansions.lookup n with
  | some several => several
  | none => [runImage m.runs n]

/- The image of a character. -/
def apply
    (m : CaseMapping)
    (c : Char) : List Char :=
  (m.image c.toNat).map Char.ofNat

end CaseMapping

end Bibliography
