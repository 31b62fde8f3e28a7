import Bibliography.Table.Basic

/-
  Numbers and labels for the resolved citations.

  Known keys are numbered from one in the order in which they are
  given.  If one of them has a number already or comes twice, no
  label is assigned at all.

  Key definitions include:
    * `LabelStyle`
    * `Table.tryAssignLabels`
    * `Table.assignLabels`
    * `Table.labelWidth`
-/

------------------------------------------------------------
-- Label Styles
------------------------------------------------------------

namespace Bibliography

/- A label is the number in decimal or the key. -/
inductive LabelStyle where
  | number
  | key
  deriving DecidableEq

namespace LabelStyle

/- The style of a name, ASCII letters in either case. -/
def ofName? (name : Text) : Option LabelStyle :=
  if name.lowerAscii = "number".toList then some .number
  else if name.lowerAscii = "key".toList then some .key
  else none

/- The label of an entry with a number and a key. -/
def label
    (style : LabelStyle)
    (number : Nat)
    (key : Text) : Text :=
  match style with
  | .number => (toString number).toList
  | .key => key

end LabelStyle

------------------------------------------------------------
-- Assignment
------------------------------------------------------------

namespace Table

/-
  The known ones of some keys, each in the spelling of the table,
  or the first of them that cannot be labelled.
-/
def labelTargets
    (t : Table) :
    List Text → List Text → Except Error (List Text)
  | _, [] => .ok []
  | seen, key :: rest =>
      match t.find? key with
      | none => labelTargets t seen rest
      | some (canonical, e) =>
          if e.isLabelled = true ∨ key.lower ∈ seen then
            .error (.of (.alreadyLabelled canonical))
          else
            (labelTargets t (key.lower :: seen) rest).map
              (canonical :: ·)

/- Label keys with the numbers from `number` on. -/
def labelFrom
    (style : LabelStyle) :
    Nat → List Text → Table → Table
  | _, [], t => t
  | number, key :: rest, t =>
      labelFrom style (number + 1) rest
        (t.update key
          (·.withLabel number (style.label number key)))

/-
  Try to label the known ones of some keys, in their order.  All
  keys are checked before the first of them is labelled.
-/
def tryAssignLabels
    (t : Table)
    (keys : List Text)
    (style : LabelStyle) : Attempt Table :=
  match t.labelTargets [] keys with
  | .error e => (.error e, t)
  | .ok known => (.ok (), labelFrom style 1 known t)

/- The table with the labels. -/
def assignLabels
    (t : Table)
    (keys : List Text)
    (style : LabelStyle) : Except Error Table :=
  (t.tryAssignLabels keys style).result

theorem assignLabels_eq_map
    (t : Table)
    (keys : List Text)
    (style : LabelStyle) :
    t.assignLabels keys style =
      (t.labelTargets [] keys).map (labelFrom style 1 · t) := by
  rw [assignLabels, tryAssignLabels]
  cases t.labelTargets [] keys <;> rfl

/- The greatest of some numbers, zero if there are none. -/
def maximum (ns : List Nat) : Nat :=
  ns.foldr max 0

/- The length of the longest label. -/
def labelWidth (t : Table) : Nat :=
  maximum
    (t.entries.filterMap
      (fun item => item.2.label.map List.length))

end Table

end Bibliography
