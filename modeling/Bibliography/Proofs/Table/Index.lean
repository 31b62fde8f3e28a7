import Bibliography.Proofs.Table.Labels

/-
  An index of the keys of a table.

  The index maps every key in lower case to the place of the last
  item under it.  It can be kept while a table changes, or made
  anew from the keys; both give the same map, and what it leads to
  is what the table finds.

  Key definitions include:
    * `Table.positions`
    * `Attempt.map`
    * `IndexedTable`
    * `IndexedTable.tryInsert`
    * `IndexedTable.tryAssignLabels`

  Key statements include:
    * `Table.getElem?_positions`
    * `IndexedTable.Faithful.map_tryInsert`
    * `IndexedTable.Faithful.tryInsert`
    * `IndexedTable.Faithful.tryAssignLabels`
-/

------------------------------------------------------------
-- Positions of Keys
------------------------------------------------------------

namespace Bibliography

/- The place of the last of every key, whatever its case. -/
def lastPlaces (keys : List Text) : SortedMap Nat :=
  .ofList (keys.mapIdx (fun i key => (key.lower, i)))

theorem lastPlaces_concat
    (keys : List Text)
    (key : Text) :
    lastPlaces (keys ++ [key]) =
      (lastPlaces keys).insert key.lower keys.length := by
  rw [lastPlaces, List.mapIdx_concat, SortedMap.ofList,
    List.foldl_append]
  rfl

theorem lt_of_lastPlaces
    {keys : List Text}
    {lower : Text}
    {i : Nat}
    (h : (lastPlaces keys.reverse).get? lower = some i) :
    i < keys.length := by
  induction keys with
  | nil => cases h
  | cons key rest ih =>
      rw [List.reverse_cons, lastPlaces_concat,
        SortedMap.get?_insert] at h
      split at h
      · cases h
        rw [List.length_reverse]
        exact Nat.lt_succ_self _
      · exact Nat.lt_succ_of_lt (ih h)

namespace Table

/- The place of the last item under every key. -/
def positions (t : Table) : SortedMap Nat :=
  lastPlaces t.keys

/- The places lead to the items that a table finds. -/
theorem getElem?_positions_reverse
    (items : List (Text × Entry))
    (key : Text) :
    ((lastPlaces (items.map (fun item => item.1)).reverse).get?
        key.lower).bind (fun i => items.reverse[i]?) =
      items.find? (fun item => sameKey item.1 key) := by
  induction items with
  | nil => rfl
  | cons item rest ih =>
      rw [List.map_cons, List.reverse_cons, lastPlaces_concat,
        SortedMap.get?_insert, List.reverse_cons, List.find?_cons]
      by_cases hKey : key.lower = item.1.lower
      · rw [if_pos hKey, sameKey_iff.2 hKey.symm, Option.bind_some,
          List.length_reverse, List.length_map,
          ← List.length_reverse, List.getElem?_concat_length]
      · have hOther : sameKey item.1 key = false :=
          Bool.eq_false_iff.2
            (fun hSame => hKey (sameKey_iff.1 hSame).symm)
        rw [if_neg hKey, hOther, ← ih]
        apply Option.bind_congr
        intro i hPlace
        have hLess := lt_of_lastPlaces hPlace
        rw [List.length_map, ← List.length_reverse] at hLess
        exact List.getElem?_append_left hLess

theorem getElem?_positions
    (t : Table)
    (key : Text) :
    (t.positions.get? key.lower).bind (fun i => t.entries[i]?) =
      t.find? key := by
  have hPlaces := getElem?_positions_reverse t.entries.reverse key
  rw [← List.map_reverse, List.reverse_reverse] at hPlaces
  rw [find?, List.findRev?_eq_find?_reverse]
  exact hPlaces

end Table

------------------------------------------------------------
-- Indexed Tables
------------------------------------------------------------

/- The same change seen with what else there is. -/
def Attempt.map
    {σ τ : Type}
    (f : σ → τ)
    (x : Attempt σ) : Attempt τ :=
  (x.1, f x.2)

/- A table with the places of its keys. -/
structure IndexedTable where
  table : Table
  positions : SortedMap Nat

namespace IndexedTable

/- The table without entries. -/
def empty : IndexedTable :=
  ⟨.empty, .empty⟩

/- A table whose index is made from its keys. -/
def ofTable (t : Table) : IndexedTable :=
  ⟨t, t.positions⟩

/- The item to which the index leads. -/
def item?
    (s : IndexedTable)
    (key : Text) : Option (Text × Entry) :=
  (s.positions.get? key.lower).bind (fun i => s.table.entries[i]?)

/- Try to add an entry under a key that the index does not have. -/
def tryInsert
    (s : IndexedTable)
    (key : Text)
    (e : Entry) : Attempt IndexedTable :=
  if s.positions.contains key.lower then
    (.error (.of (.duplicateKey key)), s)
  else
    (.ok (),
      ⟨{ s.table with entries := s.table.entries ++ [(key, e)] },
        s.positions.insert key.lower s.table.size⟩)

/- Add to the preamble; the index stays. -/
def addPreamble
    (s : IndexedTable)
    (fragment : Text) : IndexedTable :=
  { s with table := s.table.addPreamble fragment }

/- Try to label what the table finds; the index stays. -/
def tryAssignLabels
    (s : IndexedTable)
    (keys : List Text)
    (style : LabelStyle) : Attempt IndexedTable :=
  (s.table.tryAssignLabels keys style).map
    (fun t => { s with table := t })

/- An index that is the one made from the keys. -/
def Faithful (s : IndexedTable) : Prop :=
  s.positions = s.table.positions

/- A faithful index leads to what the table finds. -/
theorem Faithful.item?_eq
    {s : IndexedTable}
    (h : s.Faithful)
    (key : Text) : s.item? key = s.table.find? key := by
  rw [item?, h]
  exact s.table.getElem?_positions key

/-
  An insertion fails and changes nothing, or it goes to the end of
  the table and its place to the index.
-/
theorem tryInsert_cases
    (s : IndexedTable)
    (key : Text)
    (e : Entry) :
    s.tryInsert key e = (.error (.of (.duplicateKey key)), s) ∨
      s.tryInsert key e =
        (.ok (),
          ⟨{ s.table with entries := s.table.entries ++ [(key, e)] },
            s.positions.insert key.lower s.table.size⟩) := by
  rw [tryInsert]
  split
  · exact .inl rfl
  · exact .inr rfl

theorem faithful_ofTable (t : Table) : (ofTable t).Faithful :=
  rfl

theorem Faithful.tryInsert
    {s : IndexedTable}
    (h : s.Faithful)
    (key : Text)
    (e : Entry) : (s.tryInsert key e).2.Faithful := by
  rcases s.tryInsert_cases key e with hTry | hTry
  · rwa [hTry]
  · rw [hTry, Faithful, h, Table.positions, Table.positions,
      Table.keys, Table.keys, List.map_append, List.map_singleton,
      lastPlaces_concat, List.length_map]
    rfl

theorem Faithful.tryAssignLabels
    {s : IndexedTable}
    (h : s.Faithful)
    (keys : List Text)
    (style : LabelStyle) :
    (s.tryAssignLabels keys style).2.Faithful := by
  show s.positions = (s.table.tryAssignLabels keys style).2.positions
  rw [Table.positions, Table.keys_tryAssignLabels]
  exact h

end IndexedTable

end Bibliography
