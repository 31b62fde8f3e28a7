import Bibliography.Table.Basic

/-
  The keys of a table.

  A table has a key if one of its items has it, whatever the case
  of either, so a key that is inserted differs from all before.

  Key definitions include:
    * `Entry.reference?`

  Key statements include:
    * `Entry.crossref?_eq`
    * `Table.contains_eq_any`
    * `Table.tryInsert_cases`
    * `Table.lower_of_canonicalKey?`
-/

------------------------------------------------------------
-- Keys
------------------------------------------------------------

namespace Bibliography

/- The key that the field for references names. -/
def Entry.reference? (e : Entry) : Option Text :=
  e.field? "crossref".toList

theorem Entry.crossref?_eq (e : Entry) :
    e.crossref? = e.reference? := by
  have hLower : Text.lower "crossref".toList = crossrefField := by
    decide
  rw [crossref?, reference?, field?, hLower]

namespace Table

theorem sameKey_comm (a b : Text) : sameKey a b = sameKey b a :=
  Bool.beq_comm

theorem sameKey_iff
    {a b : Text} : sameKey a b = true ↔ a.lower = b.lower := by
  rw [sameKey, beq_iff_eq]

theorem sameKey_self (key : Text) : sameKey key key = true :=
  sameKey_iff.2 rfl

/- Keys that differ in case only find the same item. -/
theorem find?_congr
    {t : Table}
    {a b : Text}
    (h : sameKey a b = true) : t.find? a = t.find? b := by
  unfold find? sameKey
  rw [sameKey_iff.1 h]

/- What is found under a key has that key, whatever the case. -/
theorem sameKey_of_find?
    {t : Table}
    {key : Text}
    {item : Text × Entry}
    (h : t.find? key = some item) :
    sameKey item.1 key = true := by
  rw [find?, List.findRev?_eq_find?_reverse] at h
  have hSame := List.find?_some h
  exact hSame

theorem mem_of_find?
    {t : Table}
    {key : Text}
    {item : Text × Entry}
    (h : t.find? key = some item) : item ∈ t.entries := by
  rw [find?, List.findRev?_eq_find?_reverse] at h
  exact List.mem_reverse.1 (List.mem_of_find?_eq_some h)

/- The spelling of the table differs in case at most. -/
theorem lower_of_canonicalKey?
    {t : Table}
    {key canonical : Text}
    (h : t.canonicalKey? key = some canonical) :
    canonical.lower = key.lower := by
  rcases Option.map_eq_some_iff.1 h with ⟨item, hFind, rfl⟩
  exact sameKey_iff.1 (sameKey_of_find? hFind)

/- A key is in a table if an item has it, whatever the case. -/
theorem contains_eq_any
    (t : Table)
    (key : Text) :
    t.contains key =
      t.entries.any (fun item => sameKey item.1 key) := by
  rw [contains, find?, List.findRev?_eq_find?_reverse,
    Bool.eq_iff_iff, List.find?_isSome, List.any_eq_true]
  simp

/- An insertion fails and changes nothing, or the key is new. -/
theorem tryInsert_cases
    (t : Table)
    (key : Text)
    (e : Entry) :
    t.tryInsert key e = (.error (.of (.duplicateKey key)), t) ∨
      (∀ item ∈ t.entries, sameKey item.1 key = false) ∧
        t.tryInsert key e =
          (.ok (), { t with entries := t.entries ++ [(key, e)] }) := by
  rw [tryInsert]
  split
  · exact .inl rfl
  · rename_i hNew
    rw [contains_eq_any, List.any_eq_true] at hNew
    refine .inr ⟨?_, rfl⟩
    intro item hMem
    apply Bool.eq_false_iff.2
    intro hSame
    exact hNew ⟨item, hMem, hSame⟩

/- Where keys differ, every item is found under its own key. -/
theorem find?_of_mem
    {t : Table}
    {item : Text × Entry}
    (hDistinct : t.entries.Pairwise
      (fun a b => sameKey a.1 b.1 = false))
    (hMem : item ∈ t.entries) : t.find? item.1 = some item := by
  have hContains : t.contains item.1 = true := by
    rw [contains_eq_any, List.any_eq_true]
    exact ⟨item, hMem, sameKey_self item.1⟩
  rcases Option.isSome_iff_exists.1 hContains with ⟨found, hFound⟩
  have hSame := sameKey_of_find? hFound
  rcases List.append_of_mem hMem with ⟨before, after, hEntries⟩
  rw [hEntries] at hDistinct
  rcases List.pairwise_append.1 hDistinct with ⟨_, hAfter, hBefore⟩
  have hIn := mem_of_find? hFound
  rw [hEntries, List.mem_append, List.mem_cons] at hIn
  rcases hIn with hIn | rfl | hIn
  · have hDiffer := hBefore found hIn item List.mem_cons_self
    rw [hSame] at hDiffer
    cases hDiffer
  · exact hFound
  · have hDiffer := (List.pairwise_cons.1 hAfter).1 found hIn
    rw [sameKey_comm, hSame] at hDiffer
    cases hDiffer

end Table

end Bibliography
