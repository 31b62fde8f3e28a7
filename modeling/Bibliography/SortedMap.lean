import Bibliography.Text.Basic

/-
  Maps from text to values, kept in ascending order of the keys.

  The order is that of the code points.  It is part of the type,
  so a map is determined by what it holds, and its items can be
  shown in order without sorting.

  Key definitions include:
    * `SortedMap`
    * `SortedMap.get?`
    * `SortedMap.insert`
    * `SortedMap.ofList`

  Key statements include:
    * `SortedMap.get?_insert`
-/

------------------------------------------------------------
-- Ascending Items
------------------------------------------------------------

namespace Bibliography

namespace SortedMap

variable {α : Type}

/- The keys of the items are strictly ascending. -/
def Ascending (items : List (Text × α)) : Prop :=
  items.Pairwise (fun a b => a.1 < b.1)

/- Put an item in its place, in front of none with its key. -/
def insertItem
    (key : Text)
    (value : α) : List (Text × α) → List (Text × α)
  | [] => [(key, value)]
  | item :: rest =>
      if key < item.1 then (key, value) :: item :: rest
      else if key = item.1 then (key, value) :: rest
      else item :: insertItem key value rest

/- An item of the result is the new one or an old one. -/
theorem mem_of_mem_insertItem
    {key : Text}
    {value : α}
    {items : List (Text × α)}
    {item : Text × α}
    (h : item ∈ insertItem key value items) :
    item = (key, value) ∨ item ∈ items := by
  induction items with
  | nil => simpa [insertItem] using h
  | cons first rest ih =>
      rw [insertItem] at h
      split at h
      · simpa using h
      · split at h
        · rcases List.mem_cons.1 h with rfl | hRest
          · exact Or.inl rfl
          · exact Or.inr (List.mem_cons_of_mem _ hRest)
        · rcases List.mem_cons.1 h with rfl | hRest
          · exact Or.inr List.mem_cons_self
          · rcases ih hRest with hNew | hOld
            · exact Or.inl hNew
            · exact Or.inr (List.mem_cons_of_mem _ hOld)

/- Of two different keys that are not in order, the second is less. -/
theorem key_lt_of_not_lt
    {a b : Text}
    (hNot : ¬ a < b)
    (hNe : a ≠ b) : b < a := by
  rcases List.le_iff_lt_or_eq.1 (List.not_lt.1 hNot)
    with hLt | hEq
  · exact hLt
  · exact absurd hEq.symm hNe

/- Insertion keeps the items ascending. -/
theorem ascending_insertItem
    {key : Text}
    {value : α}
    {items : List (Text × α)}
    (h : Ascending items) :
    Ascending (insertItem key value items) := by
  induction items with
  | nil => simp [insertItem, Ascending]
  | cons first rest ih =>
      obtain ⟨hFirst, hRest⟩ := List.pairwise_cons.1 h
      rw [insertItem]
      split
      · rename_i hLt
        refine List.pairwise_cons.2 ⟨?_, h⟩
        intro item hMem
        rcases List.mem_cons.1 hMem with rfl | hMem
        · exact hLt
        · exact List.lt_trans hLt (hFirst item hMem)
      · split
        · rename_i hEq
          refine List.pairwise_cons.2 ⟨?_, hRest⟩
          intro item hMem
          exact hEq ▸ hFirst item hMem
        · rename_i hLt hNe
          refine List.pairwise_cons.2 ⟨?_, ih hRest⟩
          intro item hMem
          rcases mem_of_mem_insertItem hMem with rfl | hMem
          · exact key_lt_of_not_lt hLt hNe
          · exact hFirst item hMem

end SortedMap

------------------------------------------------------------
-- Maps
------------------------------------------------------------

/- A map whose items stand in ascending order of their keys. -/
structure SortedMap (α : Type) where
  items : List (Text × α)
  ascending : SortedMap.Ascending items

namespace SortedMap

variable {α : Type}

instance [DecidableEq α] : DecidableEq (SortedMap α) :=
  fun m n =>
    decidable_of_iff (m.items = n.items) (by
      cases m
      cases n
      simp)

/- The map without items. -/
def empty : SortedMap α :=
  ⟨[], List.Pairwise.nil⟩

instance : Inhabited (SortedMap α) :=
  ⟨empty⟩

/- The value stored under a key. -/
def get?
    (m : SortedMap α)
    (key : Text) : Option α :=
  m.items.lookup key

/- Whether a key has a value. -/
def contains
    (m : SortedMap α)
    (key : Text) : Bool :=
  (m.get? key).isSome

/- Store a value under a key, in place of an earlier one. -/
def insert
    (m : SortedMap α)
    (key : Text)
    (value : α) : SortedMap α :=
  ⟨insertItem key value m.items,
    ascending_insertItem m.ascending⟩

/- Insert items one after the other. -/
def ofList (items : List (Text × α)) : SortedMap α :=
  items.foldl (fun m item => m.insert item.1 item.2) empty

/- The keys in ascending order. -/
def keys (m : SortedMap α) : List Text :=
  m.items.map (fun item => item.1)

/- The number of items. -/
def size (m : SortedMap α) : Nat :=
  m.items.length

/- Whether there are no items. -/
def isEmpty (m : SortedMap α) : Bool :=
  m.items.isEmpty

/- The map with every value changed by a function. -/
def mapValues
    {β : Type}
    (f : α → β)
    (m : SortedMap α) : SortedMap β :=
  ⟨m.items.map (fun item => (item.1, f item.2)), by
    have h := m.ascending
    simp only [Ascending, List.pairwise_map] at h ⊢
    exact h⟩

@[simp]
theorem get?_empty (key : Text) :
    (empty : SortedMap α).get? key = none := rfl

/- Insertion changes the value of its key and of no other. -/
theorem get?_insert
    (m : SortedMap α)
    (key : Text)
    (value : α)
    (other : Text) :
    (m.insert key value).get? other =
      if other = key then some value else m.get? other := by
  obtain ⟨items, hAsc⟩ := m
  simp only [get?, insert]
  clear hAsc
  by_cases hEq : other = key
  · subst hEq
    induction items with
    | nil => simp [insertItem]
    | cons first rest ih =>
        obtain ⟨firstKey, firstValue⟩ := first
        rw [insertItem]
        split
        · simp
        · split
          · simp
          · rename_i hNe
            have hBeq : (other == firstKey) = false := by
              simpa using hNe
            simpa [List.lookup_cons, hBeq] using ih
  · have hKey : (other == key) = false := by simpa using hEq
    induction items with
    | nil => simp [insertItem, List.lookup_cons, hKey, hEq]
    | cons first rest ih =>
        obtain ⟨firstKey, firstValue⟩ := first
        rw [insertItem]
        split
        · simp [List.lookup_cons, hKey]
        · split
          · rename_i hSame
            subst hSame
            simp [List.lookup_cons, hKey]
          · simp only [hEq, if_false] at ih ⊢
            simp [List.lookup_cons, ih]

end SortedMap

end Bibliography
