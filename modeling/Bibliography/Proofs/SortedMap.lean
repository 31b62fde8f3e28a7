import Bibliography.SortedMap

/-
  Sorted maps are determined by their lookups.

  The items ascend strictly, so the first item of a map is known
  from the keys that it finds, and so are the others.

  Key statements include:
    * `SortedMap.ext_get?`
    * `SortedMap.insert_insert`
    * `SortedMap.mem_items_iff`
-/

------------------------------------------------------------
-- Lookups in Ascending Items
------------------------------------------------------------

namespace Bibliography

namespace SortedMap

variable {α : Type}

/- A key below all keys is not found. -/
theorem lookup_of_forall_lt
    {key : Text}
    {items : List (Text × α)}
    (h : ∀ item ∈ items, key < item.1) :
    items.lookup key = none := by
  induction items with
  | nil => rfl
  | cons first rest ih =>
      rcases List.forall_mem_cons.1 h with ⟨hFirst, hRest⟩
      have hNe : (key == first.1) = false := by
        rw [beq_eq_false_iff_ne]
        intro hEq
        rw [hEq] at hFirst
        exact List.lt_irrefl _ hFirst
      rw [List.lookup_cons, hNe]
      exact ih hRest

/- The first key is found. -/
theorem lookup_cons_self
    (a : Text × α)
    (as : List (Text × α)) :
    (a :: as).lookup a.1 = some a.2 := by
  rw [List.lookup_cons, beq_self_eq_true]

/- A key that items find is not below all of their keys. -/
theorem not_lt_of_lookup
    {a b : Text × α}
    {as bs : List (Text × α)}
    (hb : Ascending (b :: bs))
    (h : (a :: as).lookup a.1 = (b :: bs).lookup a.1) :
    ¬ a.1 < b.1 := by
  intro hLt
  have hAll : ∀ item ∈ b :: bs, a.1 < item.1 := by
    refine List.forall_mem_cons.2 ⟨hLt, ?_⟩
    intro item hMem
    exact List.lt_trans hLt ((List.pairwise_cons.1 hb).1 item hMem)
  rw [lookup_cons_self, lookup_of_forall_lt hAll] at h
  cases h

/- Ascending items with equal lookups are equal. -/
theorem items_eq_of_lookup
    {as bs : List (Text × α)}
    (ha : Ascending as)
    (hb : Ascending bs)
    (h : ∀ key, as.lookup key = bs.lookup key) : as = bs := by
  induction as generalizing bs with
  | nil =>
      cases bs with
      | nil => rfl
      | cons b rest =>
          have hFound := h b.1
          rw [lookup_cons_self] at hFound
          cases hFound
  | cons a as ih =>
      cases bs with
      | nil =>
          have hFound := h a.1
          rw [lookup_cons_self] at hFound
          cases hFound
      | cons b bs =>
          rcases List.pairwise_cons.1 ha with ⟨hFirstA, hRestA⟩
          rcases List.pairwise_cons.1 hb with ⟨hFirstB, hRestB⟩
          have hKey : a.1 = b.1 := by
            by_cases hEq : a.1 = b.1
            · exact hEq
            · have hLt := key_lt_of_not_lt
                (not_lt_of_lookup hb (h a.1)) hEq
              exact absurd hLt
                (not_lt_of_lookup ha (h b.1).symm)
          have hFirst : a = b := by
            have hFound := h a.1
            rw [lookup_cons_self, hKey, lookup_cons_self] at hFound
            exact Prod.ext hKey (Option.some.inj hFound)
          subst hFirst
          have hRest : as = bs := by
            apply ih hRestA hRestB
            intro key
            by_cases hEq : key = a.1
            · subst hEq
              rw [lookup_of_forall_lt hFirstA,
                lookup_of_forall_lt hFirstB]
            · have hFound := h key
              rw [List.lookup_cons, List.lookup_cons,
                beq_eq_false_iff_ne.2 hEq] at hFound
              exact hFound
          rw [hRest]

/- The items are what lookups find. -/
theorem mem_iff_lookup
    {items : List (Text × α)}
    (hAsc : Ascending items)
    {key : Text}
    {value : α} :
    (key, value) ∈ items ↔ items.lookup key = some value := by
  induction items with
  | nil => simp
  | cons a as ih =>
      rcases List.pairwise_cons.1 hAsc with ⟨hFirst, hRest⟩
      rw [List.mem_cons]
      by_cases hEq : key = a.1
      · subst hEq
        rw [lookup_cons_self]
        constructor
        · rintro (hSelf | hMem)
          · exact congrArg (fun item => some item.2) hSelf.symm
          · exact absurd (hFirst _ hMem) (List.lt_irrefl _)
        · intro hFound
          cases hFound
          exact Or.inl rfl
      · rw [List.lookup_cons, beq_eq_false_iff_ne.2 hEq]
        constructor
        · rintro (rfl | hMem)
          · exact absurd rfl hEq
          · exact (ih hRest).1 hMem
        · intro hFound
          exact Or.inr ((ih hRest).2 hFound)

------------------------------------------------------------
-- Maps
------------------------------------------------------------

/- Maps with equal lookups are equal. -/
theorem ext_get?
    {m n : SortedMap α}
    (h : ∀ key, m.get? key = n.get? key) : m = n := by
  cases m with
  | mk as ha =>
      cases n with
      | mk bs hb =>
          have hItems : as = bs := items_eq_of_lookup ha hb h
          subst hItems
          rfl

/- Of two insertions under one key the second counts. -/
theorem insert_insert
    (m : SortedMap α)
    (key : Text)
    (v w : α) :
    (m.insert key v).insert key w = m.insert key w := by
  apply ext_get?
  intro other
  rw [get?_insert, get?_insert, get?_insert]
  split <;> rfl

/- A function on all values changes what is found. -/
theorem get?_mapValues
    {β : Type}
    (f : α → β)
    (m : SortedMap α)
    (key : Text) :
    (m.mapValues f).get? key = (m.get? key).map f := by
  rcases m with ⟨items, hAsc⟩
  simp only [get?, mapValues]
  clear hAsc
  induction items with
  | nil => rfl
  | cons a as ih =>
      rw [List.map_cons, List.lookup_cons, List.lookup_cons]
      cases key == a.1 with
      | true => rfl
      | false => exact ih

/- The items are what lookups find. -/
theorem mem_items_iff
    {m : SortedMap α}
    {key : Text}
    {value : α} :
    (key, value) ∈ m.items ↔ m.get? key = some value :=
  mem_iff_lookup m.ascending

/- Insertions of ascending items, of which the map keeps all. -/
theorem get?_foldl_insert
    {items : List (Text × α)}
    (hAsc : Ascending items)
    (m : SortedMap α)
    (key : Text) :
    (items.foldl (fun m item => m.insert item.1 item.2) m).get? key =
      (items.lookup key).or (m.get? key) := by
  induction items generalizing m with
  | nil => rfl
  | cons a as ih =>
      rcases List.pairwise_cons.1 hAsc with ⟨hFirst, hRest⟩
      rw [List.foldl_cons, ih hRest, get?_insert, List.lookup_cons]
      by_cases hEq : key = a.1
      · subst hEq
        rw [lookup_of_forall_lt hFirst, if_pos rfl,
          beq_self_eq_true]
        rfl
      · rw [if_neg hEq, beq_eq_false_iff_ne.2 hEq]

/- A map is made of its items. -/
theorem ofList_items (m : SortedMap α) : ofList m.items = m := by
  apply ext_get?
  intro key
  rw [ofList, get?_foldl_insert m.ascending, get?_empty,
    Option.or_none]
  rfl

end SortedMap

end Bibliography
