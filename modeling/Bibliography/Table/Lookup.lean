import Bibliography.Table.Basic

/-
  Looking up fields through cross-references.

  A field is the entry's own, or else its persons of that role,
  or else the same of the entry that it refers to.  A chain of
  references ends where it would come back to itself.  A dangling
  reference is an error only when a lookup falls through to it.

  Key definitions include:
    * `Entry.ownValue?`
    * `Table.lookupField`
-/

------------------------------------------------------------
-- Lookup
------------------------------------------------------------

namespace Bibliography

namespace Entry

/- A plain field, or the persons of that role as one text. -/
def ownValue?
    (e : Entry)
    (field : Text) : Option Text :=
  match e.field? field with
  | some value => some value
  | none => e.renderPersons? field

end Entry

namespace Table

/-
  The number of entries whose key is not among the lower-case
  keys visited so far.
-/
def unvisited
    (t : Table)
    (visited : List Text) : Nat :=
  t.entries.countP (fun item => !visited.contains item.1.lower)

/- A stricter test that fails on a member counts fewer members. -/
theorem countP_lt_countP
    {α : Type}
    {p q : α → Bool}
    (hImp : ∀ a, p a = true → q a = true)
    {l : List α}
    {a : α}
    (hMem : a ∈ l)
    (hq : q a = true)
    (hp : p a = false) :
    l.countP p < l.countP q := by
  induction l with
  | nil => simp at hMem
  | cons b rest ih =>
      have hLe : rest.countP p ≤ rest.countP q :=
        List.countP_mono_left (fun c _ => hImp c)
      rcases List.mem_cons.1 hMem with rfl | hRest
      · rw [List.countP_cons_of_pos hq,
          List.countP_cons_of_neg (by simp [hp])]
        omega
      · have hLt := ih hRest
        rw [List.countP_cons, List.countP_cons]
        cases hb : p b with
        | true => simp [hImp b hb]; omega
        | false => simp; omega

/- Visiting one more entry leaves fewer unvisited. -/
theorem unvisited_lt
    {t : Table}
    {visited : List Text}
    {key : Text}
    (hFound : t.contains key = true)
    (hNew : key.lower ∉ visited) :
    t.unvisited (key.lower :: visited) < t.unvisited visited := by
  obtain ⟨item, hItem⟩ := Option.isSome_iff_exists.1 hFound
  rw [find?, List.findRev?_eq_find?_reverse] at hItem
  have hMem : item ∈ t.entries :=
    List.mem_reverse.1 (List.mem_of_find?_eq_some hItem)
  have hKey : item.1.lower = key.lower := by
    simpa [sameKey] using List.find?_some hItem
  refine countP_lt_countP ?_ hMem ?_ ?_
  · intro other hOther
    simp only [List.contains_cons, Bool.not_or,
      Bool.and_eq_true] at hOther
    exact hOther.2
  · simpa [hKey] using hNew
  · simp [hKey]

/-
  Look a field up in the entry under a key and in those that it
  refers to; `visited` holds the entries before it.
-/
def lookupFrom
    (t : Table)
    (field : Text)
    (visited : List Text)
    (key : Text) : Except Error (Option Text) :=
  match t.get? key with
  | none => .ok none
  | some e =>
      match e.ownValue? field with
      | some value => .ok (some value)
      | none =>
          match e.crossref? with
          | none => .ok none
          | some target =>
              if _hFound : t.contains target = true then
                if _hSeen :
                    target.lower ∈ key.lower :: visited then
                  .ok none
                else
                  lookupFrom t field (key.lower :: visited) target
              else .error (.of (.missingCrossref key target))
termination_by t.unvisited (key.lower :: visited)
decreasing_by exact unvisited_lt _hFound _hSeen

/- The value of a field for a key, if it has one. -/
def lookupField
    (t : Table)
    (key field : Text) : Except Error (Option Text) :=
  lookupFrom t field [] key

end Table

end Bibliography
