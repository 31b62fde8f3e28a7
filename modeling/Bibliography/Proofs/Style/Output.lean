import Bibliography.Style.Output

/-
  What the entries of a style's output are.

  A run that succeeds formats the keys that the table has, in
  their order.  The key and the label of a formatted entry are
  those of the table; an entry without a label takes its place.

  Key definitions include:
    * `FormattedEntry.heading`

  Key statements include:
    * `Outcome.andThen_eq_ok`
    * `Outcome.andThen_eq_error`
    * `Table.maximum_congr`
    * `Setting.headings_formatEntries`
    * `Program.headings_runStyle`
-/

------------------------------------------------------------
-- Two Parts in a Row
------------------------------------------------------------

namespace Bibliography

namespace Outcome

variable {α β : Type}

/- Of two parts in a row both have succeeded. -/
theorem andThen_eq_ok
    {o : Outcome α}
    {next : α → Machine → Outcome β}
    {b : β}
    {m : Machine} :
    o.andThen next = .finished (.ok b) m ↔
      ∃ a m', o = .finished (.ok a) m' ∧
        next a m' = .finished (.ok b) m := by
  constructor
  · intro h
    cases o with
    | unfinished => cases h
    | finished result m' =>
        cases result with
        | error e => cases h
        | ok a => exact ⟨a, m', rfl, h⟩
  · rintro ⟨a, m', rfl, h⟩
    exact h

/- Of two parts in a row the first or the second has failed. -/
theorem andThen_eq_error
    {o : Outcome α}
    {next : α → Machine → Outcome β}
    {e : Error}
    {m : Machine} :
    o.andThen next = .finished (.error e) m ↔
      o = .finished (.error e) m ∨
        ∃ a m', o = .finished (.ok a) m' ∧
          next a m' = .finished (.error e) m := by
  constructor
  · intro h
    cases o with
    | unfinished => cases h
    | finished result m' =>
        cases result with
        | error e' =>
            cases h
            exact Or.inl rfl
        | ok a => exact Or.inr ⟨a, m', rfl, h⟩
  · rintro (rfl | ⟨a, m', rfl, h⟩)
    · rfl
    · exact h

/- A framed outcome is a success if the outcome is one. -/
theorem mapError_eq_ok
    {o : Outcome α}
    {f : Error → Error}
    {a : α}
    {m : Machine} :
    o.mapError f = .finished (.ok a) m ↔ o = .finished (.ok a) m := by
  cases o with
  | unfinished => rfl
  | finished result m' =>
      cases result with
      | ok b => rfl
      | error e =>
          constructor
          · rintro ⟨⟩
          · rintro ⟨⟩

/- The error of a framed outcome is a framed one. -/
theorem mapError_eq_error
    {o : Outcome α}
    {f : Error → Error}
    {e : Error}
    {m : Machine} :
    o.mapError f = .finished (.error e) m ↔
      ∃ e', o = .finished (.error e') m ∧ e = f e' := by
  constructor
  · intro h
    cases o with
    | unfinished => cases h
    | finished result m' =>
        cases result with
        | ok a => cases h
        | error e' =>
            cases h
            exact ⟨e', rfl, rfl⟩
  · rintro ⟨e', rfl, rfl⟩
    rfl

end Outcome

------------------------------------------------------------
-- Greatest Numbers
------------------------------------------------------------

namespace Table

theorem maximum_le_iff
    {ns : List Nat}
    {bound : Nat} :
    maximum ns ≤ bound ↔ ∀ n ∈ ns, n ≤ bound := by
  induction ns with
  | nil => simp [maximum]
  | cons n rest ih =>
      rw [List.forall_mem_cons, ← ih]
      exact Nat.max_le

/- The greatest number does not depend on order and repeats. -/
theorem maximum_congr
    {ms ns : List Nat}
    (h : ∀ n, n ∈ ms ↔ n ∈ ns) : maximum ms = maximum ns := by
  apply Nat.le_antisymm
  · rw [maximum_le_iff]
    intro n hMem
    exact maximum_le_iff.1 (Nat.le_refl _) n ((h n).1 hMem)
  · rw [maximum_le_iff]
    intro n hMem
    exact maximum_le_iff.1 (Nat.le_refl _) n ((h n).2 hMem)

/- It is one of the numbers, unless there are none. -/
theorem maximum_mem
    {ns : List Nat}
    (h : ns ≠ []) : maximum ns ∈ ns := by
  induction ns with
  | nil => exact absurd rfl h
  | cons n rest ih =>
      have hCons : maximum (n :: rest) = max n (maximum rest) := rfl
      cases rest with
      | nil =>
          rw [hCons, maximum, List.foldr_nil, Nat.max_zero]
          exact List.mem_cons_self
      | cons k more =>
          rw [hCons]
          rcases Nat.le_total (maximum (k :: more)) n with hLe | hLe
          · rw [Nat.max_eq_left hLe]
            exact List.mem_cons_self
          · rw [Nat.max_eq_right hLe]
            exact List.mem_cons_of_mem _ (ih (List.cons_ne_nil _ _))

end Table

------------------------------------------------------------
-- Headings
------------------------------------------------------------

/- The key and the label of a formatted entry. -/
def FormattedEntry.heading (f : FormattedEntry) : Text × Text :=
  (f.key, f.label)

/- The heading of an item that comes after some others. -/
def Table.headingAfter
    (before i : Nat)
    (item : Text × Entry) : Text × Text :=
  (item.1, item.2.label.getD (toString (before + i + 1)).toList)

/- One more item before makes the place one higher. -/
theorem Table.headingAfter_succ
    (before : Nat) :
    headingAfter (before + 1) =
      fun i => headingAfter before (i + 1) := by
  funext i item
  rw [headingAfter, headingAfter, Nat.add_assoc before 1 i,
    Nat.add_comm 1 i]

/- The keys of headings are those of the items. -/
theorem Table.map_fst_mapIdx_headingAfter
    (before : Nat)
    (items : List (Text × Entry)) :
    (items.mapIdx (headingAfter before)).map (fun h => h.1) =
      items.map (fun item => item.1) := by
  apply List.ext_getElem?
  intro i
  rw [List.getElem?_map, List.getElem?_mapIdx, List.getElem?_map,
    Option.map_map]
  rfl

/-
  The headings of formatted entries are those of the items that
  the keys find.  The induction is on the keys; the entries done
  so far tell the place of the next one.
-/
theorem Setting.headings_formatEntries
    {s : Setting}
    {t : Table}
    {fuel : Nat}
    {done entries : List FormattedEntry}
    {keys : List Text}
    {m m' : Machine}
    (h : s.formatEntries t fuel done keys m =
      .finished (.ok entries) m') :
    entries.map FormattedEntry.heading =
      done.map FormattedEntry.heading ++
        (keys.filterMap t.find?).mapIdx
          (Table.headingAfter done.length) := by
  induction keys generalizing done m with
  | nil =>
      cases h
      simp
  | cons key rest ih =>
      unfold formatEntries at h
      rw [List.filterMap_cons]
      cases hFind : t.find? key with
      | none =>
          rw [hFind] at h
          exact ih h
      | some item =>
          rw [hFind] at h
          rcases Outcome.andThen_eq_ok.1 h with ⟨text, m₁, _, hRest⟩
          rw [ih hRest, List.mapIdx_cons, List.map_append,
            List.append_assoc, List.length_append, List.length_singleton,
            Table.headingAfter_succ]
          rfl

/- The headings and the width of a style's output. -/
theorem Program.headings_runStyle
    {p : Program}
    {t : Table}
    {fuel : Nat}
    {keys : List Text}
    {style : StyleOutput}
    {m : Machine}
    (h : p.runStyle t fuel keys = .finished (.ok style) m) :
    style.entries.map FormattedEntry.heading =
        (keys.filterMap t.find?).mapIdx (Table.headingAfter 0) ∧
      style.labelWidth =
        Table.maximum (style.entries.map (fun e => e.label.length)) := by
  unfold runStyle at h
  rcases Outcome.andThen_eq_ok.1 h with ⟨_, m₁, _, hRest⟩
  rcases Outcome.andThen_eq_ok.1 hRest with
    ⟨entries, m₂, hEntries, hRest⟩
  rcases Outcome.andThen_eq_ok.1 hRest with ⟨_, m₃, _, hEnd⟩
  cases hEnd
  exact ⟨Setting.headings_formatEntries hEntries, rfl⟩

end Bibliography
