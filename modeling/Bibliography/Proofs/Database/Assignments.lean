import Bibliography.Proofs.Database.Acceptance
import Bibliography.Proofs.SortedMap

/-
  The entry that assignments make, one after the other.

  A draft knows all names that it has seen, so a name that it has
  not seen is new to its entry.  Taking in all assignments of an
  entry makes the entry that counts the first to each name.

  Key definitions include:
    * `Draft.Tracks`
    * `Draft.takeIn`

  Key statements include:
    * `Draft.foldl_assign`
    * `Draft.foldl_assign_ofType`
-/

------------------------------------------------------------
-- One Assignment
------------------------------------------------------------

namespace Bibliography

namespace Entry

/- Persons added to a role one by one. -/
theorem foldl_addPerson
    {role : Text}
    (hLower : role.lower = role)
    (names : List Text)
    (e : Entry) :
    names.foldl
        (fun e name => e.addPerson role (Person.read name)) e =
      if names.isEmpty then e
      else
        { e with
          persons :=
            e.persons.insert role
              (e.personsOf role ++ names.map Person.read) } := by
  induction names generalizing e with
  | nil => rfl
  | cons name rest ih =>
      rw [List.foldl_cons, ih]
      have hRole :
          (e.addPerson role (Person.read name)).personsOf role =
            e.personsOf role ++ [Person.read name] := by
        rw [addPerson, personsOf, hLower, SortedMap.get?_insert,
          if_pos rfl]
        rfl
      cases rest with
      | nil => simp [addPerson, hLower]
      | cons other more =>
          rw [hRole, addPerson, hLower]
          simp [SortedMap.insert_insert]

end Entry

namespace Draft

variable {config : ParserConfig}

/- Every name in the entry has been seen. -/
def Tracks (d : Draft) : Prop :=
  ∀ name, name ∉ d.seen →
    d.entry.fields.get? name = none ∧
      d.entry.persons.get? name = none

/- A draft without fields has seen all its names. -/
theorem tracks_ofType (kind : Text) : (ofType kind).Tracks :=
  fun _ _ => ⟨rfl, rfl⟩

/- An assignment to a name that has been seen is repeated. -/
theorem assign_of_mem
    {d : Draft}
    {a : Text × Text}
    (h : a.1 ∈ d.seen) :
    d.assign config a =
      { d with repeated := d.repeated ++ [a.1] } := by
  rw [assign, addField, if_pos h]
  rfl

/- A new plain field is inserted. -/
theorem assign_plain
    {d : Draft}
    {a : Text × Text}
    (hTracks : d.Tracks)
    (hLower : a.1.lower = a.1)
    (hNew : a.1 ∉ d.seen)
    (hPlain : config.isPersonField a.1 = false) :
    d.assign config a =
      { d with
        entry :=
          { d.entry with
            fields := d.entry.fields.insert a.1 a.2 }
        seen := a.1 :: d.seen } := by
  have hField : d.entry.hasField a.1 = false := by
    rw [Entry.hasField, hLower, SortedMap.contains,
      (hTracks a.1 hNew).1]
    rfl
  rw [assign, addField, if_neg hNew, hPlain,
    if_neg (by simp), Entry.insertField, hField,
    if_neg (by simp), hLower]
  rfl

/- A new person field is inserted if it has names. -/
theorem assign_persons
    {d : Draft}
    {a : Text × Text}
    (hTracks : d.Tracks)
    (hLower : a.1.lower = a.1)
    (hNew : a.1 ∉ d.seen)
    (hPersons : config.isPersonField a.1 = true)
    (hNames : ∀ name ∈ a.2.splitNames, name.commas ≤ 2) :
    d.assign config a =
      { d with
        entry :=
          if a.2.splitNames.isEmpty then d.entry
          else
            { d.entry with
              persons :=
                d.entry.persons.insert a.1
                  (a.2.splitNames.map Person.read) }
        seen := a.1 :: d.seen } := by
  have hRole : d.entry.personsOf a.1 = [] := by
    rw [Entry.personsOf, hLower, (hTracks a.1 hNew).2]
    rfl
  rw [assign, addField, if_neg hNew, hPersons, if_pos rfl,
    addPersons_eq_ok hNames, Entry.foldl_addPerson hLower, hRole]
  rfl

/- After an assignment every name in the entry has been seen. -/
theorem tracks_assign
    {d : Draft}
    {a : Text × Text}
    (hTracks : d.Tracks)
    (hLower : a.1.lower = a.1)
    (hNames : config.isPersonField a.1 = true →
      ∀ name ∈ a.2.splitNames, name.commas ≤ 2) :
    (d.assign config a).Tracks := by
  by_cases hMem : a.1 ∈ d.seen
  · rw [assign_of_mem hMem]
    exact hTracks
  · cases hPerson : config.isPersonField a.1 with
    | false =>
        rw [assign_plain hTracks hLower hMem hPerson]
        intro name hNew
        rw [List.mem_cons, not_or] at hNew
        rw [SortedMap.get?_insert, if_neg hNew.1]
        exact hTracks name hNew.2
    | true =>
        rw [assign_persons hTracks hLower hMem hPerson
          (hNames hPerson)]
        intro name hNew
        rw [List.mem_cons, not_or] at hNew
        cases a.2.splitNames.isEmpty with
        | true => exact hTracks name hNew.2
        | false =>
            rw [if_neg (by simp)]
            constructor
            · exact (hTracks name hNew.2).1
            · rw [SortedMap.get?_insert, if_neg hNew.1]
              exact (hTracks name hNew.2).2

------------------------------------------------------------
-- All Assignments of an Entry
------------------------------------------------------------

/- The assignments that are the first to names not seen before. -/
def newAssignments
    (seen : List Text)
    (assignments : List (Text × Text)) : List (Text × Text) :=
  Entry.firstAssignments
    (assignments.filter (fun a => !seen.contains a.1))

/- A name that has been seen adds nothing. -/
theorem newAssignments_of_mem
    {seen : List Text}
    {a : Text × Text}
    (h : a.1 ∈ seen)
    (rest : List (Text × Text)) :
    newAssignments seen (a :: rest) = newAssignments seen rest := by
  rw [newAssignments, List.filter_cons_of_neg (by simp [h])]
  rfl

/- A new name counts, and it has been seen from then on. -/
theorem newAssignments_of_not_mem
    {seen : List Text}
    {a : Text × Text}
    (h : a.1 ∉ seen)
    (rest : List (Text × Text)) :
    newAssignments seen (a :: rest) =
      a :: newAssignments (a.1 :: seen) rest := by
  have hFilter :
      (rest.filter (fun b => !seen.contains b.1)).filter
          (fun b => decide ((b.1 == a.1) = false)) =
        rest.filter (fun b => !(a.1 :: seen).contains b.1) := by
    rw [List.filter_filter]
    apply List.filter_congr
    intro b _
    rw [List.contains_cons]
    cases b.1 == a.1 <;> cases seen.contains b.1 <;> rfl
  rw [newAssignments, List.filter_cons_of_pos (by simp [h]),
    Entry.firstAssignments, List.eraseDupsBy_cons, hFilter]
  rfl

/- Items inserted into a map one after the other. -/
def insertAll
    {α : Type}
    (m : SortedMap α)
    (items : List (Text × α)) : SortedMap α :=
  items.foldl (fun m item => m.insert item.1 item.2) m

/- The entry with some assignments, which are new to it. -/
def takeIn
    (config : ParserConfig)
    (e : Entry)
    (assignments : List (Text × Text)) : Entry :=
  { e with
    fields :=
      insertAll e.fields (Entry.plainFields config assignments)
    persons :=
      insertAll e.persons (Entry.personLists config assignments) }

theorem takeIn_cons
    (e : Entry)
    (a : Text × Text)
    (rest : List (Text × Text)) :
    takeIn config e (a :: rest) =
      takeIn config (takeIn config e [a]) rest := by
  cases hPerson : config.isPersonField a.1 with
  | false =>
      simp [takeIn, insertAll, Entry.plainFields,
        Entry.personLists, hPerson]
  | true =>
      cases hEmpty : a.2.splitNames.isEmpty <;>
        simp [takeIn, insertAll, Entry.plainFields,
          Entry.personLists, hPerson, hEmpty]

/- A new name is taken in, whatever kind of field it is. -/
theorem assign_of_not_mem
    {d : Draft}
    {a : Text × Text}
    (hTracks : d.Tracks)
    (hLower : a.1.lower = a.1)
    (hNames : config.isPersonField a.1 = true →
      ∀ name ∈ a.2.splitNames, name.commas ≤ 2)
    (hNew : a.1 ∉ d.seen) :
    d.assign config a =
      { d with
        entry := takeIn config d.entry [a]
        seen := a.1 :: d.seen } := by
  cases hPerson : config.isPersonField a.1 with
  | false =>
      rw [assign_plain hTracks hLower hNew hPerson]
      simp [takeIn, insertAll, Entry.plainFields,
        Entry.personLists, hPerson]
  | true =>
      rw [assign_persons hTracks hLower hNew hPerson
        (hNames hPerson)]
      cases hEmpty : a.2.splitNames.isEmpty <;>
        simp [takeIn, insertAll, Entry.plainFields,
          Entry.personLists, hPerson, hEmpty]

/-
  A run of assignments inserts the new ones into the entry and
  reports the others.
-/
theorem foldl_assign
    {assignments : List (Text × Text)}
    {d : Draft}
    (hTracks : d.Tracks)
    (hLower : ∀ a ∈ assignments, a.1.lower = a.1)
    (hNames : ∀ a ∈ assignments,
      config.isPersonField a.1 = true →
        ∀ name ∈ a.2.splitNames, name.commas ≤ 2) :
    let d' := assignments.foldl (assign config) d
    d'.entry =
        takeIn config d.entry
          (newAssignments d.seen assignments) ∧
      d'.repeated =
        d.repeated ++
          Entry.repeatsAfter d.seen
            (assignments.map (fun a => a.1)) := by
  induction assignments generalizing d with
  | nil => exact ⟨rfl, (List.append_nil _).symm⟩
  | cons a rest ih =>
      rcases List.forall_mem_cons.1 hLower with
        ⟨hFirst, hLowerRest⟩
      rcases List.forall_mem_cons.1 hNames with
        ⟨hReadable, hNamesRest⟩
      have hAfter : (d.assign config a).Tracks :=
        tracks_assign hTracks hFirst hReadable
      have hRun := ih hAfter hLowerRest hNamesRest
      rw [List.foldl_cons, List.map_cons, Entry.repeatsAfter]
      by_cases hMem : a.1 ∈ d.seen
      · rw [newAssignments_of_mem hMem,
          if_pos (by simpa using hMem)]
        rw [assign_of_mem hMem] at hRun ⊢
        constructor
        · exact hRun.1
        · rw [hRun.2]
          simp
      · rw [newAssignments_of_not_mem hMem, takeIn_cons,
          if_neg (by simpa using hMem)]
        rw [assign_of_not_mem hTracks hFirst hReadable hMem]
          at hRun ⊢
        exact hRun

/- The assignments of an entry make the entry they describe. -/
theorem foldl_assign_ofType
    {kind : Text}
    {assignments : List (Text × Text)}
    (hKind : kind.lower = kind)
    (hLower : ∀ a ∈ assignments, a.1.lower = a.1)
    (hNames : ∀ a ∈ assignments,
      config.isPersonField a.1 = true →
        ∀ name ∈ a.2.splitNames, name.commas ≤ 2) :
    let d := assignments.foldl (assign config) (ofType kind)
    d.entry = Entry.ofAssignments config kind assignments ∧
      d.repeated =
        Entry.repeatsAfter [] (assignments.map (fun a => a.1)) := by
  have hRun := foldl_assign (tracks_ofType kind) hLower hNames
  have hAll : newAssignments (ofType kind).seen assignments =
      Entry.firstAssignments assignments := by
    rw [newAssignments, List.filter_eq_self.2]
    intro a _
    rfl
  rw [hAll] at hRun
  constructor
  · rw [hRun.1, Entry.ofAssignments]
    simp [takeIn, ofType, Entry.ofType, hKind, insertAll,
      SortedMap.ofList]
  · exact hRun.2

end Draft

end Bibliography
