import Bibliography.Proofs.Database.WellFormed
import Bibliography.Proofs.Text.Conjunction
import Bibliography.Style.Builtin

/-
  Stored persons and the text of their list.

  A style and a written database have the persons of a role as one
  text.  Dividing it gives the names of the persons exactly if the
  names stay apart: a tie may have kept the word "and" inside a
  name, where a blank does not, and a single person without a name
  leaves no text.

  Key definitions include:
    * `Person.StayApart`

  Key statements include:
    * `Person.splitNames_renderAll_iff`
    * `Database.splitNames_renderPersons_iff`
    * `Database.splitNames_tiedText`
-/

------------------------------------------------------------
-- Persons without a Name
------------------------------------------------------------

namespace Bibliography

namespace Person

/- The names of the persons are told apart in their list. -/
def StayApart (persons : List Person) : Prop :=
  persons ≠ [nameless] ∧
    Text.namesApart (persons.map render) = true

instance (persons : List Person) : Decidable (StayApart persons) :=
  inferInstanceAs (Decidable (_ ∧ _))

/- A character that is no white space. -/
def isVisible (c : Char) : Bool :=
  !Character.isSpace c

theorem isVisible_of_isSpace
    (c : Char)
    (h : Character.isSpace c = true) : isVisible c = false := by
  rw [isVisible, h]
  rfl

/- Words leave something to see. -/
theorem eq_nil_of_filter_unwords
    {ws : List Text}
    (h : ∀ w ∈ ws, w.IsWord)
    (hBlank : (Text.unwords ws).filter isVisible = []) : ws = [] := by
  cases ws with
  | nil => rfl
  | cons w rest =>
      have hWord := h w List.mem_cons_self
      rw [Text.filter_unwords (by decide), List.flatMap_cons,
        List.append_eq_nil_iff, List.filter_eq_nil_iff] at hBlank
      rcases List.exists_cons_of_ne_nil hWord.nonempty with
        ⟨c, more, rfl⟩
      have hOutside : c ∈ Text.outside (c :: more) := by
        rw [Text.outside, Text.outsideFrom, if_pos rfl]
        exact List.mem_cons_self
      have hSeparates := (hWord.plain c hOutside).1
      rw [Text.separatesWords, Bool.or_eq_false_iff] at hSeparates
      have hVisible : isVisible c = true := by
        rw [isVisible, hSeparates.1]
        rfl
      exact absurd hVisible (hBlank.1 c List.mem_cons_self)

/- Only a person without words has a blank name. -/
theorem eq_nameless_of_trim_render
    {p : Person}
    (h : p.IsWellFormed)
    (hBlank : p.render.trim = []) : p = nameless := by
  have hNone : p.render.filter isVisible = [] := by
    rw [← Text.filter_trim isVisible_of_isSpace, hBlank]
    rfl
  have hGiven : ∀ w ∈ p.given, w.IsWord := fun w hMem =>
    h w (List.mem_append_left _ (List.mem_append_left _ hMem))
  have hFamily : ∀ w ∈ p.family, w.IsWord := fun w hMem =>
    h w (List.mem_append_left _ (List.mem_append_right _ hMem))
  -- A comma in the name would be seen.
  have hComma : ∀ a b : Text,
      (a ++ ", ".toList ++ b).filter isVisible ≠ [] := by
    intro a b hNil
    have hSeen : isVisible ',' = true := by decide
    exact List.filter_eq_nil_iff.1 hNil ',' (by simp) hSeen
  unfold render at hNone
  dsimp only at hNone
  split at hNone
  · exact absurd hNone (hComma _ _)
  · rename_i hLineage
    split at hNone
    · rename_i hEmpty
      have hNoGiven := eq_nil_of_filter_unwords hGiven
        (by rw [List.isEmpty_iff.1 hEmpty]; rfl)
      have hNoFamily := eq_nil_of_filter_unwords hFamily hNone
      have hNoLineage : p.lineage = [] := by
        simpa using hLineage
      rcases p with ⟨first, middle, prelast, last, lineage⟩
      obtain ⟨rfl, rfl⟩ := List.append_eq_nil_iff.1 hNoGiven
      obtain ⟨rfl, rfl⟩ := List.append_eq_nil_iff.1 hNoFamily
      rw [nameless, ← hNoLineage]
    · exact absurd hNone (hComma _ _)

------------------------------------------------------------
-- Lists of Names
------------------------------------------------------------

/- A list of two names at least is not blank. -/
theorem trim_renderAll_ne_nil (p q : Person) (rest : List Person) :
    (renderAll (p :: q :: rest)).trim ≠ [] := by
  intro hBlank
  have hNone := Text.filter_trim isVisible_of_isSpace
    (renderAll (p :: q :: rest))
  have hSeen : isVisible 'a' = true := by decide
  have hMem : 'a' ∈ renderAll (p :: q :: rest) := by
    rw [renderAll, List.map_cons, List.map_cons, Text.join_cons_cons]
    simp
  rw [hBlank] at hNone
  exact List.filter_eq_nil_iff.1 hNone.symm 'a' hMem hSeen

/-
  The names in the text of a list are those of its persons exactly
  if they stay apart.
-/
theorem splitNames_renderAll_iff
    {persons : List Person}
    (hNonempty : persons ≠ [])
    (h : ∀ p ∈ persons, p.IsWellFormed) :
    (renderAll persons).splitNames =
        persons.map (fun p => p.render.trim) ↔
      StayApart persons := by
  have hBalanced : ∀ t ∈ persons.map render,
      t.isBalanced = true := by
    intro t hMem
    rcases List.mem_map.1 hMem with ⟨p, hIn, rfl⟩
    exact isBalanced_render (h p hIn).isBalanced
  have hNames : persons.map render ≠ [] := by
    simpa using hNonempty
  have hJoin := Text.map_trim_splitOutside_join_iff hNames hBalanced
  rw [List.map_map] at hJoin
  rw [Text.splitNames, StayApart]
  split
  · rename_i hBlank
    have hTrim := List.isEmpty_iff.1 hBlank
    cases persons with
    | nil => exact absurd rfl hNonempty
    | cons p others =>
        cases others with
        | nil =>
            rw [renderAll, List.map_singleton, Text.join_singleton]
              at hTrim
            have hNameless := eq_nameless_of_trim_render
              (h p List.mem_cons_self) hTrim
            rw [hNameless]
            simp
        | cons q rest =>
            exact absurd hTrim (trim_renderAll_ne_nil p q rest)
  · rename_i hSeen
    have hNotNameless : persons ≠ [nameless] := by
      rintro rfl
      exact hSeen (by decide)
    exact hJoin.trans ⟨fun hApart => ⟨hNotNameless, hApart⟩, And.right⟩

end Person

------------------------------------------------------------
-- Stored Lists
------------------------------------------------------------

namespace Database

/-
  Of the persons stored for a role, the names in the text that a
  style sees are those of the persons exactly if they stay apart.
  Then counting the names counts the persons, and the name with an
  index is that of the person.
-/
theorem splitNames_renderPersons_iff
    (config : ParserConfig)
    (hMacros : config.macros.IsBalanced)
    (t : Text)
    {item : Text × Entry}
    (hItem : item ∈ (parse config t).table.entries)
    {role : Text}
    {persons : List Person}
    (hRole : item.2.persons.get? role.lower = some persons) :
    ∃ names, item.2.renderPersons? role = some names ∧
      (names.splitNames = persons.map (fun p => p.render.trim) ↔
        Person.StayApart persons) ∧
      (Person.StayApart persons →
        names.splitNames.length = persons.length ∧
          ∀ index p, 0 < index →
            persons[index.toInt.toNat - 1]? = some p →
            Operation.selectName names.splitNames index =
              .ok p.render.trim) := by
  have hEntry := (wellFormed_parse hMacros t).table.entries item hItem
  have hStored := hEntry.persons (role.lower, persons)
    (SortedMap.mem_items_iff.2 hRole)
  have hNames := Person.splitNames_renderAll_iff hStored.2.2.1
    hStored.2.2.2
  refine ⟨Person.renderAll persons, ?_, hNames, ?_⟩
  · rw [Entry.renderPersons?, hRole]
    rfl
  · intro hApart
    rw [hNames.2 hApart]
    refine ⟨List.length_map _, ?_⟩
    intro index p hIndex hPerson
    have hSome : (persons.map (fun p => p.render.trim))[
        index.toInt.toNat - 1]? = some p.render.trim := by
      rw [List.getElem?_map, hPerson]
      rfl
    rw [Operation.selectName, if_neg (Int64.not_le.2 hIndex), hSome]

/-
  A name that begins with the word, one that holds it in a group,
  and a last one that ends with it.
-/
def apartText : Text :=
  ("@misc\x7bk, author = \x7band~Roe, Jr, Ann and \x7bA and B\x7d" ++
    " and Cid, Bo~AND\x7d\x7d").toList

theorem splitNames_renderPersons_iff_apartText :
    ∃ item ∈ (parse .standard apartText).table.entries,
      ∃ persons names,
        item.2.renderPersons? "Author".toList = some names ∧
          persons.length = 3 ∧ Person.StayApart persons ∧
          names.splitNames =
            persons.map (fun p => p.render.trim) := by
  have hMacros : ParserConfig.standard.macros.IsBalanced := by
    unfold MacroTable.IsBalanced
    decide +kernel
  have hRead :
      ((parse .standard apartText).table.entries.all fun item =>
        match item.2.persons.get? (Text.lower "Author".toList) with
        | some persons =>
            persons.length == 3 && decide (Person.StayApart persons)
        | none => false) = true ∧
      (parse .standard apartText).table.entries.length = 1 := by
    decide +kernel
  rcases List.length_eq_one_iff.1 hRead.2 with ⟨item, hItems⟩
  have hItem : item ∈ (parse .standard apartText).table.entries := by
    rw [hItems]
    exact List.mem_singleton_self item
  have hStored := List.all_eq_true.1 hRead.1 item hItem
  split at hStored
  · rename_i persons hRole
    rw [Bool.and_eq_true, beq_iff_eq, decide_eq_true_iff] at hStored
    rcases splitNames_renderPersons_iff .standard hMacros apartText
      hItem hRole with ⟨names, hNames, hSplit, _⟩
    exact ⟨item, hItem, persons, names, hNames, hStored.1, hStored.2,
      hSplit.2 hStored.2⟩
  · cases hStored

/- A tie inside of a name that becomes a blank. -/
def tiedText : Text :=
  "@misc\x7bk, author = \x7ba~and~Bar\x7d\x7d".toList

/- One person is stored, and its text has two names. -/
theorem splitNames_tiedText :
    ((parse .standard tiedText).table.entries.map fun item =>
        (item.2.persons.get? (Text.lower "author".toList)).map
          List.length) = [some 1] ∧
      ((parse .standard tiedText).table.entries.map fun item =>
        (item.2.renderPersons? "author".toList).map
          Text.splitNames) =
        [some ["a".toList, "Bar".toList]] := by
  decide +kernel

end Database

end Bibliography
