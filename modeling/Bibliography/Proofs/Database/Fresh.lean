import Bibliography.Database.Document
import Bibliography.Proofs.Database.Reading
import Bibliography.Proofs.Table.Labels

/-
  Tables that have been read are not labelled.

  Whatever the macros, an entry is read without number and label,
  and is taken in under a key that differs from all before.

  Key statements include:
    * `Scanner.unlabelled_readFields`
    * `Database.fresh_parse`
-/

------------------------------------------------------------
-- Entries
------------------------------------------------------------

namespace Bibliography

namespace Draft

/- Persons are added without a label. -/
theorem unlabelled_of_addPersons
    {role : Text}
    {names : List Text}
    {e e' : Entry}
    (h : e.Unlabelled)
    (hAdd : addPersons role names e = .ok e') : e'.Unlabelled := by
  induction names generalizing e with
  | nil =>
      cases hAdd
      exact h
  | cons name rest ih =>
      unfold addPersons at hAdd
      split at hAdd
      · cases hAdd
      · rename_i p _
        exact @ih (e.addPerson role p) h hAdd

/- So are fields. -/
theorem unlabelled_of_addField
    {config : ParserConfig}
    {d d' : Draft}
    {name value : Text}
    (h : d.entry.Unlabelled)
    (hAdd : d.addField config name value = .ok d') :
    d'.entry.Unlabelled := by
  unfold addField at hAdd
  split at hAdd
  · cases hAdd
    exact h
  · split at hAdd
    · cases hPersons : addPersons name value.splitNames d.entry with
      | error err =>
          rw [hPersons] at hAdd
          cases hAdd
      | ok e =>
          rw [hPersons] at hAdd
          cases hAdd
          exact unlabelled_of_addPersons h hPersons
    · cases hAdd
      unfold Entry.insertField
      split
      · exact h
      · exact h

end Draft

------------------------------------------------------------
-- Reading Steps
------------------------------------------------------------

/- Nothing is asked of what a step reads. -/
theorem Scanned.ensures_true
    {α : Type}
    (step : Scanned α) : step.Ensures (fun _ => True) :=
  fun _ _ => trivial

/- The entry of a record, if it has one, is not labelled. -/
def Record.Unlabelled : Record → Prop
  | .entry _ e _ => e.Unlabelled
  | _ => True

namespace Scanner

variable {config : ParserConfig}
variable {macros : MacroTable}

/- Fields are read without a label. -/
theorem unlabelled_readFields
    (close : Pattern)
    {d : Draft}
    (h : d.entry.Unlabelled)
    (s : Scanner) :
    (s.readFields config macros close d).Ensures
      (fun d' => d'.entry.Unlabelled) := by
  fun_induction readFields config macros close d s with
  | case2 d s separator s₁ hRequire hPattern =>
      exact Scanned.ensures_ok _ h
  | case4 d s separator s₁ hRequire hPattern s₂ hNext ih =>
      exact ih h
  | case7 d s separator s₁ hRequire hPattern name s₂ hNext value
      s₃ hValue d' hField ih =>
      exact ih (Draft.unlabelled_of_addField h hField)
  | _ => exact Scanned.ensures_error _ _ _

/- So is a whole record, whatever its kind. -/
theorem unlabelled_readRecord
    (s : Scanner) :
    (s.readRecord config macros).Ensures Record.Unlabelled := by
  unfold readRecord
  refine (ensures_require s _).andThen ?_
  intro name s₁ _
  refine (ensures_require s₁ _).andThen ?_
  intro opener s₂ _
  unfold readContent
  split
  · unfold readDefinition
    refine (ensures_require s₂ _).andThen ?_
    intro macroName s₃ _
    refine (Scanned.ensures_true _).andThen ?_
    intro text s₄ _
    refine (ensures_require s₄ _).andThen ?_
    intro closer s₅ _
    exact Scanned.ensures_ok _ trivial
  · split
    · unfold readPreamble
      refine (Scanned.ensures_true _).andThen ?_
      intro text s₃ _
      refine (ensures_require s₃ _).andThen ?_
      intro closer s₄ _
      exact Scanned.ensures_ok _ trivial
    · split
      · exact Scanned.ensures_ok _ trivial
      · unfold readEntry
        refine (ensures_require s₂ _).andThen ?_
        intro key s₃ _
        refine (unlabelled_readFields _ ⟨rfl, rfl⟩ s₃).andThen ?_
        intro d s₄ hEntry
        exact Scanned.ensures_ok _ hEntry

end Scanner

------------------------------------------------------------
-- Databases
------------------------------------------------------------

namespace Table

/- An entry without label may be inserted. -/
theorem Fresh.tryInsert
    {t : Table}
    {e : Entry}
    (h : t.Fresh)
    (hEntry : e.Unlabelled)
    (key : Text) : (t.tryInsert key e).2.Fresh := by
  rcases t.tryInsert_cases key e with hTry | ⟨hNew, hTry⟩
  · rwa [hTry]
  rw [hTry]
  constructor
  · refine List.pairwise_append.2
      ⟨h.distinct, List.pairwise_singleton _ _, ?_⟩
    intro item hMem other hOther
    rw [List.mem_singleton.1 hOther]
    exact hNew item hMem
  · intro item hMem
    rcases List.mem_append.1 hMem with hIn | hIn
    · exact h.unlabelled item hIn
    · rw [List.mem_singleton.1 hIn]
      exact hEntry

end Table

namespace Database

/- The loop over the records keeps the table fresh. -/
theorem fresh_readRecords
    {config : ParserConfig}
    {db : Database}
    (h : db.table.Fresh)
    (s : Scanner) : (readRecords config db s).table.Fresh := by
  fun_induction readRecords config db s with
  | case1 db s hSkip => exact h
  | case2 db s t s₁ hSkip ih =>
      apply ih
      have hRecord :=
        @Scanner.unlabelled_readRecord config db.macros s₁
      cases hRead : (s₁.readRecord config db.macros).1 with
      | error err => exact h
      | ok record =>
          cases record with
          | entry key e repeated =>
              exact Table.Fresh.tryInsert h (hRecord _ hRead) key
          | definition name text => exact h
          | preamble fragment => exact ⟨h.distinct, h.unlabelled⟩
          | comment => exact h

/- Every table that is read is fresh. -/
theorem fresh_parse
    (config : ParserConfig)
    (t : Text) : (parse config t).table.Fresh := by
  refine fresh_readRecords ⟨List.Pairwise.nil, ?_⟩ _
  intro item hMem
  cases hMem

end Database

end Bibliography
