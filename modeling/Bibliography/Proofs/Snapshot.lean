import Bibliography.Proofs.MessagePack.Bounds
import Bibliography.Proofs.MessagePack.Values
import Bibliography.Proofs.Table.Index
import Bibliography.Snapshot

/-
  Snapshots that are read back.

  Persons, entries and tables are read back from their snapshots
  if their texts, lists and numbers are not too long or too large
  to be written.  A table nests values eight levels deep.

  The numbers of a table that is read are never too large, nor are
  those of labels, so a table that was made by operations and by
  reading has to be short only.  Its index, which the snapshot
  leaves out, is made anew.

  Key definitions include:
    * `Person.IsShort`
    * `Entry.IsShort`
    * `Table.IsShort`
    * `IndexedTable.Reachable`

  Key statements include:
    * `Person.decodes_toSnapshot`
    * `Entry.decodes_toSnapshot`
    * `Table.decodes_toSnapshot`
    * `Table.hasNumberBelow_of_ofSnapshot`
    * `IndexedTable.ofSnapshot_toSnapshot`
-/

------------------------------------------------------------
-- Sizes
------------------------------------------------------------

namespace Bibliography

open MessagePack

/- A list of words that is short, as each of them is. -/
def ShortWords (words : List Text) : Prop :=
  words.length < lengthLimit ∧ ∀ word ∈ words, word.IsShort

instance (words : List Text) : Decidable (ShortWords words) :=
  inferInstanceAs (Decidable (_ ∧ _))

/- A map with few items, the keys of which are short. -/
def SortedMap.IsShort
    {α : Type}
    (m : SortedMap α) : Prop :=
  m.items.length < lengthLimit ∧ ∀ item ∈ m.items, item.1.IsShort

instance {α : Type} (m : SortedMap α) : Decidable m.IsShort :=
  inferInstanceAs (Decidable (_ ∧ _))

/- All words of a person. -/
def Person.IsShort (p : Person) : Prop :=
  ShortWords p.first ∧ ShortWords p.middle ∧
    ShortWords p.prelast ∧ ShortWords p.last ∧
    ShortWords p.lineage

instance (p : Person) : Decidable p.IsShort :=
  inferInstanceAs (Decidable (_ ∧ _))

/- A role with few persons, none of them too long. -/
def ShortPersons (persons : List Person) : Prop :=
  persons.length < lengthLimit ∧ ∀ p ∈ persons, p.IsShort

instance (persons : List Person) :
    Decidable (ShortPersons persons) :=
  inferInstanceAs (Decidable (_ ∧ _))

namespace Entry

/- All texts and lists of an entry. -/
def IsShort (e : Entry) : Prop :=
  e.entryType.IsShort ∧
    (e.fields.IsShort ∧ ∀ item ∈ e.fields.items, item.2.IsShort) ∧
    (e.persons.IsShort ∧
      ∀ role ∈ e.persons.items, ShortPersons role.2) ∧
    ∀ label ∈ e.label, label.IsShort

instance (e : Entry) : Decidable e.IsShort :=
  inferInstanceAs (Decidable (_ ∧ _))

end Entry

/- All texts and lists of a table. -/
def Table.IsShort (t : Table) : Prop :=
  t.entries.length < lengthLimit ∧
    (∀ item ∈ t.entries, item.1.IsShort ∧ item.2.IsShort) ∧
    ShortWords t.preamble

instance (t : Table) : Decidable t.IsShort :=
  inferInstanceAs (Decidable (_ ∧ _))

------------------------------------------------------------
-- Persons and Entries
------------------------------------------------------------

variable {levels : Nat}

theorem decodes_packWords
    {words : List Text}
    (h : ShortWords words) :
    Decodes (levels + 1) unpackWords (packWords words) words :=
  decodes_writeArray h.1
    (fun word hMem => decodes_writeText (h.2 word hMem))

theorem Person.decodes_toSnapshot
    {p : Person}
    (h : p.IsShort) :
    Decodes 2 Person.ofSnapshot p.toSnapshot p := by
  rcases h with ⟨hFirst, hMiddle, hPrelast, hLast, hLineage⟩
  have hLength : 5 < lengthLimit := by decide
  refine decodes_writeNamed
    (d := ⟨some p.first, some p.middle, some p.prelast, some p.last,
      some p.lineage⟩)
    hLength ?_ rfl
  refine .next (by decide) rfl
    ((decodes_packWords hFirst).once rfl) ?_
  refine .next (by decide) rfl
    ((decodes_packWords hMiddle).once rfl) ?_
  refine .next (by decide) rfl
    ((decodes_packWords hPrelast).once rfl) ?_
  refine .next (by decide) rfl
    ((decodes_packWords hLast).once rfl) ?_
  refine .next (by decide) rfl
    ((decodes_packWords hLineage).once rfl) ?_
  exact .done _

theorem Entry.decodes_toSnapshot
    {e : Entry}
    (h : e.IsShort)
    (hNumber : e.HasNumberBelow numberLimit) :
    Decodes 5 Entry.ofSnapshot e.toSnapshot e := by
  rcases h with ⟨hType, hFields, hPersons, hLabel⟩
  have hLength : 5 < lengthLimit := by decide
  have hReadFields : Decodes 4 (readMap (leaf readText))
      (writeMap writeText e.fields.items) e.fields :=
    decodes_writeMap hFields.1.1 hFields.1.2
      (fun item hMem => decodes_writeText (hFields.2 item hMem))
  have hReadPersons : Decodes 4 (readMap (readArray Person.ofSnapshot))
      (writeMap (writeArray Person.toSnapshot) e.persons.items)
      e.persons := by
    refine decodes_writeMap hPersons.1.1 hPersons.1.2 ?_
    intro role hRole
    have hShort := hPersons.2 role hRole
    exact decodes_writeArray hShort.1
      (fun p hMem => Person.decodes_toSnapshot (hShort.2 p hMem))
  have hReadNumber : Decodes 4 (readOption (leaf readNat))
      (writeOption writeNat e.number) e.number := by
    refine decodes_writeOption
      (fun n hMem => decodes_writeNat (hNumber n hMem)) ?_
    intro n hMem rest after hNil
    rw [readHeader_writeNat (hNumber n hMem)] at hNil
    cases hNil
  have hReadLabel : Decodes 4 (readOption (leaf readText))
      (writeOption writeText e.label) e.label := by
    refine decodes_writeOption
      (fun label hMem => decodes_writeText (hLabel label hMem)) ?_
    intro label hMem rest after hNil
    rw [writeText, List.append_assoc,
      readHeader_textHeader (hLabel label hMem)] at hNil
    cases hNil
  refine decodes_writeNamed
    (d := ⟨some e.entryType, some e.fields, some e.persons,
      some e.number, some e.label⟩)
    hLength ?_ rfl
  refine .next (by decide) rfl ((decodes_writeText hType).once rfl) ?_
  refine .next (by decide) rfl (hReadFields.once rfl) ?_
  refine .next (by decide) rfl (hReadPersons.once rfl) ?_
  refine .next (by decide) rfl (hReadNumber.once rfl) ?_
  refine .next (by decide) rfl (hReadLabel.once rfl) ?_
  exact .done _

------------------------------------------------------------
-- Tables
------------------------------------------------------------

namespace Table

theorem decodes_toSnapshot
    {t : Table}
    (h : t.IsShort)
    (hNumbers : ∀ item ∈ t.entries,
      item.2.HasNumberBelow numberLimit) :
    Decodes 8 readSnapshot t.toSnapshot t := by
  rcases h with ⟨hEntries, hItems, hPreamble⟩
  have hLength : 2 < lengthLimit := by decide
  have hReadEntries : Decodes 7
      (readArray (readPair (leaf readText) Entry.ofSnapshot))
      (writeArray packItem t.entries) t.entries := by
    refine decodes_writeArray hEntries ?_
    intro item hMem
    exact (decodes_writeText (hItems item hMem).1).pair
      (Entry.decodes_toSnapshot (hItems item hMem).2
        (hNumbers item hMem))
  refine decodes_writeNamed
    (d := ⟨some t.entries, some t.preamble⟩)
    hLength ?_ rfl
  refine .next (by decide) rfl (hReadEntries.once rfl) ?_
  refine .next (by decide) rfl
    ((decodes_packWords hPreamble).once rfl) ?_
  exact .done _

/- The snapshot of a table gives the table, whatever follows it. -/
theorem ofSnapshot_toSnapshot_append
    {t : Table}
    (h : t.IsShort)
    (hNumbers : ∀ item ∈ t.entries,
      item.2.HasNumberBelow numberLimit)
    (rest : Bytes) :
    ofSnapshot (t.toSnapshot ++ rest) = .ok t := by
  rw [ofSnapshot,
    decodes_toSnapshot h hNumbers nestingLimit (by decide)]

end Table

------------------------------------------------------------
-- Numbers That Are Read
------------------------------------------------------------

theorem Entry.yields_ofSnapshot :
    Yields Entry.ofSnapshot (Entry.HasNumberBelow numberLimit) := by
  refine yields_readRecord
    (I := fun d => ∀ value ∈ d.number, ∀ n ∈ value, n < numberLimit)
    ?_ ?_ ?_
  · intro f hMem
    rw [snapshotFields, List.mem_cons, List.mem_cons, List.mem_cons,
      List.mem_cons, List.mem_singleton] at hMem
    rcases hMem with rfl | rfl | rfl | rfl | rfl
    · exact Member.keeps_other (fun _ _ hDraft => hDraft)
    · exact Member.keeps_other (fun _ _ hDraft => hDraft)
    · exact Member.keeps_other (fun _ _ hDraft => hDraft)
    · refine Member.keeps_once yields_readNat.option ?_
      intro d number _ hNumber value hMem
      cases hMem
      exact hNumber
    · exact Member.keeps_other (fun _ _ hDraft => hDraft)
  · intro value hMem
    cases hMem
  · intro d e hDraft hComplete
    rcases Option.bind_eq_some_iff.1 hComplete with ⟨_, _, hComplete⟩
    rcases Option.bind_eq_some_iff.1 hComplete with ⟨_, _, hComplete⟩
    rcases Option.bind_eq_some_iff.1 hComplete with ⟨_, _, hComplete⟩
    cases hComplete
    intro n hMem
    cases hNumber : d.number with
    | none =>
        rw [hNumber] at hMem
        cases hMem
    | some number =>
        rw [hNumber] at hMem
        exact hDraft number hNumber n hMem

namespace Table

theorem yields_readSnapshot :
    Yields readSnapshot (fun t => ∀ item ∈ t.entries,
      item.2.HasNumberBelow numberLimit) := by
  refine yields_readRecord
    (I := fun d => ∀ items ∈ d.entries, ∀ item ∈ items,
      item.2.HasNumberBelow numberLimit)
    ?_ ?_ ?_
  · intro f hMem
    rw [snapshotFields, List.mem_cons, List.mem_singleton] at hMem
    rcases hMem with rfl | rfl
    · refine Member.keeps_once Entry.yields_ofSnapshot.pair.array ?_
      intro d items _ hItems items' hMem
      cases hMem
      exact hItems
    · exact Member.keeps_other (fun _ _ hDraft => hDraft)
  · intro items hMem
    cases hMem
  · intro d t hDraft hComplete
    rcases Option.bind_eq_some_iff.1 hComplete with
      ⟨items, hItems, hComplete⟩
    rcases Option.bind_eq_some_iff.1 hComplete with ⟨_, _, hComplete⟩
    cases hComplete
    exact hDraft items hItems

/- A table that is read has no number that is too large. -/
theorem hasNumberBelow_of_ofSnapshot
    {bs : Bytes}
    {t : Table}
    (h : ofSnapshot bs = .ok t) :
    ∀ item ∈ t.entries, item.2.HasNumberBelow numberLimit := by
  unfold ofSnapshot at h
  split at h
  · cases h
  · rename_i u rest hRead
    cases h
    exact yields_readSnapshot nestingLimit bs t rest hRead

end Table

------------------------------------------------------------
-- Reachable Tables
------------------------------------------------------------

namespace IndexedTable

/- The snapshot leaves the index out. -/
def toSnapshot (s : IndexedTable) : Bytes :=
  s.table.toSnapshot

/- The table of a snapshot, with an index made from its keys. -/
def ofSnapshot (bs : Bytes) : Except Error IndexedTable :=
  (Table.ofSnapshot bs).map ofTable

/-
  The tables that operations, whether they succeed or fail, make
  of the empty one and of those that are read from bytes, which
  need not be a snapshot that was written.  An inserted entry may have a number already, which has
  eight bytes at most.
-/
inductive Reachable : IndexedTable → Prop where
  | empty : Reachable empty
  | insert
      {s : IndexedTable}
      {e : Entry}
      (hReach : Reachable s)
      (hNumber : e.HasNumberBelow numberLimit)
      (key : Text) : Reachable (s.tryInsert key e).2
  | addPreamble
      {s : IndexedTable}
      (hReach : Reachable s)
      (fragment : Text) : Reachable (s.addPreamble fragment)
  | assignLabels
      {s : IndexedTable}
      (hReach : Reachable s)
      (keys : List Text)
      (style : LabelStyle) :
      Reachable (s.tryAssignLabels keys style).2
  | ofSnapshot
      {bs : Bytes}
      {s : IndexedTable}
      (h : ofSnapshot bs = .ok s) : Reachable s

namespace Reachable

/- Every operation keeps the index faithful. -/
theorem faithful
    {s : IndexedTable}
    (h : s.Reachable) : s.Faithful := by
  induction h with
  | empty => rfl
  | insert _ _ key ih => exact ih.tryInsert key _
  | addPreamble _ _ ih => exact ih
  | assignLabels _ keys style ih => exact ih.tryAssignLabels keys style
  | ofSnapshot h =>
      rcases exists_of_map_eq_ok h with ⟨t, _, rfl⟩
      exact faithful_ofTable t

/-
  A number can be written, or it is a place among the entries,
  the number of which never falls.
-/
theorem numbers
    {s : IndexedTable}
    (h : s.Reachable) :
    ∀ item ∈ s.table.entries,
      item.2.HasNumberBelow numberLimit ∨
        item.2.HasNumberBelow (s.table.size + 1) := by
  induction h with
  | empty =>
      intro item hMem
      cases hMem
  | @insert s e _ hNumber key ih =>
      rcases s.tryInsert_cases key e with hTry | hTry
      · rwa [hTry]
      rw [hTry]
      intro item hMem
      rcases List.mem_append.1 hMem with hOld | hNew
      · rcases ih item hOld with hBelow | hBelow
        · exact Or.inl hBelow
        · apply Or.inr
          intro n hMem
          have hLess := hBelow n hMem
          rw [Table.size, List.length_append]
          exact Nat.lt_of_lt_of_le hLess
            (Nat.succ_le_succ (Nat.le_add_right ..))
      · rw [List.mem_singleton.1 hNew]
        exact Or.inl hNumber
  | addPreamble _ _ ih => exact ih
  | @assignLabels s _ keys style ih =>
      have hSize : (s.tryAssignLabels keys style).2.table.size =
          s.table.size := by
        have hKeys := congrArg List.length
          (s.table.keys_tryAssignLabels keys style)
        rw [Table.keys, Table.keys, List.length_map,
          List.length_map] at hKeys
        exact hKeys
      intro item hMem
      rw [hSize]
      rcases Table.hasNumberBelow_of_mem_tryAssignLabels hMem with
        ⟨old, hOld, hNumber⟩ | hBelow
      · rw [Entry.HasNumberBelow, Entry.HasNumberBelow, hNumber]
        exact ih old hOld
      · exact Or.inr hBelow
  | ofSnapshot h =>
      rcases exists_of_map_eq_ok h with ⟨t, hRead, rfl⟩
      intro item hMem
      exact Or.inl
        (Table.hasNumberBelow_of_ofSnapshot hRead item hMem)

end Reachable

/-
  The snapshot of a short table that operations and reading have
  made gives the table with its index, whatever follows it.  What
  the index leads to is what the table finds.
-/
theorem ofSnapshot_toSnapshot
    {s : IndexedTable}
    (hReach : s.Reachable)
    (hShort : s.table.IsShort)
    (rest : Bytes) :
    ofSnapshot (s.toSnapshot ++ rest) = .ok s ∧
      ∀ key, s.item? key = s.table.find? key := by
  have hFaithful := hReach.faithful
  have hNumbers : ∀ item ∈ s.table.entries,
      item.2.HasNumberBelow numberLimit := by
    have hSize : s.table.size < 2 ^ 32 := hShort.1
    intro item hMem n hNumber
    rcases hReach.numbers item hMem with hBelow | hBelow
    · exact hBelow n hNumber
    · have hLess := hBelow n hNumber
      show n < 2 ^ 64
      omega
  constructor
  · rw [ofSnapshot, toSnapshot,
      Table.ofSnapshot_toSnapshot_append hShort hNumbers rest]
    show Except.ok (ofTable s.table) = Except.ok s
    rw [ofTable, ← hFaithful]
  · exact hFaithful.item?_eq

/- Two keys that differ in case only, the second with a number. -/
def sampleTable : Table where
  entries :=
    [("A".toList, .ofType "misc".toList),
      ("a".toList,
        { entryType := "book".toList
          fields := .ofList [("title".toList, "T".toList)]
          persons := .ofList
            [("author".toList,
              [{ Person.nameless with last := ["Roe".toList] }])]
          number := some 300
          label := some "x".toList })]
  preamble := ["p".toList]

/- The table after an insertion, a fragment and a label. -/
def sampleLabelled : IndexedTable where
  table :=
    { entries := sampleTable.entries ++
        [("b".toList,
          (Entry.ofType "misc".toList).withLabel 1 "b".toList)]
      preamble := ["p".toList, "q".toList] }
  positions := .ofList [("a".toList, 1), ("b".toList, 2)]

theorem ofSnapshot_toSnapshot_sample :
    sampleLabelled.Reachable ∧ sampleLabelled.table.IsShort ∧
      ofSnapshot (sampleLabelled.toSnapshot ++ [0xC1]) =
        .ok sampleLabelled ∧
      ∀ key, sampleLabelled.item? key =
        sampleLabelled.table.find? key := by
  have hRead : ofSnapshot (sampleTable.toSnapshot ++ []) =
      .ok (ofTable sampleTable) := by
    rw [ofSnapshot, Table.ofSnapshot_toSnapshot_append
      (by decide) (by decide)]
    rfl
  have hNumber : (Entry.ofType "misc".toList).HasNumberBelow
      numberLimit := by decide
  have hReach : sampleLabelled.Reachable :=
    (Reachable.ofSnapshot hRead).insert hNumber "b".toList
      |>.addPreamble "q".toList
      |>.assignLabels ["B".toList, "c".toList] .key
  have hShort : sampleLabelled.table.IsShort := by decide
  exact ⟨hReach, hShort, ofSnapshot_toSnapshot hReach hShort [0xC1]⟩

end IndexedTable

end Bibliography
