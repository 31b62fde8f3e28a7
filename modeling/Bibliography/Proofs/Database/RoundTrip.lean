import Bibliography.Database.Rendering
import Bibliography.Proofs.Database.Documents
import Bibliography.Proofs.Database.WellFormed

/-
  A written table is read back.

  The text of a table is that of a document, whose values are all
  braced.  If the table has been read, the document is well
  formed, and what it says is the table.

  Key definitions include:
    * `Grammar.Document.ofTable`
    * `Person.SurvivesRendering`

  Key statements include:
    * `Grammar.Document.text_ofTable`
    * `Grammar.Block.meaning_ofEntry`
    * `Database.parse_write`
    * `Database.parse_write_parse`
-/

------------------------------------------------------------
-- Lists without Repetitions
------------------------------------------------------------

namespace Bibliography

/- Where no two elements are alike, none is erased. -/
theorem eraseDupsBy_of_pairwise
    {α : Type}
    {r : α → α → Bool}
    {items : List α}
    (h : items.Pairwise (fun a b => r b a = false)) :
    items.eraseDupsBy r = items := by
  induction items with
  | nil => rfl
  | cons a rest ih =>
      rcases List.pairwise_cons.1 h with ⟨hFirst, hRest⟩
      have hKept :
          rest.filter (fun b => decide (r b a = false)) = rest := by
        apply List.filter_eq_self.2
        intro b hMem
        exact decide_eq_true (hFirst b hMem)
      rw [List.eraseDupsBy_cons, hKept, ih hRest]

/- Names that are all different repeat nothing. -/
theorem Entry.repeatsAfter_of_nodup
    {seen names : List Text}
    (hNodup : names.Nodup)
    (hNew : ∀ name ∈ names, name ∉ seen) :
    repeatsAfter seen names = [] := by
  induction names generalizing seen with
  | nil => rfl
  | cons name rest ih =>
      rcases List.nodup_cons.1 hNodup with ⟨hFirst, hRest⟩
      rcases List.forall_mem_cons.1 hNew with ⟨hHere, hLater⟩
      rw [repeatsAfter, if_neg (by simpa using hHere)]
      apply ih hRest
      intro other hMem hSeen
      rcases List.mem_cons.1 hSeen with rfl | hSeen
      · exact hFirst hMem
      · exact hLater other hMem hSeen

------------------------------------------------------------
-- The Document of a Table
------------------------------------------------------------

namespace Entry

/- The fields of an entry as they are written, persons first. -/
def writtenFields (e : Entry) : List (Text × Text) :=
  e.persons.items.map
      (fun item => (item.1, Person.renderAll item.2)) ++
    e.fields.items

end Entry

/- The records that say what a table holds. -/
def Table.contents (t : Table) : List Record :=
  t.preamble.map Record.preamble ++
    t.entries.map (fun item => .entry item.1 item.2 [])

namespace Grammar

/- A line of the text of an entry. -/
def Assignment.ofField (item : Text × Text) : Assignment where
  gap := ['\n', ' ', ' ', ' ', ' ']
  name := item.1
  gapEquals := [' ']
  value := .single [' '] (.braced item.2)

/- Every line ends in a comma, also the last. -/
def slotsOf (items : List (Text × Text)) : List Slot :=
  items.map (fun item => ⟨[], some (Assignment.ofField item)⟩) ++
    [⟨[], none⟩]

namespace Block

/- The record of an entry. -/
def ofEntry
    (key : Text)
    (e : Entry) : Block where
  gapKind := []
  kind := e.entryType
  gapOpen := []
  delimiter := .braces
  content := .entry [] key (slotsOf e.writtenFields)
  gapClose := ['\n']

/- The record of a preamble fragment. -/
def ofFragment (fragment : Text) : Block where
  gapKind := []
  kind := "preamble".toList
  gapOpen := []
  delimiter := .braces
  content := .preamble (.single [] (.braced fragment))
  gapClose := []

end Block

namespace Document

/- Records with the text behind each, after a text in front. -/
def laidOut
    (lead : Text) : List (Block × Text) → Document
  | [] => ⟨[], lead⟩
  | (b, after) :: rest =>
      let d := laidOut after rest
      ⟨(lead, b) :: d.blocks, d.tail⟩

/- The document of which the text of a table is the text. -/
def ofTable (t : Table) : Document :=
  laidOut []
    (t.preamble.map
        (fun fragment => (.ofFragment fragment, "\n\n".toList)) ++
      t.entries.map
        (fun item => (.ofEntry item.1 item.2, "\n\n".toList)))

theorem text_laidOut
    (lead : Text)
    (items : List (Block × Text)) :
    (laidOut lead items).text =
      lead ++ items.flatMap (fun item => item.1.text ++ item.2) := by
  induction items generalizing lead with
  | nil => simp [laidOut, text]
  | cons item rest ih =>
      have hRest := ih item.2
      simp only [text] at hRest
      simp [laidOut, text, hRest]

theorem records_laidOut
    (lead : Text)
    (items : List (Block × Text)) :
    (laidOut lead items).records =
      items.map (fun item => item.1) := by
  induction items generalizing lead with
  | nil => rfl
  | cons item rest ih => exact congrArg (List.cons _) (ih item.2)

theorem isWellFormed_laidOut
    {lead : Text}
    {items : List (Block × Text)}
    (hLead : '@' ∉ lead)
    (hItems : ∀ item ∈ items,
      item.1.isWellFormed = true ∧ '@' ∉ item.2) :
    (laidOut lead items).isWellFormed = true := by
  induction items generalizing lead with
  | nil => simpa [laidOut, isWellFormed] using hLead
  | cons item rest ih =>
      rcases List.forall_mem_cons.1 hItems with ⟨hFirst, hRest⟩
      have hLater := ih hFirst.2 hRest
      rw [isWellFormed, Bool.and_eq_true] at hLater ⊢
      constructor
      · rw [laidOut, List.all_cons, Bool.and_eq_true,
          Bool.and_eq_true]
        refine ⟨⟨?_, hFirst.1⟩, hLater.1⟩
        simpa using hLead
      · exact hLater.2

end Document

------------------------------------------------------------
-- The Text of the Document
------------------------------------------------------------

/- Lines with a comma at the end are slots with one in front. -/
theorem text_slotsOf (items : List (Text × Text)) :
    ",\n".toList ++
        items.flatMap (fun item => Entry.writeField item.1 item.2) =
      (slotsOf items).flatMap Slot.text ++ ['\n'] := by
  induction items with
  | nil => rfl
  | cons item rest ih =>
      have hLine : ",\n".toList ++ Entry.writeField item.1 item.2 =
          Slot.text ⟨[], some (Assignment.ofField item)⟩ ++
            ",\n".toList := by
        unfold Entry.writeField
        simp [Slot.text, Assignment.text, Assignment.ofField,
          Expression.text, Part.text]
      rw [slotsOf, List.flatMap_cons, ← List.append_assoc, hLine,
        List.append_assoc, ih]
      simp [slotsOf]

theorem Block.text_ofEntry
    (key : Text)
    (e : Entry) :
    (ofEntry key e).text ++ "\n\n".toList =
      e.write key ++ ['\n'] := by
  have hFields :
      e.persons.items.flatMap
          (fun item =>
            Entry.writeField item.1 (Person.renderAll item.2)) ++
        e.fields.items.flatMap
          (fun item => Entry.writeField item.1 item.2) =
      e.writtenFields.flatMap
        (fun item => Entry.writeField item.1 item.2) := by
    rw [Entry.writtenFields, List.flatMap_append, List.flatMap_map]
  have hSlots := text_slotsOf e.writtenFields
  have hEnd : "\x7d\n".toList = ['}', '\n'] := by decide
  have hGap : "\n\n".toList = ['\n', '\n'] := by decide
  unfold Entry.write
  simp only [List.append_assoc]
  rw [← List.append_assoc _ _ ("\x7d\n".toList ++ ['\n']),
    hFields, ← List.append_assoc ",\n".toList, hSlots, hEnd, hGap]
  simp [Block.text, ofEntry, Content.text, Delimiter.opening,
    Delimiter.closing]

theorem Block.text_ofFragment (fragment : Text) :
    (ofFragment fragment).text ++ "\n\n".toList =
      Table.writePreamble fragment := by
  have hOpen : "@preamble\x7b\x7b".toList =
      '@' :: "preamble".toList ++ ['{', '{'] := by decide
  have hClose : "\x7d\x7d\n\n".toList =
      ['}', '}'] ++ "\n\n".toList := by decide
  unfold Table.writePreamble
  simp only [hOpen, hClose, Block.text, ofFragment, Content.text,
    Delimiter.opening, Delimiter.closing, Expression.text,
    Part.text, List.append_nil, List.nil_append, List.append_assoc,
    List.cons_append]

/- The text of a table is that of its document. -/
theorem Document.text_ofTable (t : Table) :
    (ofTable t).text = t.write := by
  rw [ofTable, text_laidOut, List.flatMap_append, List.flatMap_map,
    List.flatMap_map, Table.write]
  simp only [Block.text_ofFragment, Block.text_ofEntry]
  rfl

end Grammar

------------------------------------------------------------
-- Persons
------------------------------------------------------------

namespace Person

/- The persons are read back from the text of their list. -/
def SurvivesRendering (persons : List Person) : Prop :=
  (renderAll persons).normalizeSpace.splitNames.map
      (fun name => (parse name).toOption) =
    persons.map some

instance (persons : List Person) :
    Decidable (SurvivesRendering persons) :=
  inferInstanceAs (Decidable (_ = _))

/- Every name in the text of such a list has two commas at most. -/
theorem SurvivesRendering.commas_le
    {persons : List Person}
    (h : SurvivesRendering persons)
    {name : Text}
    (hName :
      name ∈ (renderAll persons).normalizeSpace.splitNames) :
    name.commas ≤ 2 := by
  have hMem := List.mem_map_of_mem
    (f := fun name => (parse name).toOption) hName
  rw [h] at hMem
  rcases List.mem_map.1 hMem with ⟨p, _, hParse⟩
  cases hResult : parse name with
  | error err =>
      rw [hResult] at hParse
      cases hParse
  | ok q => exact commas_le_of_parse hResult

theorem SurvivesRendering.map_read
    {persons : List Person}
    (h : SurvivesRendering persons) :
    (renderAll persons).normalizeSpace.splitNames.map read =
      persons := by
  have hRead := congrArg (List.map (fun r => r.getD nameless)) h
  rw [List.map_map, List.map_map] at hRead
  exact hRead.trans (List.map_id persons)

end Person

------------------------------------------------------------
-- What the Document Says
------------------------------------------------------------

namespace Entry

variable {config : ParserConfig}
variable {e : Entry}

/- The written fields as they are read. -/
def readBack (e : Entry) : List (Text × Text) :=
  e.persons.items.map
      (fun item =>
        (item.1, (Person.renderAll item.2).normalizeSpace)) ++
    e.fields.items

/- An entry does not use a name twice. -/
theorem WellFormed.distinct_readBack
    (h : e.WellFormed config) :
    e.readBack.Pairwise (fun a b => a.1 ≠ b.1) := by
  have hAscending : ∀ {α : Type} (m : SortedMap α),
      m.items.Pairwise (fun a b => a.1 ≠ b.1) := by
    intro α m
    apply m.ascending.imp
    intro a b hLt hEq
    rw [hEq] at hLt
    exact List.lt_irrefl _ hLt
  refine List.pairwise_append.2
    ⟨List.pairwise_map.2 (hAscending e.persons),
      hAscending e.fields, ?_⟩
  intro a hPersons b hFields hEq
  rcases List.mem_map.1 hPersons with ⟨item, hItem, rfl⟩
  have hRole := (h.persons item hItem).2.1
  have hPlain := (h.fields b hFields).2.1
  rw [← hEq, hRole] at hPlain
  cases hPlain

/- Each of the written fields counts. -/
theorem WellFormed.firstAssignments_readBack
    (h : e.WellFormed config) :
    firstAssignments e.readBack = e.readBack := by
  apply eraseDupsBy_of_pairwise
  apply h.distinct_readBack.imp
  intro a b hNe
  exact beq_eq_false_iff_ne.2 hNe.symm

/- The plain fields among the written ones. -/
theorem WellFormed.plainFields_readBack
    (h : e.WellFormed config) :
    plainFields config e.readBack = e.fields.items := by
  have hNone : (e.persons.items.map (fun item =>
      (item.1, (Person.renderAll item.2).normalizeSpace))).filter
        (fun a => !config.isPersonField a.1) = [] := by
    apply List.filter_eq_nil_iff.2
    intro a hMem
    rcases List.mem_map.1 hMem with ⟨item, hItem, rfl⟩
    simp [(h.persons item hItem).2.1]
  have hAll : e.fields.items.filter
      (fun a => !config.isPersonField a.1) = e.fields.items := by
    apply List.filter_eq_self.2
    intro a hMem
    simp [(h.fields a hMem).2.1]
  rw [plainFields, readBack, List.filter_append, hNone, hAll,
    List.nil_append]

/- The lists of persons among the written fields. -/
theorem WellFormed.personLists_readBack
    (h : e.WellFormed config)
    (hPersons : ∀ item ∈ e.persons.items,
      Person.SurvivesRendering item.2) :
    personLists config e.readBack = e.persons.items := by
  have hAll : (e.persons.items.map (fun item =>
      (item.1, (Person.renderAll item.2).normalizeSpace))).filter
        (fun a => config.isPersonField a.1) =
      e.persons.items.map (fun item =>
        (item.1, (Person.renderAll item.2).normalizeSpace)) := by
    apply List.filter_eq_self.2
    intro a hMem
    rcases List.mem_map.1 hMem with ⟨item, hItem, rfl⟩
    exact (h.persons item hItem).2.1
  have hNone : e.fields.items.filter
      (fun a => config.isPersonField a.1) = [] := by
    apply List.filter_eq_nil_iff.2
    intro a hMem
    simp [(h.fields a hMem).2.1]
  have hRead : e.persons.items.map (fun item =>
      (item.1, (Person.renderAll
        item.2).normalizeSpace.splitNames.map Person.read)) =
      e.persons.items := by
    refine (List.map_congr_left ?_).trans (List.map_id _)
    intro item hMem
    rw [(hPersons item hMem).map_read]
    rfl
  have hNonempty : e.persons.items.filter
      (fun l => !l.2.isEmpty) = e.persons.items := by
    apply List.filter_eq_self.2
    intro item hMem
    simp [(h.persons item hMem).2.2.1]
  rw [personLists, readBack, List.filter_append, hAll, hNone,
    List.append_nil, List.map_map]
  exact (congrArg _ hRead).trans hNonempty

/- The written fields make the entry again. -/
theorem WellFormed.ofAssignments_readBack
    (h : e.WellFormed config)
    (hPersons : ∀ item ∈ e.persons.items,
      Person.SurvivesRendering item.2) :
    ofAssignments config e.entryType e.readBack = e := by
  have hNumber := h.number
  have hLabel := h.label
  rw [ofAssignments, h.firstAssignments_readBack,
    h.plainFields_readBack, h.personLists_readBack hPersons,
    SortedMap.ofList_items, SortedMap.ofList_items]
  cases e
  simp_all

/- The written fields have names of their own. -/
theorem WellFormed.repeatsAfter_readBack
    (h : e.WellFormed config) :
    repeatsAfter [] (e.readBack.map (fun a => a.1)) = [] := by
  refine repeatsAfter_of_nodup ?_ ?_
  · exact List.pairwise_map.2 h.distinct_readBack
  · intro name _ hMem
    cases hMem

end Entry

namespace Grammar

variable {config : ParserConfig}

/- The written fields, and the names that they assign to. -/
theorem assignmentsOf_slotsOf (items : List (Text × Text)) :
    assignmentsOf (slotsOf items) =
      items.map Assignment.ofField := by
  have hSlots :
      (items.map (fun item =>
        (⟨[], some (Assignment.ofField item)⟩ : Slot))).filterMap
          Slot.assignment = items.map Assignment.ofField := by
    rw [List.filterMap_map]
    exact congrFun List.filterMap_eq_map' items
  rw [assignmentsOf, slotsOf, List.filterMap_append, hSlots]
  exact List.append_nil _

/- A written field says its name and its value. -/
theorem Assignment.meaning_ofField
    (macros : MacroTable)
    {item : Text × Text}
    (hName : item.1.lower = item.1) :
    (ofField item).meaning macros =
      (item.1, item.2.normalizeSpace) := by
  rw [Assignment.meaning, ofField, hName]
  rfl

/- The written fields say what is read back. -/
theorem map_meaning_writtenFields
    {e : Entry}
    (h : e.WellFormed config)
    (macros : MacroTable) :
    (e.writtenFields.map Assignment.ofField).map
        (Assignment.meaning macros) = e.readBack := by
  have hPersons : e.persons.items.map (fun item =>
      (Assignment.ofField
        (item.1, Person.renderAll item.2)).meaning macros) =
      e.persons.items.map (fun item =>
        (item.1, (Person.renderAll item.2).normalizeSpace)) := by
    apply List.map_congr_left
    intro item hMem
    exact Assignment.meaning_ofField macros
      (h.persons item hMem).1.lower
  have hFields : e.fields.items.map (fun item =>
      (Assignment.ofField item).meaning macros) =
      e.fields.items := by
    refine (List.map_congr_left ?_).trans (List.map_id _)
    intro item hMem
    have hItem := h.fields item hMem
    rw [Assignment.meaning_ofField macros hItem.1.lower,
      hItem.2.2.normalized]
    rfl
  rw [Entry.writtenFields, List.map_append, List.map_append,
    List.map_map, List.map_map, List.map_map, Entry.readBack]
  exact (congrArg (fun l => l ++ _) hPersons).trans
    (congrArg (fun l => _ ++ l) hFields)

/- The record of an entry says the entry. -/
theorem Block.meaning_ofEntry
    {e : Entry}
    (h : e.WellFormed config)
    (hPersons : ∀ item ∈ e.persons.items,
      Person.SurvivesRendering item.2)
    (macros : MacroTable)
    (key : Text) :
    (ofEntry key e).meaning config macros = .entry key e [] := by
  rw [Block.meaning, ofEntry, Content.meaning,
    assignmentsOf_slotsOf, map_meaning_writtenFields h,
    h.kind.lower, h.ofAssignments_readBack hPersons,
    h.repeatsAfter_readBack]

/- The record of a fragment says the fragment. -/
theorem Block.meaning_ofFragment
    {fragment : Text}
    (h : fragment.IsValue)
    (macros : MacroTable) :
    (ofFragment fragment).meaning config macros =
      .preamble fragment :=
  congrArg Record.preamble h.normalized

------------------------------------------------------------
-- The Document Is Well Formed
------------------------------------------------------------

/- A braced balanced text is a value, whatever the macros. -/
theorem isWellFormed_braced
    {gap t : Text}
    (hGap : gap.isBlank = true)
    (h : t.isBalanced = true) :
    (Expression.single gap (.braced t)).isWellFormed = true := by
  rw [Expression.isWellFormed, hGap, Part.isWellFormed,
    Text.isBody_false, h]
  rfl

theorem Assignment.isWellFormed_ofField
    {item : Text × Text}
    (hName : item.1.IsLowerName)
    (hValue : item.2.isBalanced = true) :
    (ofField item).isWellFormed = true := by
  have hBraced :=
    @isWellFormed_braced [' '] item.2 (by decide) hValue
  rw [Assignment.isWellFormed, ofField, hName.token, hBraced]
  rfl

theorem Block.isWellFormed_ofFragment
    {fragment : Text}
    (h : fragment.IsValue) :
    (ofFragment fragment).isWellFormed = true := by
  have hBraced :=
    @isWellFormed_braced [] fragment (by decide) h.balanced
  rw [Block.isWellFormed, ofFragment, Content.isWellFormed, hBraced]
  rfl

/- The written fields of an entry are names and balanced texts. -/
theorem isWellFormed_writtenFields
    {e : Entry}
    (h : e.WellFormed config) :
    ∀ item ∈ e.writtenFields,
      (Assignment.ofField item).isWellFormed = true := by
  intro item hMem
  rcases List.mem_append.1 hMem with hRole | hField
  · rcases List.mem_map.1 hRole with ⟨role, hIn, rfl⟩
    have hItem := h.persons role hIn
    have hBalanced : ∀ p ∈ role.2, p.IsBalanced :=
      fun p hMem => (hItem.2.2.2 p hMem).isBalanced
    exact Assignment.isWellFormed_ofField hItem.1
      (Person.isBalanced_renderAll hBalanced)
  · have hItem := h.fields item hField
    exact Assignment.isWellFormed_ofField hItem.1
      hItem.2.2.balanced

theorem Block.isWellFormed_ofEntry
    {key : Text}
    {e : Entry}
    (hKey : Pattern.key.accepts key = true)
    (h : e.WellFormed config) :
    (ofEntry key e).isWellFormed = true := by
  have hSlots :
      (slotsOf e.writtenFields).all Slot.isWellFormed = true := by
    apply List.all_eq_true.2
    intro slot hMem
    rcases List.mem_append.1 hMem with hIn | hIn
    · rcases List.mem_map.1 hIn with ⟨item, hItem, rfl⟩
      exact isWellFormed_writtenFields h item hItem
    · rw [List.mem_singleton.1 hIn]
      rfl
  have hFits : (Content.entry [] key (slotsOf e.writtenFields)).fits
      e.entryType.lower = true := by
    have hNot := h.notReserved
    rw [Entry.reservedKinds, List.mem_cons, List.mem_cons,
      List.mem_singleton, not_or, not_or] at hNot
    rw [Content.fits, h.kind.lower, bne_iff_ne.2 hNot.1,
      bne_iff_ne.2 hNot.2.1, bne_iff_ne.2 hNot.2.2]
    rfl
  rw [Block.isWellFormed, ofEntry, h.kind.token, hFits,
    Content.isWellFormed, hKey, hSlots]
  rfl

/- What holds of the records wherever they stand. -/
theorem holdsThroughout_of_forall
    {condition : MacroTable → Block → Bool}
    {blocks : List Block}
    (h : ∀ b ∈ blocks, ∀ macros, condition macros b = true)
    (macros : MacroTable) :
    holdsThroughout config condition macros blocks = true := by
  induction blocks generalizing macros with
  | nil => rfl
  | cons b rest ih =>
      rcases List.forall_mem_cons.1 h with ⟨hFirst, hRest⟩
      rw [holdsThroughout, hFirst, ih hRest]
      rfl

/- Records that say the same wherever they stand. -/
theorem meanings_of_forall
    {blocks : List Block}
    {record : Block → Record}
    (h : ∀ b ∈ blocks, ∀ macros,
      b.meaning config macros = record b)
    (macros : MacroTable) :
    meanings config macros blocks = blocks.map record := by
  induction blocks generalizing macros with
  | nil => rfl
  | cons b rest ih =>
      rcases List.forall_mem_cons.1 h with ⟨hFirst, hRest⟩
      rw [meanings, hFirst, ih hRest]
      rfl

namespace Document

variable {t : Table}

/- The records of the document of a table. -/
theorem records_ofTable (t : Table) :
    (ofTable t).records =
      t.preamble.map Block.ofFragment ++
        t.entries.map (fun item => .ofEntry item.1 item.2) := by
  rw [ofTable, records_laidOut, List.map_append, List.map_map,
    List.map_map]
  rfl

/- A property of the records of fragments and of entries. -/
theorem forall_mem_records_ofTable
    {P : Block → Prop}
    (hPreamble : ∀ fragment ∈ t.preamble, P (.ofFragment fragment))
    (hEntries : ∀ item ∈ t.entries, P (.ofEntry item.1 item.2)) :
    ∀ b ∈ (ofTable t).records, P b := by
  intro b hMem
  rw [records_ofTable] at hMem
  rcases List.mem_append.1 hMem with hIn | hIn
  · rcases List.mem_map.1 hIn with ⟨fragment, hFragment, rfl⟩
    exact hPreamble fragment hFragment
  · rcases List.mem_map.1 hIn with ⟨item, hItem, rfl⟩
    exact hEntries item hItem

theorem isWellFormed_ofTable
    (h : t.WellFormed config) :
    (ofTable t).isWellFormed = true := by
  have hGap : '@' ∉ "\n\n".toList := by decide
  apply isWellFormed_laidOut List.not_mem_nil
  intro item hMem
  rcases List.mem_append.1 hMem with hIn | hIn
  · rcases List.mem_map.1 hIn with ⟨fragment, hFragment, rfl⟩
    exact ⟨Block.isWellFormed_ofFragment
      (h.preamble fragment hFragment), hGap⟩
  · rcases List.mem_map.1 hIn with ⟨entry, hEntry, rfl⟩
    exact ⟨Block.isWellFormed_ofEntry (h.keys entry hEntry)
      (h.entries entry hEntry), hGap⟩

/- Braced values use no macros. -/
theorem isDefined_ofTable
    (t : Table)
    (macros : MacroTable) :
    holdsThroughout config
      (fun macros b =>
        b.content.values.all (Expression.isDefined macros))
      macros (ofTable t).records = true := by
  refine holdsThroughout_of_forall ?_ macros
  refine forall_mem_records_ofTable ?_ ?_
  · intro fragment _ macros
    rfl
  · intro item _ macros
    apply List.all_eq_true.2
    intro value hMem
    rw [Content.values.eq_def] at hMem
    simp only [Block.ofEntry, assignmentsOf_slotsOf] at hMem
    rcases List.mem_map.1 hMem with ⟨a, hIn, rfl⟩
    rcases List.mem_map.1 hIn with ⟨field, _, rfl⟩
    rfl

/- The names in it can be read if the persons survive. -/
theorem hasReadableNames_ofTable
    (h : t.WellFormed config)
    (hPersons : ∀ item ∈ t.entries, ∀ role ∈ item.2.persons.items,
      Person.SurvivesRendering role.2)
    (macros : MacroTable) :
    holdsThroughout config
      (fun macros b => b.content.hasReadableNames config macros)
      macros (ofTable t).records = true := by
  refine holdsThroughout_of_forall ?_ macros
  refine forall_mem_records_ofTable ?_ ?_
  · intro fragment _ macros
    rfl
  · intro item hItem macros
    have hEntry := h.entries item hItem
    apply List.all_eq_true.2
    intro a hMem
    rw [assignmentsOf_slotsOf] at hMem
    rcases List.mem_map.1 hMem with ⟨field, hField, rfl⟩
    rw [Assignment.hasReadableNames, Bool.or_eq_true]
    rcases List.mem_append.1 hField with hIn | hIn
    · rcases List.mem_map.1 hIn with ⟨role, hRole, rfl⟩
      refine Or.inr (List.all_eq_true.2 ?_)
      intro name hName
      exact decide_eq_true
        ((hPersons item hItem role hRole).commas_le hName)
    · have hPlain := hEntry.fields field hIn
      apply Or.inl
      rw [Assignment.ofField, hPlain.1.lower, hPlain.2.1]
      rfl

/- The document says the fragments and then the entries. -/
theorem meanings_ofTable
    (h : t.WellFormed config)
    (hPersons : ∀ item ∈ t.entries, ∀ role ∈ item.2.persons.items,
      Person.SurvivesRendering role.2)
    (macros : MacroTable) :
    meanings config macros (ofTable t).records = t.contents := by
  have hAny : ∀ b ∈ (ofTable t).records, ∀ m,
      b.meaning config m = b.meaning config macros := by
    refine forall_mem_records_ofTable ?_ ?_
    · intro fragment hMem m
      rw [Block.meaning_ofFragment (h.preamble fragment hMem),
        Block.meaning_ofFragment (h.preamble fragment hMem)]
    · intro item hMem m
      have hEntry := h.entries item hMem
      have hSurvive := hPersons item hMem
      rw [Block.meaning_ofEntry hEntry hSurvive,
        Block.meaning_ofEntry hEntry hSurvive]
  have hPreamble :
      t.preamble.map (fun fragment =>
          (Block.ofFragment fragment).meaning config macros) =
        t.preamble.map Record.preamble := by
    apply List.map_congr_left
    intro fragment hMem
    exact Block.meaning_ofFragment (h.preamble fragment hMem) macros
  have hEntries :
      t.entries.map (fun item =>
          (Block.ofEntry item.1 item.2).meaning config macros) =
        t.entries.map (fun item =>
          Record.entry item.1 item.2 []) := by
    apply List.map_congr_left
    intro item hMem
    exact Block.meaning_ofEntry (h.entries item hMem)
      (hPersons item hMem) macros item.1
  rw [meanings_of_forall hAny, records_ofTable, List.map_append,
    List.map_map, List.map_map]
  exact (congrArg (fun l => l ++ _) hPreamble).trans
    (congrArg (fun l => _ ++ l) hEntries)

end Document

/- Entries with keys of their own are all in their table. -/
theorem tableOf_contents
    {t : Table}
    (hDistinct : t.entries.Pairwise
      (fun a b => Table.sameKey a.1 b.1 = false)) :
    tableOf t.contents = t := by
  have hEntries : t.contents.filterMap entryOf = t.entries := by
    rw [Table.contents, List.filterMap_append, List.filterMap_map,
      List.filterMap_map]
    simp [Function.comp_def, entryOf]
  have hPreamble : t.contents.filterMap fragmentOf = t.preamble := by
    rw [Table.contents, List.filterMap_append, List.filterMap_map,
      List.filterMap_map]
    simp [Function.comp_def, fragmentOf]
  have hKept : t.entries.eraseDupsBy
      (fun a b => Table.sameKey a.1 b.1) = t.entries := by
    refine eraseDupsBy_of_pairwise (hDistinct.imp ?_)
    intro a b hNot
    rw [Table.sameKey_comm]
    exact hNot
  rw [tableOf, hEntries, hPreamble, hKept]

/- Of such entries there is nothing to complain about. -/
theorem complaints_entries
    {items : List (Text × Entry)}
    {earlier : List Text}
    (hDistinct : items.Pairwise
      (fun a b => Table.sameKey a.1 b.1 = false))
    (hNew : ∀ item ∈ items,
      earlier.any (fun k => Table.sameKey k item.1) = false) :
    complaints earlier
        (items.map (fun item => Record.entry item.1 item.2 [])) =
      [] := by
  induction items generalizing earlier with
  | nil => rfl
  | cons item rest ih =>
      rcases List.pairwise_cons.1 hDistinct with ⟨hFirst, hRest⟩
      rcases List.forall_mem_cons.1 hNew with ⟨hHere, hLater⟩
      rw [List.map_cons, complaints, hHere, ih hRest]
      · rfl
      · intro other hMem
        rw [List.any_cons, hFirst other hMem, hLater other hMem]
        rfl

end Grammar

------------------------------------------------------------
-- Reading What Was Written
------------------------------------------------------------

namespace Database

open Grammar

/- A well-formed table is read back from its text. -/
theorem parse_write
    {config : ParserConfig}
    {t : Table}
    (h : t.WellFormed config)
    (hPersons : ∀ item ∈ t.entries, ∀ role ∈ item.2.persons.items,
      Person.SurvivesRendering role.2) :
    (parse config t.write).table = t ∧
      (parse config t.write).diagnostics = [] := by
  have hRun := @readRecords_blocks config (Document.ofTable t).blocks
    (Document.ofTable t).tail (initial config) (.ofText t.write)
    (Document.text_ofTable t).symm
    (Document.isWellFormed_ofTable h)
    (Document.isDefined_ofTable t _)
    (Document.hasReadableNames_ofTable h hPersons _)
  have hMeanings := Document.meanings_ofTable h hPersons
    (initial config).macros
  have hPreamble : ∀ fragments : List Text, ∀ more : List Record,
      complaints [] (fragments.map Record.preamble ++ more) =
        complaints [] more := by
    intro fragments more
    induction fragments with
    | nil => rfl
    | cons fragment rest ih => exact ih
  rw [Document.records] at hMeanings
  rw [parse, hRun, hMeanings, foldl_addRecord_initial]
  constructor
  · exact tableOf_contents h.distinct
  · dsimp only
    rw [Table.contents, hPreamble]
    exact complaints_entries h.distinct (fun _ _ => rfl)

/-
  The table of any text is read back from its own text, with the
  same person fields and whatever macros, if its macros were
  balanced and its lists of persons survive their rendering.
-/
theorem parse_write_parse
    (config config' : ParserConfig)
    (text : Text)
    (hMacros : config.macros.IsBalanced)
    (hFields : config'.personFields = config.personFields)
    (hPersons : ∀ item ∈ (parse config text).table.entries,
      ∀ role ∈ item.2.persons.items,
        Person.SurvivesRendering role.2) :
    (parse config' (parse config text).table.write).table =
        (parse config text).table ∧
      (parse config'
        (parse config text).table.write).diagnostics = [] := by
  have hTable := (wellFormed_parse hMacros text).table
  exact parse_write (hTable.congr hFields) hPersons

/- Macros, quotes, groups, and persons in all forms. -/
def sampleText : Text :=
  ("@string(ed = \"Lee\")\n" ++
    "@preamble\x7b\"a@b\" # \x7b \x7bc\x7d\x7d\x7d" ++
    "@Book\x7bk@1, title = \x7bOn  \x7b@\x7d \"#\", =\x7d," ++
    "editor = \x7bvon Roe, Jr, Ann and \x7bX and Y\x7d\x7d " ++
    "# \" and \" # ED, year = 1999,\x7d").toList

theorem parse_write_parse_sample :
    (parse .standard sampleText).table.keys = ["k@1".toList] ∧
      (parse (ParserConfig.standard.withMacros .empty)
          (parse .standard sampleText).table.write).table =
        (parse .standard sampleText).table ∧
      (parse (ParserConfig.standard.withMacros .empty)
          (parse .standard sampleText).table.write).diagnostics =
        [] := by
  have hMacros : ParserConfig.standard.macros.IsBalanced := by
    unfold MacroTable.IsBalanced
    decide +kernel
  have hTable :
      (parse .standard sampleText).table.keys = ["k@1".toList] ∧
        ∀ item ∈ (parse .standard sampleText).table.entries,
          ∀ role ∈ item.2.persons.items,
            Person.SurvivesRendering role.2 := by
    decide +kernel
  constructor
  · exact hTable.1
  · exact parse_write_parse .standard
      (ParserConfig.standard.withMacros .empty) sampleText hMacros
      rfl hTable.2

end Database

end Bibliography
