import Bibliography.Proofs.Database.Assignments
import Bibliography.Proofs.Table.Keys

/-
  Well-formed documents are read with their meaning.

  Every layout of a record is read as what the record says, and
  the loop over the records collects that.  The only diagnostics
  of such a document are repeated fields and keys.

  Key statements include:
    * `Scanner.readRecord_eq_readContent`
    * `Scanner.reads_readRecord`
    * `Database.readRecords_blocks`
    * `Database.parse_text`
-/

------------------------------------------------------------
-- Records
------------------------------------------------------------

namespace Bibliography

namespace Scanner

open Grammar

variable {config : ParserConfig}
variable {macros : MacroTable}

/- The closing delimiter is read. -/
theorem reads_require_closer
    {s : Scanner}
    {gap : Text}
    {delimiter : Delimiter}
    {more : Text}
    (hFaces : s.Faces (gap ++ delimiter.closing :: more))
    (hGap : gap.isBlank = true) :
    (s.require [delimiter.closer]).Reads
      (fun t => t.Is delimiter.closer [delimiter.closing]) more := by
  refine reads_require_mark hFaces hGap ?_ ?_
  · cases delimiter <;> rfl
  · cases delimiter <;> rfl

/- A macro definition is read up to its value. -/
theorem readDefinition_eq_readValue
    {s : Scanner}
    {gap name gapEquals after : Text}
    (hFaces : s.Faces
      (gap ++ (name ++ (gapEquals ++ '=' :: after))))
    (hGap : gap.isBlank = true)
    (hName : Pattern.name.accepts name = true)
    (hEquals : gapEquals.isBlank = true)
    (close : Pattern) :
    ∃ s₁ : Scanner, s₁.rest = after ∧
      s.readDefinition macros close =
        (s₁.readValue macros).andThen fun text s =>
          (s.require [close]).andThen fun _ s =>
            (.ok (.definition name text), s) := by
  rcases reads_require_one hFaces hGap hName
    (Pattern.stopsAt_append hEquals (Pattern.stopsAt_cons rfl)) with
    ⟨t, s₁, hRead, hToken, hRest₁⟩
  rcases @readAssigned_eq_readValue macros s₁ gapEquals after
    (faces_of_rest hRest₁) hEquals with ⟨s₂, hRest₂, hValue⟩
  refine ⟨s₂, hRest₂, ?_⟩
  rw [readDefinition, hRead, Scanned.andThen_ok, hValue, hToken.2]

/- A macro definition is read. -/
theorem reads_readDefinition
    {s : Scanner}
    {a : Assignment}
    {gapClose : Text}
    {delimiter : Delimiter}
    {more : Text}
    (hFaces : s.Faces
      (a.text ++ (gapClose ++ delimiter.closing :: more)))
    (hClose : gapClose.isBlank = true)
    (hWellFormed : a.isWellFormed = true)
    (hDefined : a.value.isDefined macros = true) :
    (s.readDefinition macros delimiter.closer).Reads
      (fun record =>
        record = .definition a.name (a.value.meaning macros))
      more := by
  rw [Assignment.isWellFormed, Bool.and_eq_true,
    Bool.and_eq_true, Bool.and_eq_true] at hWellFormed
  rcases hWellFormed with ⟨⟨⟨hGap, hName⟩, hEquals⟩, hWell⟩
  have hAssignment : s.Faces (a.gap ++ (a.name ++
      (a.gapEquals ++ '=' :: (a.value.text ++
        (gapClose ++ delimiter.closing :: more))))) := by
    simpa [Assignment.text] using hFaces
  rcases @readDefinition_eq_readValue macros s _ _ _ _ hAssignment
    hGap hName hEquals delimiter.closer with ⟨s₁, hRest₁, hRead⟩
  rw [hRead]
  refine (reads_readValue (faces_of_rest hRest₁) hClose
    (endsValue_closing delimiter) hWell hDefined).andThen ?_
  intro text s₂ hText hRest₂
  have hFaces₂ := (faces_of_rest hRest₂).append hClose
  apply (reads_require_closer hFaces₂ hClose).andThen
  intro t s₃ _ hRest₃
  refine Scanned.reads_ok ?_ hRest₃
  rw [hText]

/- A preamble is read. -/
theorem reads_readPreamble
    {s : Scanner}
    {value : Expression}
    {gapClose : Text}
    {delimiter : Delimiter}
    {more : Text}
    (hFaces : s.Faces
      (value.text ++ (gapClose ++ delimiter.closing :: more)))
    (hClose : gapClose.isBlank = true)
    (hWellFormed : value.isWellFormed = true)
    (hDefined : value.isDefined macros = true) :
    (s.readPreamble macros delimiter.closer).Reads
      (fun record => record = .preamble (value.meaning macros))
      more := by
  unfold readPreamble
  refine (reads_readValue hFaces hClose (endsValue_closing delimiter)
    hWellFormed hDefined).andThen ?_
  intro text s₁ hText hRest₁
  have hFaces₁ := (faces_of_rest hRest₁).append hClose
  apply (reads_require_closer hFaces₁ hClose).andThen
  intro t s₂ _ hRest₂
  refine Scanned.reads_ok ?_ hRest₂
  rw [hText]

/- The assignments of well-formed slots are well formed. -/
theorem isWellFormed_of_mem_assignmentsOf
    {slots : List Slot}
    {a : Assignment}
    (hSlots : slots.all Slot.isWellFormed = true)
    (hMem : a ∈ assignmentsOf slots) : a.isWellFormed = true := by
  rcases List.mem_filterMap.1 hMem with ⟨slot, hSlot, hSome⟩
  have hWell := List.all_eq_true.1 hSlots slot hSlot
  rw [Slot.isWellFormed, Bool.and_eq_true, hSome] at hWell
  exact hWell.2

/- The meaning of a well-formed assignment has a lower-case name. -/
theorem lower_name_of_isWellFormed
    {a : Assignment}
    (h : a.isWellFormed = true) :
    (a.meaning macros).1.lower = (a.meaning macros).1 := by
  rw [Assignment.isWellFormed, Bool.and_eq_true,
    Bool.and_eq_true, Bool.and_eq_true] at h
  exact Text.lower_lower_of_isAscii
    (Pattern.isAscii_of_accepts_name h.1.1.2)

/- An entry is read. -/
theorem reads_readEntry
    {s : Scanner}
    {kind gap key : Text}
    {slots : List Slot}
    {gapClose : Text}
    {delimiter : Delimiter}
    {more : Text}
    (hFaces : s.Faces
      (gap ++ (key ++ fieldsText slots gapClose delimiter more)))
    (hClose : gapClose.isBlank = true)
    (hKind : kind.lower = kind)
    (hGap : gap.isBlank = true)
    (hKey : Pattern.key.accepts key = true)
    (hSlots : slots.all Slot.isWellFormed = true)
    (hDefined : ∀ a ∈ assignmentsOf slots,
      a.value.isDefined macros = true)
    (hNames : ∀ a ∈ assignmentsOf slots,
      a.hasReadableNames config macros = true) :
    (s.readEntry config macros kind delimiter.closer).Reads
      (fun record => record =
        (Content.entry gap key slots).meaning config macros kind)
      more := by
  have hKeyStop : Pattern.key.StopsAt
      (fieldsText slots gapClose delimiter more) :=
    stopsAt_slotsText hClose (endsValue_closing delimiter) hSlots more
  unfold readEntry
  apply (reads_require_one hFaces hGap hKey hKeyStop).andThen
  intro t s₁ hToken hRest₁
  refine (reads_readFields (faces_of_rest hRest₁) hClose hSlots
    hDefined hNames).andThen ?_
  intro d s₂ hDraft hRest₂
  refine Scanned.reads_ok ?_ hRest₂
  have hRun := @Draft.foldl_assign_ofType config kind
    ((assignmentsOf slots).map (Assignment.meaning macros))
    hKind ?_ ?_
  · rw [hDraft, hToken.2, hRun.1, hRun.2, Content.meaning]
  · intro pair hMem
    rcases List.mem_map.1 hMem with ⟨a, hIn, rfl⟩
    exact lower_name_of_isWellFormed
      (isWellFormed_of_mem_assignmentsOf hSlots hIn)
  · intro pair hMem hPerson name hName
    rcases List.mem_map.1 hMem with ⟨a, hIn, rfl⟩
    exact commas_le_of_hasReadableNames (hNames a hIn) hPerson
      name hName

/- What stands between the delimiters is read with its meaning. -/
theorem reads_readContent
    {s : Scanner}
    {kind : Text}
    {content : Content}
    {gapClose : Text}
    {delimiter : Delimiter}
    {more : Text}
    (hFaces : s.Faces
      (content.text ++ (gapClose ++ delimiter.closing :: more)))
    (hClose : gapClose.isBlank = true)
    (hKind : kind.lower = kind)
    (hFits : content.fits kind = true)
    (hWellFormed : content.isWellFormed = true)
    (hDefined : content.values.all (Expression.isDefined macros) =
      true)
    (hNames : content.hasReadableNames config macros = true) :
    (s.readContent config macros kind delimiter.closer).Reads
      (fun record => record = content.meaning config macros kind)
      more := by
  have hValues := List.all_eq_true.1 hDefined
  cases content with
  | definition a =>
      have hString : kind = "string".toList := eq_of_beq hFits
      rw [readContent, if_pos hString]
      exact reads_readDefinition hFaces hClose hWellFormed
        (hValues _ List.mem_cons_self)
  | preamble value =>
      have hPreamble : kind = "preamble".toList := eq_of_beq hFits
      have hString : ¬ kind = "string".toList := by
        rw [hPreamble]
        decide
      rw [readContent, if_neg hString, if_pos hPreamble]
      exact reads_readPreamble hFaces hClose hWellFormed
        (hValues _ List.mem_cons_self)
  | entry gap key slots =>
      rw [Content.fits, Bool.and_eq_true, Bool.and_eq_true,
        bne_iff_ne, bne_iff_ne, bne_iff_ne] at hFits
      rw [Content.isWellFormed, Bool.and_eq_true,
        Bool.and_eq_true] at hWellFormed
      rcases hWellFormed with ⟨⟨hGap, hKey⟩, hSlots⟩
      have hEntry : s.Faces (gap ++ (key ++
          fieldsText slots gapClose delimiter more)) := by
        simpa [Content.text, fieldsText] using hFaces
      rw [readContent, if_neg hFits.1.1, if_neg hFits.1.2,
        if_neg hFits.2]
      exact reads_readEntry hEntry hClose hKind hGap hKey hSlots
        (fun a hMem => hValues _ (List.mem_map_of_mem hMem))
        (List.all_eq_true.1 hNames)

/- A record is read up to what its delimiters enclose. -/
theorem readRecord_eq_readContent
    {s : Scanner}
    {gapKind kind gapOpen : Text}
    {delimiter : Delimiter}
    {after : Text}
    (hFaces : s.Faces
      (gapKind ++ (kind ++ (gapOpen ++ delimiter.opening :: after))))
    (hGap : gapKind.isBlank = true)
    (hName : Pattern.name.accepts kind = true)
    (hOpen : gapOpen.isBlank = true) :
    ∃ s₁ : Scanner, s₁.rest = after ∧
      s.readRecord config macros =
        s₁.readContent config macros kind.lower delimiter.closer := by
  have hOpening : Pattern.name.continues delimiter.opening = false :=
    by cases delimiter <;> rfl
  have hMark : delimiter.opener.literal? = some delimiter.opening := by
    cases delimiter <;> rfl
  have hFirst : [Pattern.openBrace, .openParen].find?
      (fun q => q.starts delimiter.opening) =
        some delimiter.opener := by
    cases delimiter <;> rfl
  have hCloser : delimiter.opener.closer?.getD .closeBrace =
      delimiter.closer := by
    cases delimiter <;> rfl
  rcases reads_require_one hFaces hGap hName
    (Pattern.stopsAt_append hOpen (Pattern.stopsAt_cons hOpening))
    with ⟨name, s₁, hKind, hToken, hRest₁⟩
  rcases reads_require_mark (faces_of_rest hRest₁) hOpen hMark hFirst
    with ⟨opener, s₂, hOpener, hIs, hRest₂⟩
  refine ⟨s₂, hRest₂, ?_⟩
  rw [readRecord, hKind, Scanned.andThen_ok, hOpener,
    Scanned.andThen_ok, hToken.2, hIs.1, hCloser]

/- A record is read with its meaning from its at sign on. -/
theorem reads_readRecord
    {s : Scanner}
    {b : Block}
    {more : Text}
    (hRest : '@' :: s.rest = b.text ++ more)
    (hWellFormed : b.isWellFormed = true)
    (hDefined : b.content.values.all (Expression.isDefined macros) =
      true)
    (hNames : b.content.hasReadableNames config macros = true) :
    (s.readRecord config macros).Reads
      (fun record => record = b.meaning config macros) more := by
  rw [Block.isWellFormed] at hWellFormed
  simp only [Bool.and_eq_true] at hWellFormed
  rcases hWellFormed with
    ⟨⟨⟨⟨⟨hGap, hName⟩, hOpen⟩, hFits⟩, hContent⟩, hClose⟩
  have hText : b.text ++ more = '@' :: (b.gapKind ++ (b.kind ++
      (b.gapOpen ++ b.delimiter.opening :: (b.content.text ++
        (b.gapClose ++ b.delimiter.closing :: more))))) := by
    simp [Block.text]
  have hLower : b.kind.lower.lower = b.kind.lower :=
    Text.lower_lower_of_isAscii (Pattern.isAscii_of_accepts_name hName)
  rcases @readRecord_eq_readContent config macros s _ _ _ _ _
    (faces_of_rest (List.cons.inj (hRest.trans hText)).2) hGap hName
    hOpen with ⟨s₁, hRest₁, hRead⟩
  rw [hRead]
  exact reads_readContent (faces_of_rest hRest₁) hClose hLower hFits
    hContent hDefined hNames

end Scanner

------------------------------------------------------------
-- Tables from Records
------------------------------------------------------------

namespace Grammar

/- The items whose keys are not among some earlier ones. -/
def newItems
    (earlier : List Text)
    (items : List (Text × Entry)) : List (Text × Entry) :=
  (items.filter (fun item =>
    !earlier.any (fun k => Table.sameKey k item.1))).eraseDupsBy
      (fun a b => Table.sameKey a.1 b.1)

/- A key that is among the earlier ones adds nothing to them. -/
theorem any_cons_sameKey
    {earlier : List Text}
    {key : Text}
    (h : earlier.any (fun k => Table.sameKey k key) = true)
    (other : Text) :
    (key :: earlier).any (fun k => Table.sameKey k other) =
      earlier.any (fun k => Table.sameKey k other) := by
  rw [List.any_cons]
  cases hSame : Table.sameKey key other with
  | false => rfl
  | true =>
      have hLower : key.lower = other.lower := eq_of_beq hSame
      rw [Bool.true_or, ← h]
      refine congrArg earlier.any (funext ?_)
      intro k
      rw [Table.sameKey, Table.sameKey, hLower]

/- An item with an earlier key does not count. -/
theorem newItems_of_any
    {earlier : List Text}
    {item : Text × Entry}
    (h : earlier.any (fun k => Table.sameKey k item.1) = true)
    (rest : List (Text × Entry)) :
    newItems earlier (item :: rest) =
      newItems (item.1 :: earlier) rest := by
  simp only [newItems, any_cons_sameKey h]
  rw [List.filter_cons_of_neg (by simp [h])]

/- An item with a new key counts, and its key is an earlier one. -/
theorem newItems_of_not_any
    {earlier : List Text}
    {item : Text × Entry}
    (h : earlier.any (fun k => Table.sameKey k item.1) = false)
    (rest : List (Text × Entry)) :
    newItems earlier (item :: rest) =
      item :: newItems (item.1 :: earlier) rest := by
  have hFilter :
      (rest.filter (fun b =>
          !earlier.any (fun k => Table.sameKey k b.1))).filter
          (fun b => decide (Table.sameKey b.1 item.1 = false)) =
        rest.filter (fun b =>
          !(item.1 :: earlier).any
            (fun k => Table.sameKey k b.1)) := by
    rw [List.filter_filter]
    apply List.filter_congr
    intro b _
    rw [List.any_cons, Table.sameKey_comm item.1 b.1]
    cases Table.sameKey b.1 item.1 <;> simp
  rw [newItems, List.filter_cons_of_pos (by simp [h]),
    List.eraseDupsBy_cons, hFilter]
  rfl

end Grammar

namespace Database

open Grammar

variable {config : ParserConfig}

/- The keys of a database are some earlier keys, up to case. -/
def HasKeys
    (db : Database)
    (earlier : List Text) : Prop :=
  ∀ key, db.table.contains key =
    earlier.any (fun k => Table.sameKey k key)

/- A key that is inserted is among the keys. -/
theorem HasKeys.append
    {db : Database}
    {earlier : List Text}
    (h : db.HasKeys earlier)
    (key : Text)
    (e : Entry)
    (errors : List Error) :
    HasKeys
      { table :=
          { db.table with
            entries := db.table.entries ++ [(key, e)] }
        macros := db.macros
        diagnostics := errors }
      (key :: earlier) := by
  intro other
  have hOld := h other
  rw [Table.contains_eq_any] at hOld ⊢
  rw [List.any_append, hOld, List.any_cons, List.any_cons,
    List.any_nil, Bool.or_false, Bool.or_comm]

/- The complaints about repeated fields of an entry. -/
def repeatComplaints
    (key : Text)
    (repeated : List Text) : List Error :=
  repeated.map (fun f => .of (.repeatedField key f))

/- An entry under a key that has one already is only reported. -/
theorem addRecord_entry_of_contains
    {db : Database}
    {key : Text}
    (h : db.table.contains key = true)
    (e : Entry)
    (repeated : List Text) :
    db.addRecord (.entry key e repeated) =
      { db with
        diagnostics :=
          db.diagnostics ++ repeatComplaints key repeated ++
            [.of (.duplicateKey key)] } := by
  unfold addRecord
  simp only [report, Table.tryInsert, h, if_true]
  rfl

/- An entry under a new key is added to the others. -/
theorem addRecord_entry_of_not_contains
    {db : Database}
    {key : Text}
    (h : db.table.contains key = false)
    (e : Entry)
    (repeated : List Text) :
    db.addRecord (.entry key e repeated) =
      { table :=
          { db.table with
            entries := db.table.entries ++ [(key, e)] }
        macros := db.macros
        diagnostics :=
          db.diagnostics ++ repeatComplaints key repeated } := by
  unfold addRecord
  simp only [report, Table.tryInsert, h, Bool.false_eq_true,
    if_false]
  exact congrArg _ (List.append_nil _)

/-
  Taking in records one after the other adds their new items,
  their fragments, their macros and their complaints.
-/
theorem foldl_addRecord
    {records : List Record}
    {db : Database}
    {earlier : List Text}
    (hKeys : db.HasKeys earlier) :
    records.foldl addRecord db =
      { table :=
          { entries :=
              db.table.entries ++
                newItems earlier (records.filterMap entryOf)
            preamble :=
              db.table.preamble ++ records.filterMap fragmentOf }
        macros := records.foldl MacroTable.after db.macros
        diagnostics :=
          db.diagnostics ++ complaints earlier records } := by
  induction records generalizing db earlier with
  | nil => simp [newItems, complaints]
  | cons record rest ih =>
      rw [List.foldl_cons]
      cases record with
      | entry key e repeated =>
          have hContains := hKeys key
          rw [List.filterMap_cons, List.filterMap_cons,
            List.foldl_cons, complaints]
          dsimp only [entryOf, fragmentOf, MacroTable.after]
          cases hAny : earlier.any (fun k => Table.sameKey k key) with
          | true =>
              rw [hAny] at hContains
              have hAfter : (db.addRecord
                  (.entry key e repeated)).HasKeys
                    (key :: earlier) := by
                rw [addRecord_entry_of_contains hContains]
                intro other
                rw [any_cons_sameKey hAny]
                exact hKeys other
              rw [ih hAfter, addRecord_entry_of_contains hContains,
                @newItems_of_any earlier (key, e) hAny]
              simp [repeatComplaints]
          | false =>
              rw [hAny] at hContains
              have hAfter : (db.addRecord
                  (.entry key e repeated)).HasKeys
                    (key :: earlier) := by
                rw [addRecord_entry_of_not_contains hContains]
                exact hKeys.append key e _
              rw [ih hAfter,
                addRecord_entry_of_not_contains hContains,
                @newItems_of_not_any earlier (key, e) hAny]
              simp [repeatComplaints]
      | definition name text =>
          rw [@ih (db.addRecord (.definition name text)) _ hKeys]
          rfl
      | preamble fragment =>
          rw [@ih (db.addRecord (.preamble fragment)) _ hKeys]
          simp [addRecord, Table.addPreamble, complaints,
            MacroTable.after, List.filterMap_cons, entryOf,
            fragmentOf]
      | comment =>
          rw [@ih (db.addRecord .comment) _ hKeys]
          rfl

/- Before the first record there are no keys. -/
theorem hasKeys_initial (config : ParserConfig) :
    (initial config).HasKeys [] :=
  fun _ => rfl

------------------------------------------------------------
-- Documents
------------------------------------------------------------

/- Taking in a record leaves the macros that hold after it. -/
theorem macros_addRecord
    (db : Database)
    (record : Record) :
    (db.addRecord record).macros = db.macros.after record := by
  cases record with
  | entry key e repeated =>
      rfl
  | definition name text => rfl
  | preamble fragment => rfl
  | comment => rfl

/- The loop takes in the first record of a text. -/
theorem readRecords_block
    {db : Database}
    {s : Scanner}
    {junk more : Text}
    {b : Block}
    (hRest : s.rest = junk ++ (b.text ++ more))
    (hJunk : '@' ∉ junk)
    (hWellFormed : b.isWellFormed = true)
    (hDefined : b.content.values.all
      (Expression.isDefined db.macros) = true)
    (hNames : b.content.hasReadableNames config db.macros = true) :
    ∃ s' : Scanner, s'.rest = more ∧
      readRecords config db s =
        readRecords config
          (db.addRecord (b.meaning config db.macros)) s' := by
  have hAt : ∃ inner, b.text = '@' :: inner := ⟨_, rfl⟩
  rcases hAt with ⟨inner, hInner⟩
  have hSplit : s.rest = junk ++ '@' :: (inner ++ more) := by
    rw [hRest, hInner, List.cons_append]
  rcases Scanner.skipTo_atSign hSplit hJunk with
    ⟨t, s₁, hSkip, hRest₁⟩
  have hText : '@' :: s₁.rest = b.text ++ more := by
    rw [hRest₁, hInner, List.cons_append]
  rcases Scanner.reads_readRecord hText hWellFormed hDefined hNames
    with ⟨record, s₂, hRead, rfl, hRest₂⟩
  refine ⟨s₂, hRest₂, ?_⟩
  rw [readRecords, hSkip]
  simp only [hRead]
  rfl

/- The loop takes in records, whatever text follows them. -/
theorem readRecords_append
    {blocks : List (Text × Block)}
    {db : Database}
    {s : Scanner}
    {more : Text}
    (hRest : s.rest =
      blocks.flatMap (fun item => item.1 ++ item.2.text) ++ more)
    (hWellFormed : ∀ item ∈ blocks,
      '@' ∉ item.1 ∧ item.2.isWellFormed = true)
    (hDefined : holdsThroughout config
      (fun macros b =>
        b.content.values.all (Expression.isDefined macros))
      db.macros (blocks.map (fun item => item.2)) = true)
    (hNames : holdsThroughout config
      (fun macros b => b.content.hasReadableNames config macros)
      db.macros (blocks.map (fun item => item.2)) = true) :
    ∃ s' : Scanner, s'.rest = more ∧
      readRecords config db s =
        readRecords config
          ((meanings config db.macros
            (blocks.map (fun item => item.2))).foldl addRecord db)
          s' := by
  induction blocks generalizing db s with
  | nil => exact ⟨s, hRest, rfl⟩
  | cons item rest ih =>
      rcases List.forall_mem_cons.1 hWellFormed with
        ⟨⟨hJunk, hBlock⟩, hBlocks⟩
      rw [List.map_cons, holdsThroughout, Bool.and_eq_true]
        at hDefined hNames
      have hSplit : s.rest = item.1 ++ (item.2.text ++
          (rest.flatMap (fun item => item.1 ++ item.2.text) ++
            more)) := by
        rw [hRest]
        simp
      rcases readRecords_block hSplit hJunk hBlock hDefined.1
        hNames.1 with ⟨s₁, hRest₁, hStep⟩
      have hMacros := macros_addRecord db
        (item.2.meaning config db.macros)
      rw [← hMacros] at hDefined hNames
      rcases ih hRest₁ hBlocks hDefined.2 hNames.2 with
        ⟨s₂, hRest₂, hMore⟩
      refine ⟨s₂, hRest₂, ?_⟩
      rw [hStep, hMore, List.map_cons, meanings, List.foldl_cons,
        hMacros]

/- The loop takes in what the records of a document say. -/
theorem readRecords_blocks
    {blocks : List (Text × Block)}
    {tail : Text}
    {db : Database}
    {s : Scanner}
    (hRest : s.rest = (Document.mk blocks tail).text)
    (hWellFormed : (Document.mk blocks tail).isWellFormed = true)
    (hDefined : holdsThroughout config
      (fun macros b =>
        b.content.values.all (Expression.isDefined macros))
      db.macros (blocks.map (fun item => item.2)) = true)
    (hNames : holdsThroughout config
      (fun macros b => b.content.hasReadableNames config macros)
      db.macros (blocks.map (fun item => item.2)) = true) :
    readRecords config db s =
      (meanings config db.macros
        (blocks.map (fun item => item.2))).foldl addRecord db := by
  rcases Document.isWellFormed_iff.1 hWellFormed with
    ⟨hBlocks, hTail⟩
  rcases readRecords_append hRest hBlocks hDefined hNames with
    ⟨s', hRest', hRun⟩
  have hNone : '@' ∉ s'.rest := by
    rw [hRest']
    exact hTail
  rw [hRun, readRecords, Scanner.skipTo_atSign_of_not_mem hNone]

/- The records of a text, taken in from the first one on. -/
theorem foldl_addRecord_initial
    (config : ParserConfig)
    (records : List Record) :
    records.foldl addRecord (initial config) =
      { table := tableOf records
        macros := records.foldl MacroTable.after config.macros
        diagnostics := complaints [] records } := by
  have hItems :
      newItems [] (records.filterMap entryOf) =
        (records.filterMap entryOf).eraseDupsBy
          (fun a b => Table.sameKey a.1 b.1) := by
    unfold newItems
    have hAll :
        (records.filterMap entryOf).filter
            (fun item =>
              !([] : List Text).any
                (fun k => Table.sameKey k item.1)) =
          records.filterMap entryOf :=
      List.filter_eq_self.2 (fun _ _ => rfl)
    rw [hAll]
  rw [foldl_addRecord (hasKeys_initial config), hItems]
  rfl

/-
  Every layout of a well-formed document is read as what the
  document says, if its macros are defined where they stand and
  the names in its person fields have two commas at most.
-/
theorem parse_text
    (config : ParserConfig)
    (d : Document)
    (hWellFormed : d.isWellFormed = true)
    (hDefined : d.isDefined config = true)
    (hNames : d.hasReadableNames config = true) :
    parse config d.text = d.meaning config := by
  have hRun := @readRecords_blocks config d.blocks d.tail
    (initial config) (.ofText d.text) rfl hWellFormed hDefined
    hNames
  rw [parse, hRun]
  exact foldl_addRecord_initial config _

end Database

/-
  A macro in parentheses, a preamble, and an entry with an empty
  slot and a repeated field, laid out in different ways.
-/
def Grammar.Document.sample : Document where
  blocks :=
    [("Notes\n".toList,
      { gapKind := " ".toList
        kind := "String".toList
        gapOpen := []
        delimiter := .parens
        content := .definition
          { gap := "\n".toList
            name := "ed".toList
            gapEquals := []
            value := .single [] (.quoted
              "Ann \x7b\"\x7dLee\x7b\"\x7d ".toList) }
        gapClose := " ".toList }),
     ([],
      { gapKind := []
        kind := "preamble".toList
        gapOpen := " ".toList
        delimiter := .braces
        content := .preamble
          (.joined [] (.number "7".toList) " ".toList
            (.single [] (.braced "a@b, \x7bc\x7d".toList)))
        gapClose := [] }),
     ("\n".toList,
      { gapKind := []
        kind := "Book".toList
        gapOpen := []
        delimiter := .braces
        content := .entry [] "lee@7".toList
          [{ gap := [], assignment := none },
           { gap := " ".toList
             assignment := some
              { gap := "\n ".toList
                name := "Editor".toList
                gapEquals := " ".toList
                value := .joined " ".toList
                  (.abbreviation "ED".toList) " ".toList
                  (.single " ".toList
                    (.quoted " and Roe, Jo".toList)) } },
           { gap := []
             assignment := some
              { gap := []
                name := "year".toList
                gapEquals := []
                value := .single [] (.number "1999".toList) } },
           { gap := []
             assignment := some
              { gap := []
                name := "YEAR".toList
                gapEquals := []
                value := .single [] (.braced []) } }]
        gapClose := "\n".toList })]
  tail := "\nEnd".toList

namespace Database

open Grammar

theorem parse_text_sample :
    Document.sample.isWellFormed = true ∧
      Document.sample.isDefined .standard = true ∧
      Document.sample.hasReadableNames .standard = true ∧
      parse .standard Document.sample.text =
        Document.sample.meaning .standard := by
  have hWellFormed : Document.sample.isWellFormed = true := by
    decide +kernel
  have hDefined : Document.sample.isDefined .standard = true := by
    decide +kernel
  have hNames :
      Document.sample.hasReadableNames .standard = true := by
    decide +kernel
  exact ⟨hWellFormed, hDefined, hNames,
    parse_text _ _ hWellFormed hDefined hNames⟩

end Database

end Bibliography
