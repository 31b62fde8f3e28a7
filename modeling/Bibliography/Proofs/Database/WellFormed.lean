import Bibliography.Database.Document
import Bibliography.Proofs.Database.Body
import Bibliography.Proofs.Person.Words
import Bibliography.Proofs.SortedMap
import Bibliography.Proofs.Table.Keys

/-
  What every table that has been read is like.

  Keys and names are tokens, names are in lower case, values are
  balanced and have single blanks, and the parts of persons are
  made of words.  Every step of the reader ensures its part of this,
  as long as the macros are balanced, which they stay.

  Key definitions include:
    * `Entry.WellFormed`
    * `Table.WellFormed`
    * `Database.WellFormed`

  Key statements include:
    * `Scanner.ensures_readFields`
    * `Scanner.ensures_readRecord`
    * `Database.wellFormed_parse`
    * `Database.table_parse_wellFormed`
-/

------------------------------------------------------------
-- Well-Formed Tables
------------------------------------------------------------

namespace Bibliography

namespace Text

/- A value as it is stored: balanced, with single blanks. -/
structure IsValue (t : Text) : Prop where
  balanced : t.isBalanced = true
  normalized : t.normalizeSpace = t

/- A name as it is stored: a token in lower case. -/
structure IsLowerName (t : Text) : Prop where
  token : Pattern.name.accepts t = true
  lower : t.lower = t

/-
  A key as it is stored: it is not empty, and has neither white
  space nor a character that ends a key.
-/
structure IsCitationKey (t : Text) : Prop where
  nonempty : t ≠ []
  plain : ∀ c ∈ t,
    Character.isSpace c = false ∧ c ∉ Pattern.keyStops

/- A key that has been read is stored as it is. -/
theorem isCitationKey_of_accepts
    {t : Text}
    (h : Pattern.key.accepts t = true) : t.IsCitationKey := by
  rcases Pattern.accepts_iff.1 h with ⟨c, rest, rfl, hStart, hRest⟩
  have hChars : ∀ d ∈ c :: rest, Pattern.isKeyChar d = true :=
    List.forall_mem_cons.2 ⟨hStart, hRest⟩
  refine ⟨List.cons_ne_nil _ _, fun d hMem => ?_⟩
  simpa [Pattern.isKeyChar] using hChars d hMem

/- A balanced text becomes a value. -/
theorem isValue_normalizeSpace
    {t : Text}
    (h : t.isBalanced = true) : t.normalizeSpace.IsValue :=
  ⟨isBalanced_normalizeSpace h, normalizeSpace_normalizeSpace t⟩

/- A name that has been read is stored in lower case. -/
theorem isLowerName_lower
    {t : Text}
    (h : Pattern.name.accepts t = true) : t.lower.IsLowerName :=
  ⟨Pattern.accepts_name_lower h,
    lower_lower_of_isAscii (Pattern.isAscii_of_accepts_name h)⟩

/- A number has no braces. -/
theorem isBalanced_of_accepts_number
    {t : Text}
    (h : Pattern.number.accepts t = true) :
    t.isBalanced = true := by
  have hDigit : ∀ c ∈ t, c.isDigit = true := by
    rcases Pattern.accepts_iff.1 h with ⟨c, rest, rfl, hStart, hRest⟩
    exact List.forall_mem_cons.2 ⟨hStart, hRest⟩
  refine isBalanced_of_forall_not ?_
  intro c hMem
  refine Bool.eq_false_iff.2 ?_
  intro hBrace
  rw [isBrace, Bool.or_eq_true, beq_iff_eq, beq_iff_eq] at hBrace
  rcases hBrace with rfl | rfl
  · exact absurd (hDigit _ hMem) (by decide)
  · exact absurd (hDigit _ hMem) (by decide)

end Text

/- The texts of all macros are balanced. -/
def MacroTable.IsBalanced (m : MacroTable) : Prop :=
  ∀ item ∈ m.texts.items, item.2.isBalanced = true

namespace Entry

/- The kinds of records that are no entries. -/
def reservedKinds : List Text :=
  ["string".toList, "preamble".toList, "comment".toList]

/- An entry as it is read, without number and label. -/
structure WellFormed
    (config : ParserConfig)
    (e : Entry) : Prop where
  kind : e.entryType.IsLowerName
  notReserved : e.entryType ∉ reservedKinds
  fields : ∀ item ∈ e.fields.items,
    item.1.IsLowerName ∧ config.isPersonField item.1 = false ∧
      item.2.IsValue
  persons : ∀ item ∈ e.persons.items,
    item.1.IsLowerName ∧ config.isPersonField item.1 = true ∧
      item.2 ≠ [] ∧ ∀ p ∈ item.2, p.IsWellFormed
  number : e.number = none
  label : e.label = none

end Entry

namespace Table

/- A table as it is read. -/
structure WellFormed
    (config : ParserConfig)
    (t : Table) : Prop where
  keys : ∀ item ∈ t.entries, Pattern.key.accepts item.1 = true
  distinct : t.entries.Pairwise
    (fun a b => sameKey a.1 b.1 = false)
  entries : ∀ item ∈ t.entries, item.2.WellFormed config
  preamble : ∀ fragment ∈ t.preamble, fragment.IsValue

end Table

/- What a record says fits into a table. -/
def Record.WellFormed
    (config : ParserConfig) : Record → Prop
  | .entry key e _ =>
      Pattern.key.accepts key = true ∧ e.WellFormed config
  | .definition _ text => text.isBalanced = true
  | .preamble fragment => fragment.IsValue
  | .comment => True

/- A database under way. -/
structure Database.WellFormed
    (config : ParserConfig)
    (db : Database) : Prop where
  table : db.table.WellFormed config
  macros : db.macros.IsBalanced

------------------------------------------------------------
-- Entries
------------------------------------------------------------

namespace MacroTable

/- The text of a macro is balanced. -/
theorem IsBalanced.get?
    {m : MacroTable}
    (h : m.IsBalanced)
    {name text : Text}
    (hText : m.get? name = some text) :
    text.isBalanced = true :=
  h (name.lower, text) (SortedMap.mem_items_iff.2 hText)

/- A balanced definition may be added. -/
theorem IsBalanced.define
    {m : MacroTable}
    (h : m.IsBalanced)
    {text : Text}
    (name : Text)
    (hText : text.isBalanced = true) :
    (m.define name text).IsBalanced := by
  intro item hMem
  rcases SortedMap.mem_of_mem_insertItem hMem with rfl | hOld
  · exact hText
  · exact h item hOld

end MacroTable

namespace Entry

variable {config : ParserConfig}
variable {e : Entry}

/- An entry without fields is well formed. -/
theorem wellFormed_ofType
    {kind : Text}
    (hKind : kind.IsLowerName)
    (hNotReserved : kind ∉ reservedKinds) :
    (ofType kind).WellFormed config where
  kind := by
    rw [ofType, hKind.lower]
    exact hKind
  notReserved := by
    rw [ofType, hKind.lower]
    exact hNotReserved
  fields := by simp [ofType, SortedMap.empty]
  persons := by simp [ofType, SortedMap.empty]
  number := rfl
  label := rfl

/- A plain field may be added. -/
theorem WellFormed.insertField
    (h : e.WellFormed config)
    {name value : Text}
    (hName : name.IsLowerName)
    (hPlain : config.isPersonField name = false)
    (hValue : value.IsValue) :
    (e.insertField name value).WellFormed config := by
  unfold Entry.insertField
  rw [hName.lower]
  split
  · exact h
  · refine { h with fields := ?_ }
    intro item hMem
    rcases SortedMap.mem_of_mem_insertItem hMem with rfl | hOld
    · exact ⟨hName, hPlain, hValue⟩
    · exact h.fields item hOld

/- A person of words may be added to a role. -/
theorem WellFormed.addPerson
    (h : e.WellFormed config)
    {role : Text}
    {p : Person}
    (hRole : role.IsLowerName)
    (hPerson : config.isPersonField role = true)
    (hWords : p.IsWellFormed) :
    (e.addPerson role p).WellFormed config := by
  have hOld : ∀ q ∈ e.personsOf role, q.IsWellFormed := by
    intro q hMem
    rw [personsOf, hRole.lower] at hMem
    cases hFound : e.persons.get? role with
    | none => simp [hFound] at hMem
    | some persons =>
        rw [hFound] at hMem
        have hItem := h.persons (role, persons)
          (SortedMap.mem_items_iff.2 hFound)
        exact hItem.2.2.2 q hMem
  refine { h with persons := ?_ }
  intro item hMem
  rcases SortedMap.mem_of_mem_insertItem hMem with rfl | hItem
  · rw [hRole.lower]
    refine ⟨hRole, hPerson, by simp, ?_⟩
    intro q hIn
    rcases List.mem_append.1 hIn with hIn | hIn
    · exact hOld q hIn
    · rw [List.mem_singleton.1 hIn]
      exact hWords
  · exact h.persons item hItem

end Entry

namespace Draft

variable {config : ParserConfig}

/- Balanced names may be added to a role. -/
theorem wellFormed_of_addPersons
    {role : Text}
    {names : List Text}
    {e e' : Entry}
    (h : e.WellFormed config)
    (hRole : role.IsLowerName)
    (hPerson : config.isPersonField role = true)
    (hNames : ∀ name ∈ names, name.isBalanced = true)
    (hAdd : addPersons role names e = .ok e') :
    e'.WellFormed config := by
  induction names generalizing e with
  | nil =>
      cases hAdd
      exact h
  | cons name rest ih =>
      rcases List.forall_mem_cons.1 hNames with ⟨hFirst, hRest⟩
      unfold addPersons at hAdd
      split at hAdd
      · cases hAdd
      · rename_i p hParse
        have hWords := Person.isWellFormed_of_parse hFirst hParse
        exact ih (h.addPerson hRole hPerson hWords) hRest hAdd

/- A field with a value may be added. -/
theorem wellFormed_of_addField
    {d d' : Draft}
    {name value : Text}
    (h : d.entry.WellFormed config)
    (hName : name.IsLowerName)
    (hValue : value.IsValue)
    (hAdd : d.addField config name value = .ok d') :
    d'.entry.WellFormed config := by
  unfold addField at hAdd
  split at hAdd
  · cases hAdd
    exact h
  · split at hAdd
    · rename_i hPerson
      cases hPersons : addPersons name value.splitNames d.entry with
      | error err =>
          rw [hPersons] at hAdd
          cases hAdd
      | ok e =>
          rw [hPersons] at hAdd
          cases hAdd
          refine wellFormed_of_addPersons h hName hPerson ?_ hPersons
          intro part hMem
          exact Text.isBalanced_of_mem_splitNames hValue.balanced hMem
    · rename_i hPlain
      cases hAdd
      exact h.insertField hName (Bool.eq_false_iff.2 hPlain) hValue

end Draft

------------------------------------------------------------
-- Reading Steps
------------------------------------------------------------

namespace Scanner

variable {config : ParserConfig}
variable {macros : MacroTable}

/- A part is balanced, whatever its form. -/
theorem ensures_readPart
    (hMacros : macros.IsBalanced)
    (s : Scanner) :
    (s.readPart macros).Ensures
      (fun part => part.isBalanced = true) := by
  have hBody : ∀ (quoted : Bool) (s : Scanner),
      (s.readBody quoted).Ensures
        (fun part => part.isBalanced = true) := by
    intro quoted s body hOk
    have hRead : s.readBody quoted =
        (.ok body, (s.readBody quoted).2) := Prod.ext hOk rfl
    exact Text.isBalanced_of_isBody (isBody_of_readBody hRead)
  unfold readPart
  refine (ensures_require s _).andThen ?_
  intro t s₁ hToken
  split
  · exact hBody true s₁
  · exact hBody false s₁
  · rename_i hNumber
    rw [hNumber] at hToken
    exact Scanned.ensures_ok _
      (Text.isBalanced_of_accepts_number hToken.2)
  · split
    · rename_i text hText
      exact Scanned.ensures_ok _ (hMacros.get? hText)
    · exact Scanned.ensures_error _ _ _

/- The parts of a value are balanced together. -/
theorem ensures_readParts
    (hMacros : macros.IsBalanced)
    (s : Scanner) :
    (s.readParts macros).Ensures
      (fun text => text.isBalanced = true) := by
  have hPart := ensures_readPart hMacros
  fun_induction readParts macros s with
  | case1 s e s₁ hRead => exact Scanned.ensures_error _ _ _
  | case2 s part s₁ hRead e s₂ hNext =>
      exact Scanned.ensures_error _ _ _
  | case3 s part s₁ hRead s₂ hNext =>
      have hFirst := hPart s
      rw [hRead] at hFirst
      exact Scanned.ensures_ok _ (hFirst part rfl)
  | case4 s part s₁ hRead t s₂ hNext e s₃ hMore ih =>
      exact Scanned.ensures_error _ _ _
  | case5 s part s₁ hRead t s₂ hNext more s₃ hMore ih =>
      have hFirst := hPart s
      rw [hRead] at hFirst
      rw [hMore] at ih
      exact Scanned.ensures_ok _
        (Text.isBalanced_append (hFirst part rfl) (ih more rfl))

/- What is read as a value is one. -/
theorem ensures_readValue
    (hMacros : macros.IsBalanced)
    (s : Scanner) :
    (s.readValue macros).Ensures Text.IsValue := by
  unfold readValue
  refine (ensures_readParts hMacros s).andThen ?_
  intro text s₁ hText
  exact Scanned.ensures_ok _ (Text.isValue_normalizeSpace hText)

theorem ensures_readAssigned
    (hMacros : macros.IsBalanced)
    (s : Scanner) :
    (s.readAssigned macros).Ensures Text.IsValue := by
  unfold readAssigned
  refine (ensures_require s _).andThen ?_
  intro t s₁ _
  exact ensures_readValue hMacros s₁

/- Fields keep an entry well formed. -/
theorem ensures_readFields
    (hMacros : macros.IsBalanced)
    (close : Pattern)
    {d : Draft}
    (hDraft : d.entry.WellFormed config)
    (s : Scanner) :
    (s.readFields config macros close d).Ensures
      (fun d' => d'.entry.WellFormed config) := by
  fun_induction readFields config macros close d s with
  | case1 d s e s₁ hRequire => exact Scanned.ensures_error _ _ _
  | case2 d s separator s₁ hRequire hPattern =>
      exact Scanned.ensures_ok _ hDraft
  | case3 d s separator s₁ hRequire hPattern e s₂ hNext =>
      exact Scanned.ensures_error _ _ _
  | case4 d s separator s₁ hRequire hPattern s₂ hNext ih =>
      exact ih hDraft
  | case5 d s separator s₁ hRequire hPattern name s₂ hNext e s₃
      hValue =>
      exact Scanned.ensures_error _ _ _
  | case6 d s separator s₁ hRequire hPattern name s₂ hNext value
      s₃ hValue e hField =>
      exact Scanned.ensures_error _ _ _
  | case7 d s separator s₁ hRequire hPattern name s₂ hNext value
      s₃ hValue d' hField ih =>
      have hName := ensures_nextToken s₁ [.name]
      rw [hNext] at hName
      have hToken := hName _ rfl name rfl
      rw [List.mem_singleton.1 hToken.1] at hToken
      have hAssigned := ensures_readAssigned hMacros s₂
      rw [hValue] at hAssigned
      exact ih (Draft.wellFormed_of_addField hDraft
        (Text.isLowerName_lower hToken.2) (hAssigned value rfl)
        hField)

/- An entry is well formed, if its kind is one of entries. -/
theorem ensures_readEntry
    (hMacros : macros.IsBalanced)
    {kind : Text}
    (hKind : kind.IsLowerName)
    (hNotReserved : kind ∉ Entry.reservedKinds)
    (close : Pattern)
    (s : Scanner) :
    (s.readEntry config macros kind close).Ensures
      (Record.WellFormed config) := by
  unfold readEntry
  refine (ensures_require_one s .key).andThen ?_
  intro key s₁ hKey
  have hDraft : (Draft.ofType kind).entry.WellFormed config :=
    Entry.wellFormed_ofType hKind hNotReserved
  refine (ensures_readFields hMacros close hDraft s₁).andThen ?_
  intro d s₂ hEntry
  exact Scanned.ensures_ok _ ⟨hKey, hEntry⟩

theorem ensures_readDefinition
    (hMacros : macros.IsBalanced)
    (close : Pattern)
    (s : Scanner) :
    (s.readDefinition macros close).Ensures
      (Record.WellFormed config) := by
  unfold readDefinition
  refine (ensures_require s _).andThen ?_
  intro name s₁ _
  refine (ensures_readAssigned hMacros s₁).andThen ?_
  intro text s₂ hText
  refine (ensures_require s₂ _).andThen ?_
  intro t s₃ _
  exact Scanned.ensures_ok _ hText.balanced

theorem ensures_readPreamble
    (hMacros : macros.IsBalanced)
    (close : Pattern)
    (s : Scanner) :
    (s.readPreamble macros close).Ensures
      (Record.WellFormed config) := by
  unfold readPreamble
  refine (ensures_readValue hMacros s).andThen ?_
  intro text s₁ hText
  refine (ensures_require s₁ _).andThen ?_
  intro t s₂ _
  exact Scanned.ensures_ok _ hText

/- What is read as a record is well formed. -/
theorem ensures_readRecord
    (hMacros : macros.IsBalanced)
    (s : Scanner) :
    (s.readRecord config macros).Ensures
      (Record.WellFormed config) := by
  unfold readRecord
  refine (ensures_require_one s .name).andThen ?_
  intro name s₁ hName
  refine (ensures_require s₁ _).andThen ?_
  intro opener s₂ _
  unfold readContent
  split
  · exact ensures_readDefinition hMacros _ s₂
  · rename_i hString
    split
    · exact ensures_readPreamble hMacros _ s₂
    · rename_i hPreamble
      split
      · exact Scanned.ensures_ok _ trivial
      · rename_i hComment
        refine ensures_readEntry hMacros
          (Text.isLowerName_lower hName) ?_ _ s₂
        intro hMem
        rw [Entry.reservedKinds, List.mem_cons, List.mem_cons,
          List.mem_singleton] at hMem
        rcases hMem with hKind | hKind | hKind
        · exact hString hKind
        · exact hPreamble hKind
        · exact hComment hKind

end Scanner

------------------------------------------------------------
-- Databases
------------------------------------------------------------

namespace Table

variable {config : ParserConfig}

/- Of the settings only the person fields matter. -/
theorem WellFormed.congr
    {config' : ParserConfig}
    {t : Table}
    (h : t.WellFormed config)
    (hFields : config'.personFields = config.personFields) :
    t.WellFormed config' := by
  have hPerson : config'.isPersonField = config.isPersonField := by
    unfold ParserConfig.isPersonField
    rw [hFields]
  refine { h with entries := ?_ }
  intro item hMem
  have hEntry := h.entries item hMem
  refine { hEntry with fields := ?_, persons := ?_ }
  · rw [hPerson]
    exact hEntry.fields
  · rw [hPerson]
    exact hEntry.persons

/- A well-formed entry may be inserted under a proper key. -/
theorem WellFormed.tryInsert
    {t : Table}
    {key : Text}
    {e : Entry}
    (h : t.WellFormed config)
    (hKey : Pattern.key.accepts key = true)
    (hEntry : e.WellFormed config) :
    (t.tryInsert key e).2.WellFormed config := by
  rcases t.tryInsert_cases key e with hTry | ⟨hNew, hTry⟩
  · rwa [hTry]
  rw [hTry]
  refine ⟨?_, ?_, ?_, h.preamble⟩
  · intro item hMem
    rcases List.mem_append.1 hMem with hIn | hIn
    · exact h.keys item hIn
    · rw [List.mem_singleton.1 hIn]
      exact hKey
  · refine List.pairwise_append.2
      ⟨h.distinct, List.pairwise_singleton _ _, ?_⟩
    intro item hMem other hOther
    rw [List.mem_singleton.1 hOther]
    exact hNew item hMem
  · intro item hMem
    rcases List.mem_append.1 hMem with hIn | hIn
    · exact h.entries item hIn
    · rw [List.mem_singleton.1 hIn]
      exact hEntry

/- The keys of a well-formed table differ in more than case. -/
theorem WellFormed.nodup_lower_keys
    {t : Table}
    (h : t.WellFormed config) : (t.keys.map Text.lower).Nodup := by
  rw [Table.keys, List.map_map, List.Nodup, List.pairwise_map]
  refine h.distinct.imp (fun hOther => ?_)
  rw [sameKey, beq_eq_false_iff_ne] at hOther
  exact hOther

end Table

namespace Database

variable {config : ParserConfig}
variable {db : Database}

/- A well-formed record may be taken in. -/
theorem WellFormed.addRecord
    (h : db.WellFormed config)
    {record : Record}
    (hRecord : record.WellFormed config) :
    (db.addRecord record).WellFormed config := by
  cases record with
  | entry key e repeated =>
      rcases hRecord with ⟨hKey, hEntry⟩
      exact ⟨h.table.tryInsert hKey hEntry, h.macros⟩
  | definition name text =>
      exact ⟨h.table, h.macros.define name hRecord⟩
  | preamble fragment =>
      refine ⟨{ h.table with preamble := ?_ }, h.macros⟩
      intro other hMem
      rcases List.mem_append.1 hMem with hIn | hIn
      · exact h.table.preamble other hIn
      · rw [List.mem_singleton.1 hIn]
        exact hRecord
  | comment => exact h

/- The loop over the records keeps a database well formed. -/
theorem wellFormed_readRecords
    (h : db.WellFormed config)
    (s : Scanner) :
    (readRecords config db s).WellFormed config := by
  fun_induction readRecords config db s with
  | case1 db s hSkip => exact h
  | case2 db s t s₁ hSkip ih =>
      apply ih
      have hRecord :=
        @Scanner.ensures_readRecord config _ h.macros s₁
      cases hRead : (s₁.readRecord config db.macros).1 with
      | error err => exact ⟨h.table, h.macros⟩
      | ok record => exact h.addRecord (hRecord record hRead)

/- What is read is well formed, if the macros are balanced. -/
theorem wellFormed_parse
    (hMacros : config.macros.IsBalanced)
    (t : Text) : (parse config t).WellFormed config := by
  refine wellFormed_readRecords ⟨⟨?_, ?_, ?_, ?_⟩, hMacros⟩ _
  · simp [initial, Table.empty]
  · exact List.Pairwise.nil
  · simp [initial, Table.empty]
  · simp [initial, Table.empty]

/-
  Every table that is read has proper keys, all of them different,
  well-formed entries, and values as fragments of its preamble.
-/
theorem table_parse_wellFormed
    (config : ParserConfig)
    (hMacros : config.macros.IsBalanced)
    (t : Text) :
    (∀ key ∈ (parse config t).table.keys, key.IsCitationKey) ∧
      ((parse config t).table.keys.map Text.lower).Nodup ∧
      (∀ item ∈ (parse config t).table.entries,
        item.2.WellFormed config) ∧
      ∀ fragment ∈ (parse config t).table.preamble,
        fragment.IsValue := by
  have hTable := (wellFormed_parse hMacros t).table
  refine ⟨?_, hTable.nodup_lower_keys, hTable.entries,
    hTable.preamble⟩
  intro key hMem
  rcases List.mem_map.1 hMem with ⟨item, hItem, rfl⟩
  exact Text.isCitationKey_of_accepts (hTable.keys item hItem)

/-
  A macro, a preamble, an entry with persons, a repeated key, and
  two malformed entries.
-/
def unevenText : Text :=
  ("@string(x = \"\x7bG\x7d  o\") @preamble\x7bX # \" a\"\x7d" ++
    "@Book\x7bK1, Title = x # \x7b \x7ba  b\x7d\x7d, author =" ++
    "\"Ann B. and von~Roe, Jr, \x7bC, and\x7d D\"\x7d" ++
    "@misc\x7bk1\x7d @misc\x7bp, editor = \"A, B, C, D\"\x7d" ++
    "@misc\x7bq, t = \"\x7d\"\x7d").toList

theorem table_parse_wellFormed_unevenText :
    (parse .standard unevenText).table.keys = ["K1".toList] ∧
      (parse .standard unevenText).diagnostics.length = 3 ∧
      (∀ key ∈ (parse .standard unevenText).table.keys,
        key.IsCitationKey) ∧
      ∀ item ∈ (parse .standard unevenText).table.entries,
        item.2.WellFormed .standard := by
  have hMacros : ParserConfig.standard.macros.IsBalanced := by
    unfold MacroTable.IsBalanced
    decide +kernel
  have hRead :
      (parse .standard unevenText).table.keys = ["K1".toList] ∧
        (parse .standard unevenText).diagnostics.length = 3 := by
    decide +kernel
  have hWellFormed :=
    table_parse_wellFormed .standard hMacros unevenText
  exact ⟨hRead.1, hRead.2, hWellFormed.1, hWellFormed.2.2.1⟩

end Database

end Bibliography
