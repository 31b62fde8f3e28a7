import Bibliography.Database.Document
import Bibliography.Proofs.Database.Agreement

/-
  Recovery is local to a record.

  A record that cannot be read leaves table and macros as they
  are, and the reader goes on at the next at sign.  So a text does
  not spoil what is read behind it, as long as it does not end
  within a record.

  Key definitions include:
    * `Database.unlocated`
    * `Database.rejects`

  Key statements include:
    * `Database.readRecords_withEarlier`
    * `Database.unlocated_readRecords_of_junk`
    * `Database.unlocated_readRecords`
    * `Database.parse_append`
-/

------------------------------------------------------------
-- The Next At Sign
------------------------------------------------------------

namespace Bibliography

namespace Scanner

/- A search that finds no record has met no at sign. -/
theorem not_mem_of_skipTo_atSign
    {s : Scanner}
    (hSkip : s.skipTo [.atSign] = none) : '@' ∉ s.rest := by
  intro hMem
  rcases List.eq_append_cons_of_mem hMem with
    ⟨junk, after, hRest, hJunk⟩
  rcases skipTo_atSign hRest hJunk with ⟨t, s₁, hFound, _⟩
  rw [hSkip] at hFound
  cases hFound

/- The search for a record stops behind the first at sign. -/
theorem rest_of_skipTo_atSign
    {s s₁ : Scanner}
    {t : Token}
    (hSkip : s.skipTo [.atSign] = some (t, s₁)) :
    ∃ junk, '@' ∉ junk ∧ s.rest = junk ++ '@' :: s₁.rest := by
  by_cases hMem : '@' ∈ s.rest
  · rcases List.eq_append_cons_of_mem hMem with
      ⟨junk, after, hRest, hJunk⟩
    rcases skipTo_atSign hRest hJunk with ⟨t', s₁', hFound, rfl⟩
    rw [hSkip] at hFound
    cases hFound
    exact ⟨junk, hJunk, hRest⟩
  · rw [skipTo_atSign_of_not_mem hMem] at hSkip
    cases hSkip

/-
  Behind the same text the search stops at the same place, or in
  the tail of the first text.
-/
theorem Parted.skipTo_atSign
    {tail tail' : Text}
    {s s' s₁ : Scanner}
    {t : Token}
    (h : s.Parted tail tail' s')
    (hSkip : s.skipTo [.atSign] = some (t, s₁)) :
    s₁.rest.length < tail.length ∨
      ∃ t' s₁', s'.skipTo [.atSign] = some (t', s₁') ∧
        s₁.Parted tail tail' s₁' := by
  rcases h with ⟨ahead, hRest, hRest'⟩
  rcases rest_of_skipTo_atSign hSkip with ⟨junk, hJunk, hSplit⟩
  rw [hRest, List.append_eq_append_iff] at hSplit
  rcases hSplit with ⟨more, _, hTail⟩ | ⟨more, hAhead, hAt⟩
  · apply Or.inl
    rw [hTail, List.length_append, List.length_cons]
    omega
  · rcases List.cons_eq_append_iff.1 hAt with
      ⟨_, hTail⟩ | ⟨between, rfl, hRest₁⟩
    · apply Or.inl
      rw [hTail, List.length_cons]
      omega
    · have hSplit' : s'.rest = junk ++ '@' :: (between ++ tail') := by
        rw [hRest', hAhead, List.append_assoc, List.cons_append]
      rcases Scanner.skipTo_atSign hSplit' hJunk with
        ⟨t', s₁', hFound, hRest₁'⟩
      exact Or.inr ⟨t', s₁', hFound, between, hRest₁, hRest₁'⟩

end Scanner

------------------------------------------------------------
-- Databases without Locations
------------------------------------------------------------

/- Places that have been taken out cannot be taken out again. -/
theorem Error.unlocated_unlocated (e : Error) :
    e.unlocated.unlocated = e.unlocated := by
  rcases e with ⟨kind, context⟩
  cases kind <;> rfl

namespace Database

/- The database with the places taken out of its diagnostics. -/
def unlocated (db : Database) : Database :=
  { db with diagnostics := db.diagnostics.map Error.unlocated }

/- The database with other diagnostics in front of its own. -/
def withEarlier
    (earlier : List Error)
    (db : Database) : Database :=
  { db with diagnostics := earlier ++ db.diagnostics }

/- A record that failed, or whose key has an entry already. -/
def rejects
    (db : Database) : Except Error Record → Bool
  | .error _ => true
  | .ok (.entry key _ _) => db.table.contains key
  | .ok _ => false

/- A rejected record leaves table and macros as they are. -/
theorem add_of_rejects
    {db : Database}
    {outcome : Except Error Record}
    (h : db.rejects outcome = true) :
    (db.add outcome).table = db.table ∧
      (db.add outcome).macros = db.macros := by
  cases outcome with
  | error err => simp [add, report]
  | ok record =>
      cases record with
      | entry key e repeated =>
          have hContains : db.table.contains key = true := h
          unfold add addRecord
          simp [report, Table.tryInsert, hContains]
      | definition name text => cases h
      | preamble fragment => cases h
      | comment => cases h

/- Diagnostics are only ever added. -/
theorem add_withEarlier
    (earlier : List Error)
    (db : Database)
    (outcome : Except Error Record) :
    (db.withEarlier earlier).add outcome =
      (db.add outcome).withEarlier earlier := by
  cases outcome with
  | error err => simp [add, report, withEarlier]
  | ok record =>
      cases record with
      | entry key e repeated =>
          unfold add addRecord
          simp [report, withEarlier]
      | definition name text => rfl
      | preamble fragment => rfl
      | comment => rfl

/- Earlier diagnostics do not matter to the loop. -/
theorem readRecords_withEarlier
    (config : ParserConfig)
    (earlier : List Error)
    (db : Database)
    (s : Scanner) :
    readRecords config (db.withEarlier earlier) s =
      (readRecords config db s).withEarlier earlier := by
  fun_induction readRecords config db s with
  | case1 db s hSkip =>
      rw [readRecords, hSkip]
  | case2 db s t s₁ hSkip ih =>
      rw [readRecords, hSkip]
      dsimp only
      have hMacros : (db.withEarlier earlier).macros = db.macros := rfl
      rw [hMacros, add_withEarlier]
      exact ih

/- The loop keeps the diagnostics that it starts with. -/
theorem mem_diagnostics_readRecords
    {config : ParserConfig}
    {db : Database}
    {e : Error}
    (h : e ∈ db.diagnostics)
    (s : Scanner) :
    e ∈ (readRecords config db s).diagnostics := by
  have hRun := readRecords_withEarlier config db.diagnostics
    { db with diagnostics := [] } s
  have hSelf :
      withEarlier db.diagnostics { db with diagnostics := [] } =
        db := by
    rw [withEarlier, List.append_nil]
  rw [hSelf] at hRun
  rw [hRun]
  exact List.mem_append_left _ h

/- What a record adds does not depend on places. -/
theorem unlocated_addRecord
    (db : Database)
    (record : Record) :
    (db.addRecord record).unlocated =
      (db.unlocated.addRecord record).unlocated := by
  have hTwice : Error.unlocated ∘ Error.unlocated =
      Error.unlocated := funext Error.unlocated_unlocated
  cases record with
  | entry key e repeated =>
      unfold addRecord
      simp [report, unlocated, hTwice]
  | definition name text => simp [addRecord, unlocated, hTwice]
  | preamble fragment => simp [addRecord, unlocated, hTwice]
  | comment => simp [addRecord, unlocated, hTwice]

/- Databases that differ in places have the same macros. -/
theorem macros_of_unlocated
    {db db' : Database}
    (h : db.unlocated = db'.unlocated) : db'.macros = db.macros := by
  have hMacros := congrArg Database.macros h
  exact hMacros.symm

variable {config : ParserConfig}
variable {tail tail' : Text}

/-
  Of two outcomes that agree, the first reads into its tail, or it
  is a premature end and stays in the diagnostics, or both add the
  same.
-/
theorem add_of_agree
    {db db' : Database}
    {step step' : Scanned Record}
    (hStep : Scanned.Agree tail tail' Eq step step')
    (hSame : db.unlocated = db'.unlocated) :
    step.2.rest.length < tail.length ∨
      (Text.EndDiffers tail tail' ∧
        ∃ e, step.1 = .error e ∧ e.isPrematureEnd = true) ∨
      ((db.add step.1).unlocated = (db'.add step'.1).unlocated ∧
        step.2.Parted tail tail' step'.2) := by
  cases hStep with
  | past hPast => exact Or.inl hPast
  | @early e s other hDiffers hEarly =>
      exact Or.inr (Or.inl ⟨hDiffers, e, rfl, hEarly⟩)
  | @failure e e' s s' hError hRest =>
      refine Or.inr (Or.inr ⟨?_, hRest⟩)
      have hTable := congrArg Database.table hSame
      have hMacros := congrArg Database.macros hSame
      have hOld := congrArg Database.diagnostics hSame
      simp only [unlocated] at hTable hMacros hOld
      simp [add, report, unlocated, hTable, hMacros, hOld, hError]
  | value hValue hRest =>
      subst hValue
      refine Or.inr (Or.inr ⟨?_, hRest⟩)
      unfold add
      dsimp only
      rw [unlocated_addRecord db, unlocated_addRecord db', hSame]

/- Steps on the same text add the same. -/
theorem add_of_agree_nil
    {db db' : Database}
    {step step' : Scanned Record}
    (hStep : Scanned.Agree [] [] Eq step step')
    (hSame : db.unlocated = db'.unlocated) :
    (db.add step.1).unlocated = (db'.add step'.1).unlocated ∧
      step'.2.rest = step.2.rest := by
  rcases add_of_agree hStep hSame with
    hPast | ⟨hDiffers, _⟩ | ⟨hAdd, hParted⟩
  · exact absurd hPast (Nat.not_lt_zero _)
  · exact absurd hDiffers (Text.not_endDiffers_self [])
  · exact ⟨hAdd, Scanner.parted_nil_iff.1 hParted⟩

------------------------------------------------------------
-- Records behind a Text
------------------------------------------------------------

/-
  The loop depends on the rest of the text alone, up to places,
  and what stands in front of the next at sign does not matter.
-/
theorem unlocated_readRecords_of_junk
    {db db' : Database}
    {s s' : Scanner}
    {junk : Text}
    (hJunk : '@' ∉ junk)
    (hRest : s'.rest = junk ++ s.rest)
    (hSame : db.unlocated = db'.unlocated) :
    (readRecords config db s).unlocated =
      (readRecords config db' s').unlocated := by
  fun_induction readRecords config db s
    generalizing db' s' junk with
  | case1 db s hSkip =>
      have hNot := Scanner.not_mem_of_skipTo_atSign hSkip
      have hNot' : '@' ∉ s'.rest := by
        rw [hRest, List.mem_append, not_or]
        exact ⟨hJunk, hNot⟩
      rw [readRecords, Scanner.skipTo_atSign_of_not_mem hNot']
      exact hSame
  | case2 db s t s₁ hSkip ih =>
      rcases Scanner.rest_of_skipTo_atSign hSkip with
        ⟨before, hBefore, hSplit⟩
      have hSplit' : s'.rest = (junk ++ before) ++ '@' :: s₁.rest := by
        rw [hRest, hSplit, List.append_assoc]
      have hSkipped : '@' ∉ junk ++ before := by
        rw [List.mem_append, not_or]
        exact ⟨hJunk, hBefore⟩
      rcases Scanner.skipTo_atSign hSplit' hSkipped with
        ⟨t', s₁', hSkip', hRest₁⟩
      have hParted := Scanner.parted_nil_iff.2 hRest₁
      have hAgree := Scanner.agree_readRecord hParted Text.meet_nil
        config db.macros
      rw [readRecords.eq_def config db', hSkip']
      dsimp only
      rw [macros_of_unlocated hSame]
      rcases add_of_agree_nil hAgree hSame with ⟨hAdd, hAfter⟩
      exact @ih _ _ [] List.not_mem_nil hAfter hAdd

/-
  Unless a text ends too early, the records behind it are read as
  if they came after what the text has said.
-/
theorem unlocated_readRecords
    {db db' : Database}
    {s s' : Scanner}
    (hRest : s'.rest = s.rest ++ tail)
    (hTail : tail.BeginsRecord)
    (hSame : db.unlocated = db'.unlocated)
    (hEnd : ∀ e ∈ (readRecords config db s).diagnostics,
      e.isPrematureEnd = false) :
    (readRecords config (readRecords config db s)
        (.ofText tail)).unlocated =
      (readRecords config db' s').unlocated := by
  have hMeet : Text.Meet [] tail :=
    ⟨Text.beginsRecord_nil, hTail, fun _ => rfl⟩
  have hParted : s.Parted [] tail s' :=
    ⟨s.rest, (List.append_nil _).symm, hRest⟩
  clear hRest
  fun_induction readRecords config db s generalizing db' s' with
  | case1 db s hSkip =>
      rcases hParted with ⟨ahead, hRest, hRest'⟩
      rw [List.append_nil] at hRest
      have hNot := Scanner.not_mem_of_skipTo_atSign hSkip
      rw [hRest] at hNot
      exact unlocated_readRecords_of_junk hNot hRest' hSame
  | case2 db s t s₁ hSkip ih =>
      rcases hParted.skipTo_atSign hSkip with
        hPast | ⟨t', s₁', hSkip', h₁⟩
      · exact absurd hPast (Nat.not_lt_zero _)
      have hAgree :=
        Scanner.agree_readRecord h₁ hMeet config db.macros
      rw [readRecords.eq_def config db', hSkip']
      dsimp only
      rw [macros_of_unlocated hSame]
      rcases add_of_agree hAgree hSame with
        hPast | ⟨_, e, hError, hEarly⟩ | ⟨hAdd, hAfter⟩
      · exact absurd hPast (Nat.not_lt_zero _)
      · have hMem : e ∈ (db.add (s₁.readRecord config
            db.macros).1).diagnostics := by
          rw [hError]
          exact List.mem_append_right _ List.mem_cons_self
        have hNot := hEnd e (mem_diagnostics_readRecords hMem _)
        rw [hEarly] at hNot
        cases hNot
      · exact ih hAdd hEnd hAfter

/-
  A text that does not end too early, however malformed it is,
  and a record behind it are read one after the other, up to
  places.  The records that are rejected leave no trace but their
  diagnostics.
-/
theorem parse_append
    (config : ParserConfig)
    (a b : Text)
    (hAt : b.head? = some '@')
    (hEnd : ∀ e ∈ (parse config a).diagnostics,
      e.isPrematureEnd = false) :
    let before := parse config a
    let continued :=
      readRecords config { before with diagnostics := [] } (.ofText b)
    (parse config (a ++ b)).table = continued.table ∧
      (parse config (a ++ b)).macros = continued.macros ∧
      (parse config (a ++ b)).diagnostics.map Error.unlocated =
        before.diagnostics.map Error.unlocated ++
          continued.diagnostics.map Error.unlocated ∧
      ∀ (db : Database) (s : Scanner),
        db.rejects (s.readRecord config db.macros).1 = true →
          (db.add (s.readRecord config db.macros).1).table =
              db.table ∧
            (db.add (s.readRecord config db.macros).1).macros =
              db.macros := by
  intro before continued
  have hTail : b.BeginsRecord := by
    intro c hHead
    rw [hAt] at hHead
    exact (Option.some.inj hHead).symm
  have hRun := @unlocated_readRecords config b (initial config)
    (initial config) (.ofText a) (.ofText (a ++ b)) rfl hTail rfl
    hEnd
  have hSplit : readRecords config before (.ofText b) =
      continued.withEarlier before.diagnostics := by
    have hSelf : withEarlier before.diagnostics
        { before with diagnostics := [] } = before := by
      rw [withEarlier, List.append_nil]
    rw [← readRecords_withEarlier, hSelf]
  have hBoth : (continued.withEarlier before.diagnostics).unlocated =
      (parse config (a ++ b)).unlocated := by
    rw [← hSplit]
    exact hRun
  have hTable := congrArg Database.table hBoth
  have hMacros := congrArg Database.macros hBoth
  have hDiagnostics := congrArg Database.diagnostics hBoth
  refine ⟨hTable.symm, hMacros.symm, ?_, ?_⟩
  · rw [← List.map_append]
    exact hDiagnostics.symm
  · intro db s hRejects
    exact add_of_rejects hRejects

/-
  A record that breaks off after its key, an undefined macro, a
  brace that closes too early, a name with three commas, and a
  key that is there already, with good records in between.
-/
def malformedText : Text :=
  ("@book(k\x7d@string\x7bm = \"x\"\x7d @misc\x7ba, t = n\x7d" ++
    "@misc\x7bb, t = \"\x7d\"\x7d @misc\x7bc, t = m,\x7d" ++
    "@misc\x7bd, editor = \x7bA, B, C, D\x7d\x7d @misc\x7bC,\x7d").toList

theorem parse_append_malformedText :
    (parse .standard malformedText).diagnostics.length = 5 ∧
      (parse .standard
          (malformedText ++ "@misc\x7be, t = m\x7d".toList)).table =
        (readRecords .standard
          { parse .standard malformedText with diagnostics := [] }
          (.ofText "@misc\x7be, t = m\x7d".toList)).table := by
  have hErrors :
      (parse .standard malformedText).diagnostics.length = 5 ∧
        ∀ e ∈ (parse .standard malformedText).diagnostics,
          e.isPrematureEnd = false := by
    decide +kernel
  have hAppend := parse_append .standard malformedText
    "@misc\x7be, t = m\x7d".toList (by decide) hErrors.2
  exact ⟨hErrors.1, hAppend.1⟩

end Database

end Bibliography
