import Bibliography.Proofs.Style.Isolation
import Bibliography.Proofs.Style.Output
import Bibliography.Proofs.Table.Keys

/-
  A run of a style, phase by phase.

  Code only adds to the output, so the output is what the prologue
  wrote, the texts of the entries in their order, and what the
  epilogue wrote.  A key without an entry leaves a warning: what
  comes after it runs from a machine that differs in warnings and
  log only, and so it runs as it would without the key.

  Key definitions include:
    * `StyleOutput.Lists`
    * `Program.RunsThrough`
    * `Program.Skips`

  Key statements include:
    * `Machine.formatEntry_eq_ok`
    * `Setting.output_formatEntries`
    * `Setting.formatEntries_alike`
    * `Program.runStyle_decomposes`
-/

------------------------------------------------------------
-- Code Adds to the Output
------------------------------------------------------------

namespace Bibliography

namespace Machine

variable {s : Setting}
variable {start start' m m' n : Machine}
variable {fuel : Nat}

/- Nothing has been added yet to machines that agree. -/
theorem Alike.refl
    (hStack : m.stack = m'.stack)
    (hGlobals : m.globals = m'.globals)
    (hLocals : m.locals = m'.locals)
    (hCurrent : m.current = m'.current) : Alike m m' m m' :=
  { SameEffects.refl hStack hGlobals with
    locals := hLocals
    current := hCurrent }

/- What is added by steps in a row is added by both together. -/
theorem SameEffects.trans
    {k k' : Machine}
    (h : SameEffects start start' m m')
    (hNext : SameEffects m m' k k') :
    SameEffects start start' k k' where
  stack := hNext.stack
  globals := hNext.globals
  output := by
    rcases h.output with ⟨text, hText, hText'⟩
    rcases hNext.output with ⟨more, hMore, hMore'⟩
    refine ⟨text ++ more, ?_, ?_⟩
    · rw [hMore, hText, List.append_assoc]
    · rw [hMore', hText', List.append_assoc]
  warnings := by
    rcases h.warnings with ⟨messages, hOld, hOld'⟩
    rcases hNext.warnings with ⟨more, hMore, hMore'⟩
    refine ⟨messages ++ more, ?_, ?_⟩
    · rw [hMore, hOld, List.append_assoc]
    · rw [hMore', hOld', List.append_assoc]

/- Code that ends from one machine ends alike from the other. -/
theorem execute_alike
    {code : List Instruction}
    {result : Except Error Unit}
    (h : Alike start start' m m')
    (hRun : execute s fuel code m = .finished result n) :
    ∃ n', execute s fuel code m' = .finished result n' ∧
      Alike start start' n n' := by
  have hCongruence : Congruence s (Alike start start') :=
    congruence_alike
  have hBoth := hCongruence.run fuel (.code code) m m' h
  rw [← execute, ← execute, hRun] at hBoth
  generalize execute s fuel code m' = o at hBoth ⊢
  cases hBoth with
  | @finished _ _ n' hAfter => exact ⟨n', rfl, hAfter⟩

/- What was written before stays at the front of the output. -/
theorem output_of_execute
    {code : List Instruction}
    {result : Except Error Unit}
    (hRun : execute s fuel code m = .finished result n) :
    ∃ text, n.output = m.output ++ text := by
  rcases execute_alike (Alike.refl rfl rfl rfl rfl) hRun with
    ⟨_, _, hAfter⟩
  rcases hAfter.output with ⟨text, hText, _⟩
  exact ⟨text, hText⟩

/-
  An entry that is formatted: the routine has run from the machine
  with that entry, its text is what the routine wrote, and the
  entry has been left.
-/
theorem formatEntry_eq_ok
    {key text : Text}
    (h : formatEntry s fuel key m = .finished (.ok text) n) :
    n.output = m.output ++ text ∧ n.current = none ∧
      n.locals = .empty := by
  unfold formatEntry at h
  rcases Outcome.andThen_eq_ok.1 h with ⟨_, begun, hBegin, hRoutine⟩
  have hOutput : begun.output = m.output := by
    unfold beginEntry Action.outcome at hBegin
    split at hBegin
    · cases hBegin
    · cases hBegin
      rfl
  split at hRoutine
  · cases hRoutine
  · rename_i result ended hRun
    cases result with
    | error e => cases hRoutine
    | ok _ =>
        rcases output_of_execute hRun with ⟨written, hWritten⟩
        rcases reportLeftover_log key (endEntry ended).2 with
          ⟨log, hLog⟩
        dsimp only at hRoutine
        rw [hLog, hWritten, List.drop_left] at hRoutine
        cases hRoutine
        exact ⟨hOutput ▸ hWritten, rfl, rfl⟩

/- An entry is formatted alike, and left alike. -/
theorem formatEntry_alike
    {key text : Text}
    (h : Alike start start' m m')
    (hRun : formatEntry s fuel key m = .finished (.ok text) n) :
    ∃ n', formatEntry s fuel key m' = .finished (.ok text) n' ∧
      Alike start start' n n' := by
  have hBoth :=
    formatEntry_corresponds (s := s) h.stack h.globals fuel key
  rw [hRun] at hBoth
  generalize hRun' : formatEntry s fuel key m' = o at hBoth
  cases hBoth with
  | @finished _ _ n' hAfter =>
      rcases formatEntry_eq_ok hRun with ⟨_, hCurrent, hLocals⟩
      rcases formatEntry_eq_ok hRun' with ⟨_, hCurrent', hLocals'⟩
      refine ⟨n', rfl, ?_⟩
      exact { h.toSameEffects.trans hAfter with
        locals := hLocals.trans hLocals'.symm
        current := hCurrent.trans hCurrent'.symm }

theorem runEpilogue_alike
    (h : Alike start start' m m')
    (hRun : runEpilogue s fuel m = .finished (.ok ()) n) :
    ∃ n', runEpilogue s fuel m' = .finished (.ok ()) n' ∧
      Alike start start' n n' := by
  rcases execute_alike h (Outcome.mapError_eq_ok.1 hRun) with
    ⟨n', hRun', hAfter⟩
  exact ⟨n', Outcome.mapError_eq_ok.2 hRun', hAfter⟩

end Machine

------------------------------------------------------------
-- The Entries
------------------------------------------------------------

namespace Setting

open Machine

variable {s : Setting}
variable {t : Table}
variable {fuel : Nat}
variable {done entries : List FormattedEntry}
variable {m n : Machine}

/- A key without an entry is warned about. -/
theorem formatEntries_of_find?_none
    {key : Text}
    (hFind : t.find? key = none)
    (rest : List Text) :
    s.formatEntries t fuel done (key :: rest) m =
      s.formatEntries t fuel done rest
        (Machine.warn (unknownKey key) m).2 := by
  rw [formatEntries, hFind]
  rfl

/- An entry is formatted with its key, its label and its text. -/
theorem formatEntries_of_find?_some
    {key : Text}
    {item : Text × Entry}
    (hFind : t.find? key = some item)
    (rest : List Text) :
    s.formatEntries t fuel done (key :: rest) m =
      ((formatEntry s fuel key m).mapError
          (·.inFrame (entryFrame item.1))).andThen fun text m =>
        s.formatEntries t fuel
          (done ++
            [⟨item.1,
              item.2.label.getD (toString (done.length + 1)).toList,
              text⟩])
          rest m := by
  rw [formatEntries, hFind]

/- The keys of a list may be taken in two parts. -/
theorem formatEntries_append
    (before after : List Text) :
    s.formatEntries t fuel done (before ++ after) m =
      (s.formatEntries t fuel done before m).andThen
        fun done m => s.formatEntries t fuel done after m := by
  induction before generalizing done m with
  | nil => rfl
  | cons key rest ih =>
      cases hFind : t.find? key with
      | none =>
          rw [List.cons_append, formatEntries_of_find?_none hFind,
            formatEntries_of_find?_none hFind, ih]
      | some item =>
          rw [List.cons_append, formatEntries_of_find?_some hFind,
            formatEntries_of_find?_some hFind]
          generalize Outcome.mapError _ _ = o
          cases o with
          | unfinished => rfl
          | finished result m' =>
              cases result with
              | error e => rfl
              | ok text => exact ih

/- The entries add their texts to the output, one by one. -/
theorem output_formatEntries
    {keys : List Text}
    (h : s.formatEntries t fuel done keys m =
      .finished (.ok entries) n) :
    ∃ added, entries = done ++ added ∧
      n.output = m.output ++ added.flatMap (fun f => f.text) := by
  induction keys generalizing done m with
  | nil =>
      cases h
      exact ⟨[], (List.append_nil _).symm, (List.append_nil _).symm⟩
  | cons key rest ih =>
      cases hFind : t.find? key with
      | none =>
          rw [formatEntries_of_find?_none hFind] at h
          rcases ih h with ⟨added, hEntries, hAdded⟩
          exact ⟨added, hEntries, hAdded⟩
      | some item =>
          rw [formatEntries_of_find?_some hFind] at h
          rcases Outcome.andThen_eq_ok.1 h with ⟨text, m₁, hText, hRest⟩
          have hOutput :=
            (formatEntry_eq_ok (Outcome.mapError_eq_ok.1 hText)).1
          rcases ih hRest with ⟨added, hEntries, hAdded⟩
          rw [List.append_assoc, List.singleton_append] at hEntries
          refine ⟨_, hEntries, ?_⟩
          rw [hAdded, hOutput, List.append_assoc, List.flatMap_cons]

/- From machines that agree the same entries are formatted. -/
theorem formatEntries_alike
    {keys : List Text}
    {start start' m' : Machine}
    (hAlike : Alike start start' m m')
    (h : s.formatEntries t fuel done keys m =
      .finished (.ok entries) n) :
    ∃ n',
      s.formatEntries t fuel done keys m' =
          .finished (.ok entries) n' ∧
        Alike start start' n n' := by
  induction keys generalizing done m m' with
  | nil =>
      cases h
      exact ⟨m', rfl, hAlike⟩
  | cons key rest ih =>
      cases hFind : t.find? key with
      | none =>
          rw [formatEntries_of_find?_none hFind] at h ⊢
          exact ih (congruence_alike.warn (s := s) _ _ _ hAlike).2 h
      | some item =>
          rw [formatEntries_of_find?_some hFind] at h ⊢
          rcases Outcome.andThen_eq_ok.1 h with ⟨text, m₁, hText, hRest⟩
          rcases formatEntry_alike hAlike
            (Outcome.mapError_eq_ok.1 hText) with ⟨m₁', hText', hAfter⟩
          rcases ih hAfter hRest with ⟨n', hRest', hEnd⟩
          exact ⟨n', Outcome.andThen_eq_ok.2
            ⟨text, m₁', Outcome.mapError_eq_ok.2 hText', hRest'⟩, hEnd⟩

end Setting

------------------------------------------------------------
-- The Parts of a Run
------------------------------------------------------------

/- The entries of the output of a run over some keys. -/
structure StyleOutput.Lists
    (out : StyleOutput)
    (t : Table)
    (keys : List Text) : Prop where
  keys : out.entries.map (fun f => f.key) =
    keys.filterMap t.canonicalKey?
  labels : ∀ i f, out.entries[i]? = some f →
    ∃ e, t.get? f.key = some e ∧
      f.label = e.label.getD (toString (i + 1)).toList
  bounds : ∀ f ∈ out.entries, f.label.length ≤ out.labelWidth
  reached : (out.entries = [] ∧ out.labelWidth = 0) ∨
    ∃ f ∈ out.entries, f.label.length = out.labelWidth

namespace Program

variable {p : Program}
variable {t : Table}
variable {fuel : Nat}
variable {keys : List Text}
variable {out : StyleOutput}
variable {m : Machine}

/-
  A run that has succeeded: `start` is the machine after the
  prologue, `finish` the one after the entries, and `written` is
  what the epilogue has written.
-/
structure RunsThrough
    (p : Program)
    (t : Table)
    (fuel : Nat)
    (keys : List Text)
    (out : StyleOutput)
    (m start finish : Machine)
    (written : Text) : Prop where
  prologue : Machine.runPrologue ⟨p, some t⟩ fuel (.initial p) =
    .finished (.ok ()) start
  entries : Setting.formatEntries ⟨p, some t⟩ t fuel [] keys start =
    .finished (.ok out.entries) finish
  epilogue : Machine.runEpilogue ⟨p, some t⟩ fuel finish =
    .finished (.ok ()) m
  output : m.output = finish.output ++ written

/-
  A key without an entry between others, in a run that comes to
  its entries with the machine `start`.  At its place there is one
  warning more, and nothing else.  Without the key the run has the
  same output and entries, and leaves the same stack and globals.
-/
structure Skips
    (p : Program)
    (t : Table)
    (fuel : Nat)
    (before : List Text)
    (key : Text)
    (after : List Text)
    (out : StyleOutput)
    (m start : Machine) : Prop where
  place : ∃ done n log,
    Setting.formatEntries ⟨p, some t⟩ t fuel [] before start =
        .finished (.ok done) n ∧
      Setting.formatEntries ⟨p, some t⟩ t fuel [] (before ++ [key])
          start =
        .finished (.ok done)
          { n with
            warnings := n.warnings ++ [Setting.unknownKey key]
            log := log }
  removed : ∃ earlier later m',
    out.warnings = earlier ++ Setting.unknownKey key :: later ∧
      p.runStyle t fuel (before ++ after) =
        .finished (.ok { out with warnings := earlier ++ later })
          m' ∧
      m'.stack = m.stack ∧ m'.globals = m.globals

/- A run that succeeds goes through its three parts. -/
theorem runsThrough_of_runStyle
    (h : p.runStyle t fuel keys = .finished (.ok out) m) :
    (∃ start finish written,
      p.RunsThrough t fuel keys out m start finish written) ∧
      out = .ofMachine out.entries m := by
  unfold runStyle at h
  rcases Outcome.andThen_eq_ok.1 h with ⟨_, start, hPrologue, hRest⟩
  rcases Outcome.andThen_eq_ok.1 hRest with
    ⟨entries, finish, hEntries, hRest⟩
  rcases Outcome.andThen_eq_ok.1 hRest with
    ⟨_, ended, hEpilogue, hEnd⟩
  cases hEnd
  rcases Machine.output_of_execute
    (Outcome.mapError_eq_ok.1 hEpilogue) with ⟨written, hWritten⟩
  exact ⟨⟨start, finish, written, hPrologue, hEntries, hEpilogue,
    hWritten⟩, rfl⟩

/- The three parts make a run. -/
theorem runStyle_of_parts
    {entries : List FormattedEntry}
    {start finish : Machine}
    (hPrologue : Machine.runPrologue ⟨p, some t⟩ fuel (.initial p) =
      .finished (.ok ()) start)
    (hEntries :
      Setting.formatEntries ⟨p, some t⟩ t fuel [] keys start =
        .finished (.ok entries) finish)
    (hEpilogue : Machine.runEpilogue ⟨p, some t⟩ fuel finish =
      .finished (.ok ()) m) :
    p.runStyle t fuel keys =
      .finished (.ok (.ofMachine entries m)) m := by
  rw [runStyle, hPrologue]
  dsimp only [Outcome.andThen]
  rw [hEntries]
  dsimp only [Outcome.andThen]
  rw [hEpilogue]

/-
  The machine goes on from the warning as from the machine before
  it, so the run without the key has the same parts.
-/
theorem RunsThrough.skips
    {start finish : Machine}
    {written : Text}
    {before after : List Text}
    {key : Text}
    (h : p.RunsThrough t fuel keys out m start finish written)
    (hOut : out = .ofMachine out.entries m)
    (hKeys : keys = before ++ key :: after)
    (hFind : t.find? key = none) :
    p.Skips t fuel before key after out m start := by
  have hEntries := h.entries
  rw [hKeys, Setting.formatEntries_append] at hEntries
  rcases Outcome.andThen_eq_ok.1 hEntries with
    ⟨done, n, hBefore, hAfter⟩
  rw [Setting.formatEntries_of_find?_none hFind] at hAfter
  constructor
  · refine ⟨done, n, n.log ++ [.warning (Setting.unknownKey key)],
      hBefore, ?_⟩
    rw [Setting.formatEntries_append, hBefore]
    exact Setting.formatEntries_of_find?_none hFind []
  · have hAlike : Machine.Alike
        (Machine.warn (Setting.unknownKey key) n).2 n
        (Machine.warn (Setting.unknownKey key) n).2 n :=
      .refl rfl rfl rfl rfl
    rcases Setting.formatEntries_alike hAlike hAfter with
      ⟨finish', hAfter', hFinish⟩
    rcases Machine.runEpilogue_alike hFinish h.epilogue with
      ⟨m', hEpilogue', hEnd⟩
    have hRun : p.runStyle t fuel (before ++ after) =
        .finished (.ok (.ofMachine out.entries m')) m' := by
      refine runStyle_of_parts h.prologue ?_ hEpilogue'
      rw [Setting.formatEntries_append, hBefore]
      exact hAfter'
    rcases hEnd.output with ⟨text, hText, hText'⟩
    rcases hEnd.warnings with ⟨later, hLater, hLater'⟩
    refine ⟨n.warnings, later, m', ?_, ?_, hEnd.stack.symm,
      hEnd.globals.symm⟩
    · calc out.warnings
          = m.warnings := congrArg StyleOutput.warnings hOut
        _ = n.warnings ++ [Setting.unknownKey key] ++ later := hLater
        _ = n.warnings ++ Setting.unknownKey key :: later := by
            rw [List.append_assoc, List.singleton_append]
    · have hOutput : out.output = m'.output :=
        (congrArg StyleOutput.output hOut).trans
          (hText.trans hText'.symm)
      have hWidth := congrArg StyleOutput.labelWidth hOut
      rw [hRun, StyleOutput.ofMachine, hLater', ← hOutput]
      rw [StyleOutput.ofMachine] at hWidth
      rw [hWidth]

/- The entries of the output are those that the keys find. -/
theorem lists_of_runStyle
    (h : p.runStyle t fuel keys = .finished (.ok out) m) :
    out.Lists t keys := by
  rcases headings_runStyle h with ⟨hHeadings, hWidth⟩
  constructor
  · have hKeys :=
      congrArg (List.map (fun heading => heading.1)) hHeadings
    rw [Table.map_fst_mapIdx_headingAfter, List.map_map,
      List.map_filterMap] at hKeys
    exact hKeys
  · intro i f hPlace
    have hHeading : (out.entries.map FormattedEntry.heading)[i]? =
        some f.heading := by
      rw [List.getElem?_map, hPlace]
      rfl
    rw [hHeadings, List.getElem?_mapIdx] at hHeading
    rcases Option.map_eq_some_iff.1 hHeading with
      ⟨item, hItem, hSame⟩
    rcases Prod.mk.inj hSame with ⟨hKey, hLabel⟩
    rcases List.mem_filterMap.1 (List.mem_of_getElem? hItem) with
      ⟨key, _, hFind⟩
    refine ⟨item.2, ?_, ?_⟩
    · rw [← hKey, Table.get?,
        Table.find?_congr (Table.sameKey_of_find? hFind), hFind]
      rfl
    · rw [← hLabel, Nat.zero_add]
  · intro f hMem
    rw [hWidth]
    exact Table.maximum_le_iff.1 (Nat.le_refl _) _
      (List.mem_map_of_mem hMem)
  · rw [hWidth]
    cases hEntries : out.entries with
    | nil => exact Or.inl ⟨rfl, rfl⟩
    | cons f rest =>
        right
        exact List.mem_map.1 (Table.maximum_mem (List.cons_ne_nil _ _))

/-
  The output of a run that succeeds is what the prologue wrote, the
  texts of the entries, and what the epilogue wrote.  The entries
  are those of the keys, and a key without an entry is skipped.
-/
theorem runStyle_decomposes
    (p : Program)
    (t : Table)
    (fuel : Nat)
    (keys : List Text)
    (out : StyleOutput)
    (m : Machine)
    (hRun : p.runStyle t fuel keys = .finished (.ok out) m) :
    (∃ start finish written,
      p.RunsThrough t fuel keys out m start finish written ∧
        out.output =
          start.output ++ out.entries.flatMap (fun f => f.text) ++
            written ∧
        ∀ before key after, keys = before ++ key :: after →
          t.find? key = none →
            p.Skips t fuel before key after out m start) ∧
      out.Lists t keys := by
  rcases runsThrough_of_runStyle hRun with
    ⟨⟨start, finish, written, hParts⟩, hOut⟩
  refine ⟨⟨start, finish, written, hParts, ?_, ?_⟩,
    lists_of_runStyle hRun⟩
  · rcases Setting.output_formatEntries hParts.entries with
      ⟨added, hEntries, hAdded⟩
    rw [List.nil_append] at hEntries
    calc out.output
        = m.output := congrArg StyleOutput.output hOut
      _ = start.output ++ out.entries.flatMap (fun f => f.text) ++
            written := by rw [hParts.output, hAdded, hEntries]
  · intro before key after hKeys hFind
    exact hParts.skips hOut hKeys hFind

/- A style that writes keys in brackets. -/
def sampleStyle : Program :=
  { Program.empty with
    prologue := [.string "<".toList, .call "write$".toList]
    entryRoutine := [.call "cite$".toList, .call "write$".toList]
    epilogue := [.string ">".toList, .call "write$".toList] }

/- An entry with a label, and one without. -/
def sampleTable : Table :=
  ⟨[("A".toList,
      { Entry.ofType "misc".toList with label := some "abc".toList }),
    ("b".toList, .ofType "misc".toList)], []⟩

theorem runStyle_decomposes_sample :
    ∃ out m start,
      sampleStyle.runStyle sampleTable 20
          ["B".toList, "c".toList, "a".toList, "b".toList] =
        .finished (.ok out) m ∧
      out.output = "<bAb>".toList ∧
      out.Lists sampleTable
        ["B".toList, "c".toList, "a".toList, "b".toList] ∧
      sampleStyle.Skips sampleTable 20 ["B".toList] "c".toList
        ["a".toList, "b".toList] out m start := by
  have hRun : ∃ out m,
      sampleStyle.runStyle sampleTable 20
          ["B".toList, "c".toList, "a".toList, "b".toList] =
        .finished (.ok out) m ∧
      out.output = "<bAb>".toList :=
    ⟨_, _, rfl, rfl⟩
  rcases hRun with ⟨out, m, hRun, hOutput⟩
  rcases runStyle_decomposes _ _ _ _ _ _ hRun with
    ⟨⟨start, _, _, _, _, hSkips⟩, hLists⟩
  exact ⟨out, m, start, hRun, hOutput, hLists,
    hSkips ["B".toList] "c".toList _ rfl (by decide +kernel)⟩

end Program

end Bibliography
