import Bibliography.Pipeline
import Bibliography.Proofs.Database.Fresh
import Bibliography.Proofs.Style.Failures
import Bibliography.Proofs.Style.Output
import Bibliography.Proofs.Table.Resolution

/-
  What a whole run produces.

  Resolution gives a list without repeats, so labelling never
  refuses it.  Labelling and formatting leave out the same unknown
  keys, so the formatted entries carry the numbers and labels of
  the table, and the widest label is the same in both.

  Key definitions include:
    * `RunOutput.Describes`

  Key statements include:
    * `RunConfig.run_describes`
-/

------------------------------------------------------------
-- Descriptions of Runs
------------------------------------------------------------

namespace Bibliography

open Table

/-
  The output of a run over a table that has been read.  The i-th
  formatted entry, counted from one, has the number i.
-/
structure RunOutput.Describes
    (out : RunOutput)
    (config : RunConfig)
    (t : Table)
    (citations : List Text) : Prop where
  resolved : out.citations =
    t.resolveCitations citations config.minCrossrefs
  keys : out.style.entries.map (fun f => f.key) =
    out.citations.filterMap t.canonicalKey?
  labels : ∀ i f, out.style.entries[i]? = some f →
    match config.labelStyle with
    | .number => f.label = (toString (i + 1)).toList
    | .key => f.label = f.key
  distinct : (out.style.entries.map (fun f => f.label)).Nodup
  numbered : ∀ i f, out.style.entries[i]? = some f →
    ∃ e, out.table.get? f.key = some e ∧
      e.number = some (i + 1) ∧ e.label = some f.label
  others : ∀ item ∈ out.table.entries,
    (∀ citation ∈ out.citations, sameKey citation item.1 = false) →
      item.2.Unlabelled
  width : out.style.labelWidth = out.table.labelWidth

------------------------------------------------------------
-- Labels of Formatted Entries
------------------------------------------------------------

variable {t : Table}
variable {style : LabelStyle}
variable {keys : List Text}

/- The items that different keys find carry their places. -/
theorem Table.find?_labelled_of_getElem?
    {i : Nat}
    {item : Text × Entry}
    (hFresh : t.Fresh)
    (hDistinct : keys.Pairwise (fun a b => sameKey a b = false))
    (hPlace : (keys.filterMap (t.labelled style keys).find?)[i]? =
      some item) :
    (t.labelled style keys).get? item.1 = some item.2 ∧
      item.2.number = some (i + 1) ∧
      item.2.label = some (style.label (i + 1) item.1) := by
  have hKey : (keys.filterMap t.canonicalKey?)[i]? = some item.1 := by
    have hKeys : keys.filterMap t.canonicalKey? =
        (keys.filterMap (t.labelled style keys).find?).map
          (fun item => item.1) := by
      rw [List.map_filterMap]
      congr 1
      funext key
      rw [← canonicalKey?_labelFrom, canonicalKey?, labelled]
    rw [hKeys, List.getElem?_map, hPlace]
    rfl
  rcases List.mem_filterMap.1 (List.mem_of_getElem? hPlace) with
    ⟨citation, _, hFind⟩
  have hFound : (t.labelled style keys).find? item.1 = some item :=
    find?_of_mem (distinct_labelled hFresh) (mem_of_find? hFind)
  have hGet : (t.labelled style keys).get? item.1 = some item.2 := by
    rw [get?, hFound]
    rfl
  rcases @get?_labelled style t keys i item.1 hDistinct hKey with
    ⟨e, hEntry, hNumber, hLabel⟩
  rw [hGet] at hEntry
  cases hEntry
  exact ⟨hGet, hNumber, hLabel⟩

/- A formatted entry has the label of the table's entry. -/
theorem StyleOutput.formatted_of_getElem?
    {output : StyleOutput}
    {i : Nat}
    {f : FormattedEntry}
    (hFresh : t.Fresh)
    (hDistinct : keys.Pairwise (fun a b => sameKey a b = false))
    (hHeadings : output.entries.map FormattedEntry.heading =
      (keys.filterMap (t.labelled style keys).find?).mapIdx
        (headingAfter 0))
    (hPlace : output.entries[i]? = some f) :
    ∃ item, (keys.filterMap (t.labelled style keys).find?)[i]? =
        some item ∧
      f.key = item.1 ∧ f.label = style.label (i + 1) item.1 := by
  have hHeading := congrArg (fun headings => headings[i]?) hHeadings
  rw [List.getElem?_map, hPlace, List.getElem?_mapIdx] at hHeading
  rcases Option.map_eq_some_iff.1 hHeading.symm with
    ⟨item, hItem, hEq⟩
  have hLabel :=
    (find?_labelled_of_getElem? hFresh hDistinct hItem).2.2
  rw [headingAfter, hLabel] at hEq
  cases f
  cases hEq
  exact ⟨item, hItem, rfl, rfl⟩

/- A number is known from its digits. -/
theorem toString_injective
    {i j : Nat}
    (h : (toString i).toList = (toString j).toList) : i = j := by
  have hDigits : Nat.toDigits 10 i = Nat.toDigits 10 j := by
    simpa only [Nat.toString_eq_repr, Nat.toList_repr] using h
  calc
    i = Nat.ofDigitChars 10 (Nat.toDigits 10 i) 0 :=
      Nat.ofDigitChars_ten_toDigits.symm
    _ = Nat.ofDigitChars 10 (Nat.toDigits 10 j) 0 := by rw [hDigits]
    _ = j := Nat.ofDigitChars_ten_toDigits

/- Labels of different places and different keys differ. -/
theorem LabelStyle.label_ne
    {i j : Nat}
    {a b : Text}
    (hPlace : i ≠ j)
    (hKey : a ≠ b) : style.label i a ≠ style.label j b := by
  cases style with
  | key => exact hKey
  | number =>
      intro hEq
      exact hPlace (toString_injective hEq)

/-
  A run over a fresh table, whose output has the entries that the
  resolved citations find in the labelled table.
-/
structure RunOutput.Labels
    (out : RunOutput)
    (config : RunConfig)
    (t : Table)
    (citations : List Text) : Prop where
  fresh : t.Fresh
  resolved : out.citations =
    t.resolveCitations citations config.minCrossrefs
  table : out.table = t.labelled config.labelStyle out.citations
  headings : out.style.entries.map FormattedEntry.heading =
    (out.citations.filterMap out.table.find?).mapIdx (headingAfter 0)
  width : out.style.labelWidth =
    maximum (out.style.entries.map (fun f => f.label.length))

namespace RunOutput.Labels

variable {config : RunConfig}
variable {out : RunOutput}
variable {citations : List Text}

theorem distinct
    (h : out.Labels config t citations) :
    out.citations.Pairwise (fun a b => sameKey a b = false) := by
  rw [h.resolved]
  exact pairwise_resolveCitations ..

/- Every formatted entry stands for an item of the table. -/
theorem formatted
    (h : out.Labels config t citations)
    {i : Nat}
    {f : FormattedEntry}
    (hPlace : out.style.entries[i]? = some f) :
    ∃ item ∈ out.table.entries,
      out.table.get? item.1 = some item.2 ∧
        item.2.number = some (i + 1) ∧
        item.2.label = some f.label ∧
        f.key = item.1 ∧
        f.label = config.labelStyle.label (i + 1) item.1 := by
  have hHeadings := h.headings
  rw [h.table] at hHeadings ⊢
  rcases StyleOutput.formatted_of_getElem? h.fresh h.distinct hHeadings
    hPlace with ⟨item, hItem, hKey, hLabel⟩
  rcases find?_labelled_of_getElem? h.fresh h.distinct hItem with
    ⟨hGet, hNumber, hSame⟩
  rcases List.mem_filterMap.1 (List.mem_of_getElem? hItem) with
    ⟨citation, _, hFind⟩
  refine ⟨item, mem_of_find? hFind, hGet, hNumber, ?_, hKey, hLabel⟩
  rw [hSame, hLabel]

/- Every item with a label has been formatted. -/
theorem exists_formatted
    (h : out.Labels config t citations)
    {item : Text × Entry}
    {label : Text}
    (hMem : item ∈ out.table.entries)
    (hLabel : item.2.label = some label) :
    ∃ f ∈ out.style.entries, f.label = label := by
  rw [h.table] at hMem
  have hCited : ∃ citation ∈ out.citations,
      sameKey citation item.1 = true := by
    apply Decidable.byContradiction
    intro hNone
    have hOther : ∀ citation ∈ out.citations,
        sameKey citation item.1 = false := by
      intro citation hCitation
      exact Bool.eq_false_iff.2
        (fun hSame => hNone ⟨citation, hCitation, hSame⟩)
    have hUnlabelled := unlabelled_of_mem_labelled h.fresh hMem hOther
    rw [hUnlabelled.2] at hLabel
    cases hLabel
  rcases hCited with ⟨citation, hCitation, hSame⟩
  have hFind : out.table.find? citation = some item := by
    rw [h.table, find?_congr hSame]
    exact find?_of_mem (distinct_labelled h.fresh) hMem
  rcases List.mem_iff_getElem?.1
    (List.mem_filterMap.2 ⟨citation, hCitation, hFind⟩) with ⟨i, hPlace⟩
  have hHeading := congrArg (fun headings => headings[i]?) h.headings
  rw [List.getElem?_map, List.getElem?_mapIdx, hPlace] at hHeading
  rcases Option.map_eq_some_iff.1 hHeading with ⟨f, hFormatted, hEq⟩
  refine ⟨f, List.mem_of_getElem? hFormatted, ?_⟩
  rw [headingAfter, hLabel] at hEq
  exact congrArg (fun heading => heading.2) hEq

/- Such a run is as described. -/
theorem describes
    (h : out.Labels config t citations) :
    out.Describes config t citations := by
  refine ⟨h.resolved, ?_, ?_, ?_, ?_, ?_, ?_⟩
  · have hKeys := congrArg (List.map (fun heading => heading.1))
      h.headings
    rw [map_fst_mapIdx_headingAfter, List.map_map, List.map_filterMap]
      at hKeys
    refine hKeys.trans ?_
    congr 1
    funext key
    rw [← canonicalKey?, h.table, labelled, canonicalKey?_labelFrom]
  · intro i f hPlace
    rcases h.formatted hPlace with ⟨item, _, _, _, _, hKey, hLabel⟩
    rw [hLabel, hKey]
    cases config.labelStyle <;> rfl
  · rw [List.Nodup, List.pairwise_map, List.pairwise_iff_getElem]
    intro i j hi hj hLess
    rcases h.formatted (List.getElem?_eq_getElem hi) with
      ⟨a, _, hGetA, hNumberA, _, _, hLabelA⟩
    rcases h.formatted (List.getElem?_eq_getElem hj) with
      ⟨b, _, hGetB, hNumberB, _, _, hLabelB⟩
    rw [hLabelA, hLabelB]
    refine LabelStyle.label_ne (by omega) ?_
    intro hEq
    rw [hEq, hGetB] at hGetA
    rw [← Option.some.inj hGetA, hNumberB] at hNumberA
    have hSame := Option.some.inj hNumberA
    omega
  · intro i f hPlace
    rcases h.formatted hPlace with
      ⟨item, _, hGet, hNumber, hLabel, hKey, _⟩
    rw [hKey]
    exact ⟨item.2, hGet, hNumber, hLabel⟩
  · intro item hMem hOther
    rw [h.table] at hMem
    exact unlabelled_of_mem_labelled h.fresh hMem hOther
  · rw [h.width, labelWidth]
    apply maximum_congr
    intro n
    rw [List.mem_map, List.mem_filterMap]
    constructor
    · rintro ⟨f, hMem, rfl⟩
      rcases List.mem_iff_getElem?.1 hMem with ⟨i, hPlace⟩
      rcases h.formatted hPlace with ⟨item, hItem, _, _, hLabel, _⟩
      exact ⟨item, hItem, congrArg (Option.map List.length) hLabel⟩
    · rintro ⟨item, hItem, hLength⟩
      rcases Option.map_eq_some_iff.1 hLength with ⟨label, hLabel, rfl⟩
      rcases h.exists_formatted hItem hLabel with ⟨f, hMem, rfl⟩
      exact ⟨f, hMem, rfl⟩

end RunOutput.Labels

------------------------------------------------------------
-- Runs
------------------------------------------------------------

/-
  A run that ends does not end at a label that is taken, and if it
  succeeds, its output is as described.
-/
theorem RunConfig.run_describes
    (config : RunConfig)
    (fuel : Nat)
    (text : Text)
    (p : Program)
    (citations : List Text)
    (result : Except Error RunOutput)
    (hRun : config.run fuel text p citations = some result) :
    (∀ e key, result = .error e → e.kind ≠ .alreadyLabelled key) ∧
      ∀ out, result = .ok out →
        out.Describes config (config.parse text).table citations := by
  have hFresh : (config.parse text).table.Fresh :=
    Database.fresh_parse config.parser text
  have hDistinct := pairwise_resolveCitations (config.parse text).table
    citations config.minCrossrefs
  dsimp only [run, runTable, resolve] at hRun
  rw [assignLabels_eq_ok hFresh hDistinct] at hRun
  dsimp only at hRun
  generalize hStyle : p.runStyle _ fuel _ = outcome at hRun
  cases outcome with
  | unfinished => cases hRun
  | finished ended m =>
      cases ended with
      | error err =>
          cases hRun
          constructor
          · rintro e key ⟨⟩ hKind
            have hCause := Program.runStyle_failsWithin p _ fuel _ err m
              hStyle
            rw [hKind] at hCause
            rcases hCause with hOwn | hCategory
            · cases hOwn
            · cases hCategory
          · rintro out ⟨⟩
      | ok style =>
          cases hRun
          constructor
          · rintro e key ⟨⟩
          · rintro out ⟨⟩
            rcases Program.headings_runStyle hStyle with
              ⟨hHeadings, hWidth⟩
            have hLabels : RunOutput.Labels
                ⟨_, _, style, (config.parse text).diagnostics⟩ config
                (config.parse text).table citations :=
              ⟨hFresh, rfl, rfl, hHeadings, hWidth⟩
            exact hLabels.describes

/- Two entries name a third one, and a citation is unknown. -/
def RunConfig.sampleText : Text :=
  ("@misc\x7bB, crossref = \x7bp\x7d\x7d" ++
    "@misc\x7bA, crossref = \x7bP\x7d\x7d" ++
    "@misc\x7bP, title = \x7bT\x7d\x7d").toList

/- A style that writes the keys of the entries. -/
def RunConfig.sampleProgram : Program :=
  { Program.empty with
    entryRoutine := [.call "cite$".toList, .call "write$".toList] }

theorem RunConfig.run_describes_sample :
    ∃ out,
      RunConfig.standard.run 20 sampleText sampleProgram
          ["b".toList, "none".toList, "a".toList, "B".toList] =
        some (.ok out) ∧
      out.style.entries =
        [⟨"B".toList, "1".toList, "B".toList⟩,
          ⟨"A".toList, "2".toList, "A".toList⟩,
          ⟨"P".toList, "3".toList, "P".toList⟩] ∧
      out.Describes RunConfig.standard
        (RunConfig.standard.parse sampleText).table
        ["b".toList, "none".toList, "a".toList, "B".toList] := by
  have hRun : ((RunConfig.standard.run 20 sampleText sampleProgram
        ["b".toList, "none".toList, "a".toList, "B".toList]).bind
      Except.toOption).map (fun out => out.style.entries) =
        some [⟨"B".toList, "1".toList, "B".toList⟩,
          ⟨"A".toList, "2".toList, "A".toList⟩,
          ⟨"P".toList, "3".toList, "P".toList⟩] := by
    decide +kernel
  rcases Option.map_eq_some_iff.1 hRun with ⟨out, hOut, hEntries⟩
  rcases Option.bind_eq_some_iff.1 hOut with ⟨result, hResult, hOk⟩
  cases result with
  | error err => cases hOk
  | ok produced =>
      cases hOk
      exact ⟨out, hResult, hEntries,
        (run_describes .standard 20 sampleText sampleProgram _ _
          hResult).2 out rfl⟩

end Bibliography
