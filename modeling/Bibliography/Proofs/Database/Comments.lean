import Bibliography.Proofs.Database.Documents
import Bibliography.Proofs.Database.Recovery

/-
  Comments among records.

  Of a comment only the marker and the opening delimiter are read,
  and the search for the next record begins right behind them.  So
  a comment is its body with the marker taken out: a body without
  at signs says nothing, and the records of another one are read.

  Key statements include:
    * `Scanner.reads_readRecord_comment`
    * `Database.parse_comment`
    * `Database.comment_recordInside`
-/

------------------------------------------------------------
-- Markers
------------------------------------------------------------

namespace Bibliography

namespace Scanner

open Grammar

/- Of a comment nothing is read behind the opening delimiter. -/
theorem reads_readRecord_comment
    {s : Scanner}
    {gapKind kind gapOpen : Text}
    {delimiter : Delimiter}
    {more : Text}
    (hRest : s.rest =
      gapKind ++ (kind ++ (gapOpen ++ delimiter.opening :: more)))
    (hGap : gapKind.isBlank = true)
    (hName : Pattern.name.accepts kind = true)
    (hKind : kind.lower = "comment".toList)
    (hOpen : gapOpen.isBlank = true)
    (config : ParserConfig)
    (macros : MacroTable) :
    (s.readRecord config macros).Reads
      (fun record => record = .comment) more := by
  rcases @readRecord_eq_readContent config macros s _ _ _ _ _
    (faces_of_rest hRest) hGap hName hOpen with ⟨s₁, hRest₁, hRead⟩
  rw [hRead, hKind, readContent, if_neg (by decide),
    if_neg (by decide), if_pos rfl]
  exact Scanned.reads_ok rfl hRest₁

end Scanner

namespace Database

open Grammar

variable {config : ParserConfig}

/- The marker of a comment adds nothing to the database. -/
theorem readRecords_comment
    {db : Database}
    {s : Scanner}
    {junk more : Text}
    (hRest : s.rest = junk ++ ("@comment\x7b".toList ++ more))
    (hJunk : '@' ∉ junk) :
    ∃ s' : Scanner, s'.rest = more ∧
      readRecords config db s = readRecords config db s' := by
  rcases Scanner.skipTo_atSign hRest hJunk with
    ⟨t, s₁, hSkip, hRest₁⟩
  rcases @Scanner.reads_readRecord_comment s₁ [] "comment".toList []
    .braces more hRest₁ rfl (by decide) (by decide) rfl config
    db.macros with ⟨record, s₂, hRead, rfl, hRest₂⟩
  refine ⟨s₂, hRest₂, ?_⟩
  rw [readRecords, hSkip]
  simp only [hRead]
  rfl

------------------------------------------------------------
-- Comments behind Records
------------------------------------------------------------

/- What is behind a document is read after what the document says. -/
theorem unlocated_parse_append
    {d : Document}
    (hWellFormed : d.isWellFormed = true)
    (hDefined : d.isDefined config = true)
    (hNames : d.hasReadableNames config = true) :
    ∃ db : Database, ∀ more : Text,
      (parse config (d.text ++ more)).unlocated =
        (readRecords config db (.ofText more)).unlocated := by
  rcases Document.isWellFormed_iff.1 hWellFormed with
    ⟨hBlocks, hTail⟩
  refine ⟨(meanings config config.macros d.records).foldl addRecord
    (initial config), ?_⟩
  intro more
  have hText : d.text ++ more =
      d.blocks.flatMap (fun item => item.1 ++ item.2.text) ++
        (d.tail ++ more) := by
    rw [Document.text, List.append_assoc]
  rcases @readRecords_append config d.blocks (initial config)
    (.ofText (d.text ++ more)) _ hText hBlocks hDefined hNames with
    ⟨s', hRest, hRun⟩
  rw [parse, hRun]
  exact (unlocated_readRecords_of_junk hTail hRest rfl).symm

/-
  Behind well-formed records a comment is read as its body without
  the marker, up to places.  If there is no at sign in the body,
  nothing comes from the comment.
-/
theorem parse_comment
    (config : ParserConfig)
    (d : Document)
    (hWellFormed : d.isWellFormed = true)
    (hDefined : d.isDefined config = true)
    (hNames : d.hasReadableNames config = true)
    (body more : Text) :
    let comment := "@comment\x7b".toList ++ (body ++ "\x7d".toList)
    (parse config (d.text ++ (comment ++ more))).unlocated =
        (parse config
          (d.text ++ (body ++ "\x7d".toList ++ more))).unlocated ∧
      ('@' ∉ body →
        (parse config (d.text ++ (comment ++ more))).unlocated =
          (parse config (d.text ++ more)).unlocated) := by
  intro comment
  rcases unlocated_parse_append hWellFormed hDefined hNames with
    ⟨db, hAppend⟩
  have hRest : (Scanner.ofText (comment ++ more)).rest =
      [] ++ ("@comment\x7b".toList ++
        (body ++ "\x7d".toList ++ more)) := by
    rw [List.nil_append, ← List.append_assoc]
    rfl
  rcases @readRecords_comment config db _ _ _ hRest
    List.not_mem_nil with ⟨s', hRest', hRun⟩
  have hMarker :
      (readRecords config db (.ofText (comment ++ more))).unlocated =
        (readRecords config db
          (.ofText (body ++ "\x7d".toList ++ more))).unlocated := by
    rw [hRun]
    exact unlocated_readRecords_of_junk List.not_mem_nil hRest'.symm
      rfl
  rw [hAppend, hAppend, hAppend]
  refine ⟨hMarker, ?_⟩
  intro hBody
  have hJunk : '@' ∉ body ++ "\x7d".toList := by
    rw [List.mem_append, not_or]
    exact ⟨hBody, by decide⟩
  rw [hMarker]
  exact (unlocated_readRecords_of_junk (s := .ofText more) hJunk rfl
    rfl).symm

/- A comment behind records that holds a field, but no at sign. -/
theorem parse_comment_sample :
    Document.sample.isWellFormed = true ∧
      Document.sample.isDefined .standard = true ∧
      Document.sample.hasReadableNames .standard = true ∧
      '@' ∉ "year = \"\x7b2000\x7d\"".toList ∧
      (parse .standard (Document.sample.text ++
        ("@comment\x7b".toList ++
          ("year = \"\x7b2000\x7d\"".toList ++ "\x7d".toList) ++
          "@misc\x7bz\x7d".toList))).unlocated =
        (parse .standard (Document.sample.text ++
          "@misc\x7bz\x7d".toList)).unlocated := by
  have hWellFormed : Document.sample.isWellFormed = true := by
    decide +kernel
  have hDefined : Document.sample.isDefined .standard = true := by
    decide +kernel
  have hNames :
      Document.sample.hasReadableNames .standard = true := by
    decide +kernel
  have hBody : '@' ∉ "year = \"\x7b2000\x7d\"".toList := by decide
  exact ⟨hWellFormed, hDefined, hNames, hBody,
    (parse_comment _ _ hWellFormed hDefined hNames _ _).2 hBody⟩

/- A record inside of a comment is read. -/
theorem comment_recordInside :
    Text.isBalanced "@misc\x7bk\x7d".toList = true ∧
      (parse .standard ("@comment\x7b".toList ++
        ("@misc\x7bk\x7d".toList ++ "\x7d".toList))).table.keys =
          ["k".toList] ∧
      (parse .standard []).table.keys = [] := by
  decide +kernel

end Database

end Bibliography
