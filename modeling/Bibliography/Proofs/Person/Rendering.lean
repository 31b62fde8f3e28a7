import Bibliography.Proofs.Person.Grammar
import Bibliography.Proofs.Text.Words

/-
  Rendered names read back.

  A rendered name has a comma if it has a lineage or given names,
  and then every piece is read into the part that it was written
  from.  Without a comma all that is written is the family, which
  is read in the plain form.  Its words come back, but words before
  the first lower-case one are taken for given names: a family that
  stood alone before a comma is not always a family any more.

  Key statements include:
    * `Person.parse_render_of_comma`
    * `Person.parse_render_of_family`
    * `Person.parse_render_iff`
    * `Person.parse_render_familyAlone`
-/

------------------------------------------------------------
-- Words behind a Comma
------------------------------------------------------------

namespace Bibliography

namespace Text

/-
  The blank of a separator is counted to the piece behind it, so
  that every piece but the first is words with a blank in front.
-/
def behindComma (ws : List Text) : Text :=
  ' ' :: unwords ws

variable {ws : List Text}

theorem commas_behindComma
    (h : ∀ w ∈ ws, w.IsWord) : (behindComma ws).commas = 0 := by
  have hZero : nest 0 ' ' = 0 := by decide
  have hWords := commas_unwords h
  rw [commas] at hWords
  rw [behindComma, commas, commasFrom, hZero, hWords]
  rfl

theorem foldl_nest_unwords
    (h : ∀ w ∈ ws, w.IsWord) : (unwords ws).foldl nest 0 = 0 :=
  foldl_nest_of_isBalanced (isBalanced_unwords h) 0

theorem foldl_nest_behindComma
    (h : ∀ w ∈ ws, w.IsWord) : (behindComma ws).foldl nest 0 = 0 := by
  have hZero : nest 0 ' ' = 0 := by decide
  rw [behindComma, List.foldl_cons, hZero, foldl_nest_unwords h]

theorem words_trim_unwords
    (h : ∀ w ∈ ws, w.IsWord) : (unwords ws).trim.words = ws := by
  rw [words_trim (isBalanced_unwords h), words_unwords h]

theorem words_trim_behindComma
    (h : ∀ w ∈ ws, w.IsWord) : (behindComma ws).trim.words = ws := by
  rw [behindComma, trim_cons_of_isSpace (by decide),
    words_trim_unwords h]

end Text

------------------------------------------------------------
-- The Pieces of a Rendered Name
------------------------------------------------------------

namespace Person

variable {p : Person}

theorem IsWellFormed.given
    (h : p.IsWellFormed) : ∀ w ∈ p.given, w.IsWord :=
  fun w hMem =>
    h w (List.mem_append_left _ (List.mem_append_left _ hMem))

theorem IsWellFormed.family
    (h : p.IsWellFormed) : ∀ w ∈ p.family, w.IsWord :=
  fun w hMem =>
    h w (List.mem_append_left _ (List.mem_append_right _ hMem))

theorem IsWellFormed.lineage
    (h : p.IsWellFormed) : ∀ w ∈ p.lineage, w.IsWord :=
  fun w hMem => h w (List.mem_append_right _ hMem)

/- Words that are written leave no empty text. -/
theorem unwords_eq_nil_iff
    {ws : List Text}
    (h : ∀ w ∈ ws, w.IsWord) : Text.unwords ws = [] ↔ ws = [] := by
  constructor
  · intro hText
    have hWords := Text.words_unwords h
    rw [hText] at hWords
    exact hWords.symm
  · rintro rfl
    rfl

/- A lineage makes two commas, also if no given names follow. -/
theorem divided_render_of_lineage
    (h : p.IsWellFormed)
    (hLineage : p.lineage ≠ []) :
    p.render.DividedAtCommas
      [Text.unwords p.family, Text.behindComma p.lineage,
        Text.behindComma p.given] := by
  have hText : p.render =
      Text.unwords p.family ++
        ',' :: (Text.behindComma p.lineage ++
          ',' :: Text.behindComma p.given) := by
    simp [render, Text.behindComma, hLineage]
  rw [hText]
  refine .comma ?_ ?_ (.comma ?_ ?_ (.last ?_))
  · exact Text.commas_unwords h.family
  · exact Text.foldl_nest_unwords h.family
  · exact Text.commas_behindComma h.lineage
  · exact Text.foldl_nest_behindComma h.lineage
  · exact Text.commas_behindComma h.given

/- Given names make a comma. -/
theorem divided_render_of_given
    (h : p.IsWellFormed)
    (hLineage : p.lineage = [])
    (hGiven : p.given ≠ []) :
    p.render.DividedAtCommas
      [Text.unwords p.family, Text.behindComma p.given] := by
  have hNonempty : Text.unwords p.given ≠ [] :=
    fun hText => hGiven ((unwords_eq_nil_iff h.given).1 hText)
  have hText : p.render =
      Text.unwords p.family ++ ',' :: Text.behindComma p.given := by
    simp [render, Text.behindComma, hLineage, hNonempty]
  rw [hText]
  refine .comma ?_ ?_ (.last ?_)
  · exact Text.commas_unwords h.family
  · exact Text.foldl_nest_unwords h.family
  · exact Text.commas_behindComma h.given

/- The family alone is written without a comma. -/
theorem divided_render_of_family
    (h : p.IsWellFormed)
    (hLineage : p.lineage = [])
    (hGiven : p.given = []) :
    p.render.DividedAtCommas [Text.unwords p.family] := by
  have hText : p.render = Text.unwords p.family := by
    simp [render, hLineage, hGiven, Text.unwords, Text.join]
  rw [hText]
  exact .last (Text.commas_unwords h.family)

------------------------------------------------------------
-- Reading a Rendered Name
------------------------------------------------------------

/- With a comma every part is found again. -/
theorem parse_render_of_comma
    (hDivided : p.IsDivided)
    (h : p.IsWellFormed)
    (hComma : p.lineage ≠ [] ∨ p.given ≠ []) :
    parse p.render = .ok p := by
  have hPerson := hDivided.ofWords_eq
  by_cases hLineage : p.lineage = []
  · have hGiven := hComma.resolve_left (fun hNot => hNot hLineage)
    rw [parse_of_dividedText
      (divided_render_of_given h hLineage hGiven)]
    rw [hLineage] at hPerson
    simp only [List.map_cons, List.map_nil, ofPieces?,
      Text.words_trim_unwords h.family,
      Text.words_trim_behindComma h.given, hPerson]
    rfl
  · rw [parse_of_dividedText (divided_render_of_lineage h hLineage)]
    simp only [List.map_cons, List.map_nil, ofPieces?,
      Text.words_trim_unwords h.family,
      Text.words_trim_behindComma h.lineage,
      Text.words_trim_behindComma h.given, hPerson]
    rfl

/- Without a comma the words of the family are a plain name. -/
theorem parse_render_of_family
    (h : p.IsWellFormed)
    (hLineage : p.lineage = [])
    (hGiven : p.given = []) :
    parse p.render =
      .ok (ofWords (splitBeforeVon p.family).1
        (splitBeforeVon p.family).2 []) := by
  rw [parse_of_dividedText
    (divided_render_of_family h hLineage hGiven)]
  simp only [List.map_cons, List.map_nil, ofPieces?,
    Text.words_trim_unwords h.family]
  rfl

/- A family alone is found again exactly if it is plain. -/
theorem ofWords_splitBeforeVon_iff
    (hDivided : p.IsDivided)
    (hLineage : p.lineage = [])
    (hGiven : p.given = []) :
    ofWords (splitBeforeVon p.family).1
        (splitBeforeVon p.family).2 [] = p ↔
      p.HasPlainFamily := by
  constructor
  · intro hSame
    have hPlain := (splitBeforeVon_spec p.family).2.2
    have hFamily := family_ofWords (splitBeforeVon p.family).1
      (splitBeforeVon p.family).2 []
    rw [hSame] at hFamily
    rwa [← hFamily] at hPlain
  · intro hPlain
    have hWords : p.given ++ p.family = p.family := by
      rw [hGiven, List.nil_append]
    have hSplit := hPlain.splitBeforeVon_eq hWords
      (by simp [hGiven]) hDivided.last
    rw [hSplit, ← hLineage]
    exact hDivided.ofWords_eq

/-
  The text of a person who was read from a balanced name is a name
  with the same words in the same order.  It is read as the same
  person exactly if there is a lineage, or a given name, or the
  family is one that needs no comma.
-/
theorem parse_render_iff
    {name : Text}
    (hBalanced : name.isBalanced = true)
    (hParse : parse name = .ok p) :
    ∃ q, parse p.render = .ok q ∧
      q.given ++ q.family = p.given ++ p.family ∧
      q.lineage = p.lineage ∧
      (q = p ↔
        p.lineage ≠ [] ∨ p.given ≠ [] ∨ p.HasPlainFamily) := by
  have hDivided := (isArranged_of_parse hParse).1
  have hWords := isWellFormed_of_parse hBalanced hParse
  by_cases hComma : p.lineage ≠ [] ∨ p.given ≠ []
  · refine ⟨p, parse_render_of_comma hDivided hWords hComma,
      rfl, rfl, ?_⟩
    rw [← or_assoc]
    exact ⟨fun _ => .inl hComma, fun _ => rfl⟩
  · rw [not_or, not_not, not_not] at hComma
    rcases hComma with ⟨hLineage, hGiven⟩
    refine ⟨_, parse_render_of_family hWords hLineage hGiven,
      ?_, hLineage.symm, ?_⟩
    · rw [given_ofWords, family_ofWords, splitBeforeVon_append,
        hGiven, List.nil_append]
    · rw [ofWords_splitBeforeVon_iff hDivided hLineage hGiven]
      simp [hLineage, hGiven]

/- Words tied, words in groups, and a lineage without given names. -/
def tiedName : Text :=
  "de~la Vall\x7b\\'e\x7de \x7bLe, Roy\x7d , \x7bJr and\x7d,".toList

theorem parse_render_iff_tiedName :
    tiedName.isBalanced = true ∧
      ∃ p, parse tiedName = .ok p ∧ p.family.length = 4 ∧
        p.given = [] ∧ parse p.render = .ok p := by
  have hBalanced : tiedName.isBalanced = true := by decide +kernel
  have hRead : ∃ p, parse tiedName = .ok p ∧
      p.family.length = 4 ∧ p.given = [] ∧ p.lineage ≠ [] := by
    refine ⟨read tiedName, ?_⟩
    decide +kernel
  rcases hRead with ⟨p, hParse, hFamily, hGiven, hLineage⟩
  rcases parse_render_iff hBalanced hParse with
    ⟨q, hAgain, _, _, hSame⟩
  rw [hSame.2 (.inl hLineage)] at hAgain
  exact ⟨hBalanced, p, hParse, hFamily, hGiven, hAgain⟩

/- A family of two words in front of a comma and nothing behind. -/
def familyAlone : Text :=
  "Smith Jones,".toList

/- The first of its words comes back as a given name. -/
theorem parse_render_familyAlone :
    familyAlone.isBalanced = true ∧
      ∃ p, parse familyAlone = .ok p ∧
        p.last = ["Smith".toList, "Jones".toList] ∧
        ∃ q, parse p.render = .ok q ∧
          q.first = ["Smith".toList] ∧ q ≠ p := by
  refine ⟨by decide +kernel, read familyAlone, ?_, ?_,
    read (read familyAlone).render, ?_⟩
  · decide +kernel
  · decide +kernel
  · decide +kernel

end Person

end Bibliography
