import Bibliography.Proofs.Person.Pieces

/-
  The grammar of personal names.

  Reading a name is described without the searches for the von
  part: which words there are, in which order they fill the parts
  of the person, and which of them are in lower case.  Every name
  with two commas at most fits the grammar with exactly one person,
  and that is the person read.

  Key definitions include:
    * `Person.IsDivided`
    * `Person.IsArranged`

  Key statements include:
    * `Person.splitAfterVon_eq`
    * `Person.splitBeforeVon_eq`
    * `Person.isDivided_ofWords`
    * `Person.IsDivided.ofWords_eq`
    * `Person.parse_grammar`
-/

------------------------------------------------------------
-- The Von Part and the Last Name
------------------------------------------------------------

namespace Bibliography

namespace Person

/-
  The von part ends with a lower-case word, and none is left in
  the last name but as its final word.
-/
theorem splitAfterVon_spec (words : List Text) :
    (words ≠ [] → (splitAfterVon words).2 ≠ []) ∧
      (∀ w ∈ (splitAfterVon words).1.getLast?,
        w.isLowercaseWord = true) ∧
      ∀ w ∈ (splitAfterVon words).2.dropLast,
        w.isLowercaseWord = false := by
  fun_induction splitAfterVon words with
  | case1 => simp
  | case2 w => simp
  | case3 w rest hRest last hSplit hLower ih =>
      rw [hSplit] at ih
      rcases ih with ⟨hLast, _, hProper⟩
      refine ⟨fun _ => hLast hRest, ?_, hProper⟩
      simpa using hLower
  | case4 w rest hRest last hSplit hLower ih =>
      rw [hSplit] at ih
      rcases ih with ⟨hLast, _, hProper⟩
      refine ⟨by simp, by simp, ?_⟩
      rw [List.dropLast_cons_of_ne_nil (hLast hRest)]
      exact List.forall_mem_cons.2
        ⟨Bool.eq_false_iff.2 hLower, hProper⟩
  | case5 w rest hRest von last hVon hSplit ih =>
      rw [hSplit] at ih
      rcases ih with ⟨hLast, hLower, hProper⟩
      refine ⟨fun _ => hLast hRest, ?_, hProper⟩
      rcases List.exists_cons_of_ne_nil hVon with ⟨v, more, rfl⟩
      rwa [List.getLast?_cons_cons]

theorem splitAfterVon_cons
    (w : Text)
    {rest : List Text}
    (h : rest ≠ []) :
    splitAfterVon (w :: rest) =
      match splitAfterVon rest with
      | ([], last) =>
          if w.isLowercaseWord then ([w], last)
          else ([], w :: last)
      | (von, last) => (w :: von, last) := by
  cases rest with
  | nil => exact absurd rfl h
  | cons u more => rfl

/- Words without a lower-case one before the last are no von part. -/
theorem splitAfterVon_of_proper
    {last : List Text}
    (hProper : ∀ w ∈ last.dropLast, w.isLowercaseWord = false) :
    splitAfterVon last = ([], last) := by
  induction last with
  | nil => rfl
  | cons w rest ih =>
      by_cases hRest : rest = []
      · rw [hRest]
        rfl
      · rw [List.dropLast_cons_of_ne_nil hRest] at hProper
        rcases List.forall_mem_cons.1 hProper with ⟨hFirst, hMore⟩
        rw [splitAfterVon_cons w hRest, ih hMore]
        simp [hFirst]

/- There is no other division with these properties. -/
theorem splitAfterVon_eq
    {von last : List Text}
    (hLast : von ≠ [] → last ≠ [])
    (hLower : ∀ w ∈ von.getLast?, w.isLowercaseWord = true)
    (hProper : ∀ w ∈ last.dropLast, w.isLowercaseWord = false) :
    splitAfterVon (von ++ last) = (von, last) := by
  induction von with
  | nil => exact splitAfterVon_of_proper hProper
  | cons w rest ih =>
      have hNonempty : rest ++ last ≠ [] := by
        simp [hLast (List.cons_ne_nil w rest)]
      have hMore : splitAfterVon (rest ++ last) = (rest, last) := by
        refine ih (fun _ => hLast (List.cons_ne_nil w rest)) ?_
        intro v hMem
        refine hLower v ?_
        rw [List.getLast?_cons, hMem]
        rfl
      rw [List.cons_append, splitAfterVon_cons w hNonempty, hMore]
      cases rest with
      | nil =>
          have hWord : w.isLowercaseWord = true := hLower w rfl
          simp [hWord]
      | cons v more => rfl

------------------------------------------------------------
-- The Given Names
------------------------------------------------------------

/-
  No word before the von part is in lower case.  What is left
  begins with such a word, or it is the final word alone.
-/
theorem splitBeforeVon_spec (words : List Text) :
    (∀ w ∈ (splitBeforeVon words).1, w.isLowercaseWord = false) ∧
      (words ≠ [] → (splitBeforeVon words).2 ≠ []) ∧
      ((splitBeforeVon words).2.length ≤ 1 ∨
        ∀ w ∈ (splitBeforeVon words).2.head?,
          w.isLowercaseWord = true) := by
  fun_induction splitBeforeVon words with
  | case1 => simp
  | case2 w => simp
  | case3 w rest hRest hLower =>
      refine ⟨by simp, by simp, .inr ?_⟩
      simpa using hLower
  | case4 w rest hRest hLower before after hSplit ih =>
      rw [hSplit] at ih
      rcases ih with ⟨hBefore, hAfter, hBegins⟩
      refine ⟨?_, fun _ => hAfter hRest, hBegins⟩
      exact List.forall_mem_cons.2
        ⟨Bool.eq_false_iff.2 hLower, hBefore⟩

theorem splitBeforeVon_cons
    (w : Text)
    {rest : List Text}
    (h : rest ≠ []) :
    splitBeforeVon (w :: rest) =
      if w.isLowercaseWord then ([], w :: rest)
      else
        (w :: (splitBeforeVon rest).1, (splitBeforeVon rest).2) := by
  rw [splitBeforeVon]
  exact h

/- There is no other division with these properties. -/
theorem splitBeforeVon_eq
    {given family : List Text}
    (hGiven : ∀ w ∈ given, w.isLowercaseWord = false)
    (hFamily : given ≠ [] → family ≠ [])
    (hBegins : family.length ≤ 1 ∨
      ∀ w ∈ family.head?, w.isLowercaseWord = true) :
    splitBeforeVon (given ++ family) = (given, family) := by
  induction given with
  | nil =>
      cases family with
      | nil => rfl
      | cons w rest =>
          by_cases hRest : rest = []
          · rw [hRest]
            rfl
          · have hLower : w.isLowercaseWord = true := by
              rcases hBegins with hShort | hWord
              · have hLength := List.length_pos_iff.2 hRest
                rw [List.length_cons] at hShort
                omega
              · exact hWord w rfl
            rw [List.nil_append, splitBeforeVon_cons w hRest,
              if_pos hLower]
  | cons w rest ih =>
      rcases List.forall_mem_cons.1 hGiven with ⟨hFirst, hMore⟩
      have hNonempty := hFamily (List.cons_ne_nil w rest)
      have hRest : rest ++ family ≠ [] := by
        simp [hNonempty]
      rw [List.cons_append, splitBeforeVon_cons w hRest,
        ih hMore (fun _ => hNonempty), hFirst]
      rfl

------------------------------------------------------------
-- Divided Persons
------------------------------------------------------------

/-
  A person as a name leaves it: one first name, if there are given
  names at all, and a von part that runs up to the last lower-case
  word before the final word of the family.
-/
structure IsDivided (p : Person) : Prop where
  first : p.first.length ≤ 1
  middle : p.first = [] → p.middle = []
  last : p.family ≠ [] → p.last ≠ []
  prelast : ∀ w ∈ p.prelast.getLast?, w.isLowercaseWord = true
  proper : ∀ w ∈ p.last.dropLast, w.isLowercaseWord = false

variable {p : Person}

theorem isDivided_ofWords
    (givenWords familyWords lineageWords : List Text) :
    (ofWords givenWords familyWords lineageWords).IsDivided := by
  have hSplit := splitAfterVon_spec familyWords
  have hFamily :
      (ofWords givenWords familyWords lineageWords).family =
        familyWords :=
    splitAfterVon_append familyWords
  refine ⟨?_, ?_, ?_, hSplit.2.1, hSplit.2.2⟩
  · exact List.length_take_le 1 givenWords
  · intro hFirst
    cases givenWords with
    | nil => rfl
    | cons w rest => cases hFirst
  · rw [hFamily]
    exact hSplit.1

theorem given_ofWords
    (givenWords familyWords lineageWords : List Text) :
    (ofWords givenWords familyWords lineageWords).given =
      givenWords :=
  List.take_append_drop 1 givenWords

theorem family_ofWords
    (givenWords familyWords lineageWords : List Text) :
    (ofWords givenWords familyWords lineageWords).family =
      familyWords :=
  splitAfterVon_append familyWords

/- A divided person is found again from its words. -/
theorem IsDivided.ofWords_eq
    (h : p.IsDivided) :
    ofWords p.given p.family p.lineage = p := by
  have hLast : p.prelast ≠ [] → p.last ≠ [] := by
    intro hPrelast
    refine h.last ?_
    simp [family, hPrelast]
  have hSplit := splitAfterVon_eq hLast h.prelast h.proper
  have hFirst : p.given.take 1 = p.first ∧
      p.given.drop 1 = p.middle := by
    have hShort := h.first
    cases hWords : p.first with
    | nil => simp [given, hWords, h.middle hWords]
    | cons w rest =>
        rw [hWords, List.length_cons] at hShort
        have hRest : rest = [] :=
          List.length_eq_zero_iff.1 (by omega)
        simp [given, hWords, hRest]
  rcases p with ⟨first, middle, prelast, last, lineage⟩
  simp only [ofWords, family, hSplit, hFirst]

/-
  Whether words can be told to be those of the family without a
  comma: they begin with a lower-case word, or they are one word.
-/
def HasPlainFamily (p : Person) : Prop :=
  p.family.length ≤ 1 ∨
    ∀ w ∈ p.family.head?, w.isLowercaseWord = true

instance : Decidable p.HasPlainFamily :=
  inferInstanceAs (Decidable (_ ∨ _))

/- In a divided person this is said of the von part alone. -/
theorem IsDivided.hasPlainFamily_iff
    (h : p.IsDivided) :
    p.HasPlainFamily ↔
      (∀ w ∈ p.prelast.head?, w.isLowercaseWord = true) ∧
        (p.prelast = [] → p.last.length ≤ 1) := by
  have hFamily : p.family = p.prelast ++ p.last := rfl
  rw [HasPlainFamily, hFamily]
  cases hPrelast : p.prelast with
  | nil =>
      rw [List.nil_append]
      constructor
      · intro hPlain
        refine ⟨by simp, fun _ => ?_⟩
        rcases hPlain with hShort | hLower
        · exact hShort
        · -- a lower-case word before the final one is not left here
          have hProper := h.proper
          match hLast : p.last with
          | [] => simp
          | [w] => simp
          | w :: u :: more =>
              rw [hLast] at hProper hLower
              have hWord := hLower w rfl
              rw [hProper w (by simp)] at hWord
              cases hWord
      · exact fun hPlain => .inl (hPlain.2 rfl)
  | cons v more =>
      have hLast : p.last ≠ [] := by
        refine h.last ?_
        simp [hFamily, hPrelast]
      have hLong := List.length_pos_iff.2 hLast
      constructor
      · rintro (hShort | hLower)
        · rw [List.length_append, List.length_cons] at hShort
          omega
        · exact ⟨hLower, by simp⟩
      · exact fun hPlain => .inr hPlain.1

------------------------------------------------------------
-- The Three Forms
------------------------------------------------------------

/-
  How the pieces of a name fill the parts of a person.

  Without a comma the words are given names, von part and last name
  in this order, and the von part is where lower case begins; if no
  word before the final one is in lower case, that word alone is
  the last name.  With commas each piece has its own part.
-/
inductive IsArranged (p : Person) : List Text → Prop
  | plain
      {whole : Text}
      (hWords : p.given ++ p.family = whole.trim.words)
      (hGiven : ∀ w ∈ p.given, w.isLowercaseWord = false)
      (hVon : ∀ w ∈ p.prelast.head?, w.isLowercaseWord = true)
      (hLast : whole.trim.words ≠ [] → p.last ≠ [])
      (hSingle : p.prelast = [] → p.last.length ≤ 1)
      (hLineage : p.lineage = []) :
      IsArranged p [whole]
  | reversed
      {vonLast given : Text}
      (hFamily : p.family = vonLast.trim.words)
      (hGiven : p.given = given.trim.words)
      (hLineage : p.lineage = []) :
      IsArranged p [vonLast, given]
  | suffixed
      {vonLast lineage given : Text}
      (hFamily : p.family = vonLast.trim.words)
      (hLineage : p.lineage = lineage.trim.words)
      (hGiven : p.given = given.trim.words) :
      IsArranged p [vonLast, lineage, given]

/- The person that the trimmed pieces of a name give. -/
def ofPieces? : List Text → Option Person
  | [vonLast, lineage, given] =>
      some (ofWords given.words vonLast.words lineage.words)
  | [vonLast, given] =>
      some (ofWords given.words vonLast.words [])
  | [whole] =>
      some (ofWords (splitBeforeVon whole.words).1
        (splitBeforeVon whole.words).2 [])
  | _ => none

/- An empty name is no special case. -/
theorem parse_eq_ofPieces (name : Text) :
    parse name =
      (ofPieces? ((Text.splitOutside [','] name.trim).map
        Text.trim)).elim
          (.error (.of (.invalidName name.trim))) .ok := by
  unfold parse
  dsimp only
  split
  · rename_i hEmpty
    rw [List.isEmpty_iff.1 hEmpty,
      Text.splitOutside_of_cut?_none rfl]
    rfl
  · generalize (Text.splitOutside [','] name.trim).map Text.trim =
      pieces
    match pieces with
    | [] => rfl
    | [whole] => rfl
    | [vonLast, given] => rfl
    | [vonLast, lineage, given] => rfl
    | _ :: _ :: _ :: _ :: _ => rfl

theorem parse_of_divided
    {name : Text}
    {pieces : List Text}
    (h : name.trim.DividedAtCommas pieces) :
    parse name =
      (ofPieces? (pieces.map Text.trim)).elim
        (.error (.of (.invalidName name.trim))) .ok := by
  rw [parse_eq_ofPieces, h.splitOutside_eq]

/- White space around the name makes no difference. -/
theorem parse_of_dividedText
    {name : Text}
    {pieces : List Text}
    (h : name.DividedAtCommas pieces) :
    parse name =
      (ofPieces? (pieces.map Text.trim)).elim
        (.error (.of (.invalidName name.trim))) .ok := by
  rw [parse_eq_ofPieces, Text.map_trim_splitOutside_trim,
    h.splitOutside_eq]

/- A name without commas is arranged in the plain form. -/
theorem isArranged_splitBeforeVon (whole : Text) :
    (ofWords (splitBeforeVon whole.trim.words).1
      (splitBeforeVon whole.trim.words).2 []).IsArranged
        [whole] := by
  rcases splitBeforeVon_spec whole.trim.words with
    ⟨hGiven, hNonempty, hBegins⟩
  have hDivided := isDivided_ofWords
    (splitBeforeVon whole.trim.words).1
    (splitBeforeVon whole.trim.words).2 []
  have hPlain := hDivided.hasPlainFamily_iff.1
    (by rwa [HasPlainFamily, family_ofWords])
  refine .plain ?_ ?_ hPlain.1 ?_ hPlain.2 rfl
  · rw [given_ofWords, family_ofWords, splitBeforeVon_append]
  · rw [given_ofWords]
    exact hGiven
  · intro hWords
    refine hDivided.last ?_
    rw [family_ofWords]
    exact hNonempty hWords

/- The plain form leaves one way to divide the words. -/
theorem HasPlainFamily.splitBeforeVon_eq
    {words : List Text}
    (h : p.HasPlainFamily)
    (hWords : p.given ++ p.family = words)
    (hGiven : ∀ w ∈ p.given, w.isLowercaseWord = false)
    (hLast : words ≠ [] → p.last ≠ []) :
    splitBeforeVon words = (p.given, p.family) := by
  rw [← hWords]
  refine Person.splitBeforeVon_eq hGiven ?_ h
  intro hNonempty
  have hFinal : p.last ≠ [] := by
    refine hLast ?_
    simp [← hWords, hNonempty]
  simp [family, hFinal]

/- What is read is divided and arranged as the name says. -/
theorem isArranged_of_parse
    {name : Text}
    (h : parse name = .ok p) :
    p.IsDivided ∧
      ∃ pieces, name.trim.DividedAtCommas pieces ∧
        p.IsArranged pieces := by
  have hPieces := Text.dividedAtCommas_splitOutside name.trim
  generalize Text.splitOutside [','] name.trim = pieces at hPieces
  rw [parse_of_divided hPieces] at h
  match pieces with
  | [] => cases h
  | [whole] =>
      cases h
      exact ⟨isDivided_ofWords _ _ _, _, hPieces,
        isArranged_splitBeforeVon whole⟩
  | [vonLast, given] =>
      cases h
      exact ⟨isDivided_ofWords _ _ _, _, hPieces,
        .reversed (family_ofWords _ _ _) (given_ofWords _ _ _) rfl⟩
  | [vonLast, lineage, given] =>
      cases h
      exact ⟨isDivided_ofWords _ _ _, _, hPieces,
        .suffixed (family_ofWords _ _ _) rfl (given_ofWords _ _ _)⟩
  | _ :: _ :: _ :: _ :: _ => cases h

/- A divided person that the name arranges is the one read. -/
theorem IsArranged.parse_eq
    {name : Text}
    {pieces : List Text}
    (h : p.IsArranged pieces)
    (hDivided : p.IsDivided)
    (hPieces : name.trim.DividedAtCommas pieces) :
    parse name = .ok p := by
  have hPerson := hDivided.ofWords_eq
  rw [parse_of_divided hPieces]
  cases h with
  | plain hWords hGiven hVon hLast hSingle hLineage =>
      have hPlain := hDivided.hasPlainFamily_iff.2 ⟨hVon, hSingle⟩
      rw [hLineage] at hPerson
      rw [List.map_singleton, ofPieces?,
        hPlain.splitBeforeVon_eq hWords hGiven hLast, hPerson]
      rfl
  | reversed hFamily hGiven hLineage =>
      rw [hFamily, hGiven, hLineage] at hPerson
      exact congrArg Except.ok hPerson
  | suffixed hFamily hLineage hGiven =>
      rw [hFamily, hGiven, hLineage] at hPerson
      exact congrArg Except.ok hPerson

/- The grammar gives one person to a name, the one that is read. -/
theorem parse_eq_ok_iff
    {name : Text} :
    parse name = .ok p ↔
      p.IsDivided ∧
        ∃ pieces, name.trim.DividedAtCommas pieces ∧
          p.IsArranged pieces := by
  constructor
  · exact isArranged_of_parse
  · rintro ⟨hDivided, pieces, hPieces, hArranged⟩
    exact hArranged.parse_eq hDivided hPieces

/- Three commas are too many, and there is no other failure. -/
theorem parse_eq_error_iff
    {name : Text}
    {err : Error} :
    parse name = .error err ↔
      err = .of (.invalidName name.trim) ∧
        3 ≤ name.trim.commas := by
  have hPieces := Text.dividedAtCommas_splitOutside name.trim
  generalize Text.splitOutside [','] name.trim = pieces at hPieces
  have hLength := hPieces.length_eq
  rw [parse_of_divided hPieces]
  match pieces with
  | [] => simp at hLength
  | [a] =>
      simp only [List.length_cons, List.length_nil] at hLength
      simp [ofPieces?]
      omega
  | [a, b] =>
      simp only [List.length_cons, List.length_nil] at hLength
      simp [ofPieces?]
      omega
  | [a, b, c] =>
      simp only [List.length_cons, List.length_nil] at hLength
      simp [ofPieces?]
      omega
  | a :: b :: c :: d :: rest =>
      simp only [List.length_cons] at hLength
      have hMany : 3 ≤ name.trim.commas := by omega
      simp [ofPieces?, hMany, eq_comm]

/-
  The grammar of names.  A name fails with three commas or more
  outside of groups, and its trimmed text is in the error.  Any
  other name is read as the person that is divided, and arranged by
  the pieces between the commas; there is one such person.
-/
theorem parse_grammar (name : Text) :
    (∀ err, parse name = .error err ↔
      err = .of (.invalidName name.trim) ∧
        3 ≤ name.trim.commas) ∧
      ∀ p, parse name = .ok p ↔
        p.IsDivided ∧
          ∃ pieces, name.trim.DividedAtCommas pieces ∧
            p.IsArranged pieces :=
  ⟨fun _ => parse_eq_error_iff, fun _ => parse_eq_ok_iff⟩

/- A name all in lower case keeps its final word as last name. -/
example :
    parse "jean de la fontaine".toList =
      .ok ⟨[], [], ["jean".toList, "de".toList, "la".toList],
        ["fontaine".toList], []⟩ := by
  decide +kernel

end Person

end Bibliography
