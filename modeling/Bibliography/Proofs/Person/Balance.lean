import Bibliography.Proofs.Person.Commas

/-
  Names of balanced words.

  Dividing a name keeps its words as they are, so what holds of
  the words of its pieces holds of them in whichever part of the
  person they end.  A person of balanced words has a balanced text.

  Key definitions include:
    * `Person.words`
    * `Person.IsBalanced`

  Key statements include:
    * `Person.forall_mem_of_parse`
    * `Person.isBalanced_renderAll`
-/

------------------------------------------------------------
-- The Words of a Person
------------------------------------------------------------

namespace Bibliography

namespace Person

/- The words of all parts of a person. -/
def words (p : Person) : List Text :=
  p.given ++ p.family ++ p.lineage

/- All words of the person are balanced. -/
def IsBalanced (p : Person) : Prop :=
  ∀ w ∈ p.words, w.isBalanced = true

/- The division before the von part loses no word. -/
theorem splitBeforeVon_append (words : List Text) :
    (splitBeforeVon words).1 ++ (splitBeforeVon words).2 =
      words := by
  fun_induction splitBeforeVon words with
  | case1 => rfl
  | case2 w => rfl
  | case3 w rest hRest hLower => rfl
  | case4 w rest hRest hLower before after hSplit ih =>
      rw [hSplit] at ih
      rw [List.cons_append, ih]

/- The division after the von part loses no word. -/
theorem splitAfterVon_append (words : List Text) :
    (splitAfterVon words).1 ++ (splitAfterVon words).2 =
      words := by
  fun_induction splitAfterVon words with
  | case1 => rfl
  | case2 w => rfl
  | case3 w rest hRest last hSplit hLower ih =>
      rw [hSplit] at ih
      exact congrArg (List.cons w) ih
  | case4 w rest hRest last hSplit hLower ih =>
      rw [hSplit] at ih
      exact congrArg (List.cons w) ih
  | case5 w rest hRest von last hSplit hVon ih =>
      rw [hVon] at ih
      exact congrArg (List.cons w) ih

/- The words of a person are those of which it is made. -/
theorem forall_mem_ofWords
    {P : Text → Prop}
    {givenWords familyWords lineageWords : List Text}
    (hGiven : ∀ w ∈ givenWords, P w)
    (hFamily : ∀ w ∈ familyWords, P w)
    (hLineage : ∀ w ∈ lineageWords, P w) :
    ∀ w ∈ (ofWords givenWords familyWords lineageWords).words,
      P w := by
  intro w hMem
  have hWords :
      (ofWords givenWords familyWords lineageWords).words =
        givenWords ++ familyWords ++ lineageWords := by
    have hVon := splitAfterVon_append familyWords
    simp only [words, ofWords, given, family, List.take_append_drop,
      hVon]
  rw [hWords, List.mem_append, List.mem_append] at hMem
  rcases hMem with (hIn | hIn) | hIn
  · exact hGiven w hIn
  · exact hFamily w hIn
  · exact hLineage w hIn

/- The words of a person are words of the pieces of its name. -/
theorem forall_mem_of_parse
    {P : Text → Prop}
    {name : Text}
    {p : Person}
    (hPieces : ∀ piece ∈ Text.splitOutside [','] name.trim,
      ∀ w ∈ piece.trim.words, P w)
    (h : parse name = .ok p) : ∀ w ∈ p.words, P w := by
  have hTrimmed : ∀ piece ∈
      (Text.splitOutside [','] name.trim).map Text.trim,
      ∀ w ∈ piece.words, P w := by
    intro piece hMem
    rcases List.mem_map.1 hMem with ⟨raw, hRaw, rfl⟩
    exact hPieces raw hRaw
  have hNone : ∀ w ∈ ([] : List Text), P w := by
    simp
  unfold parse at h
  dsimp only at h
  split at h
  · cases h
    exact hNone
  · split at h
    · rename_i vonLast lineage given hThree
      rw [hThree] at hTrimmed
      cases h
      exact forall_mem_ofWords (hTrimmed given (by simp))
        (hTrimmed vonLast (by simp)) (hTrimmed lineage (by simp))
    · rename_i vonLast given hTwo
      rw [hTwo] at hTrimmed
      cases h
      exact forall_mem_ofWords (hTrimmed given (by simp))
        (hTrimmed vonLast (by simp)) hNone
    · rename_i whole hOne
      rw [hOne] at hTrimmed
      have hWords := splitBeforeVon_append whole.words
      have hWhole := hTrimmed whole (by simp)
      rw [← hWords] at hWhole
      cases h
      refine forall_mem_ofWords ?_ ?_ hNone
      · intro w hMem
        exact hWhole w (List.mem_append_left _ hMem)
      · intro w hMem
        exact hWhole w (List.mem_append_right _ hMem)
    · cases h

------------------------------------------------------------
-- The Text of a Person
------------------------------------------------------------

/- A balanced person has a balanced text. -/
theorem isBalanced_render
    {p : Person}
    (h : p.IsBalanced) : p.render.isBalanced = true := by
  have hUnwords : ∀ words : List Text,
      (∀ w ∈ words, w.isBalanced = true) →
        (Text.unwords words).isBalanced = true :=
    fun words hWords => Text.isBalanced_join (by decide) hWords
  have hGiven : (Text.unwords p.given).isBalanced = true := by
    apply hUnwords _
    intro w hMem
    exact h w (List.mem_append_left _ (List.mem_append_left _ hMem))
  have hFamily : (Text.unwords p.family).isBalanced = true := by
    apply hUnwords _
    intro w hMem
    exact h w
      (List.mem_append_left _ (List.mem_append_right _ hMem))
  have hLineage : (Text.unwords p.lineage).isBalanced = true := by
    apply hUnwords _
    intro w hMem
    exact h w (List.mem_append_right _ hMem)
  have hComma : Text.isBalanced ", ".toList = true := by decide
  unfold render
  dsimp only
  split
  · exact Text.isBalanced_append
      (Text.isBalanced_append
        (Text.isBalanced_append
          (Text.isBalanced_append hFamily hComma) hLineage)
        hComma) hGiven
  · split
    · exact hFamily
    · exact Text.isBalanced_append
        (Text.isBalanced_append hFamily hComma) hGiven

/- A list of balanced persons has a balanced text. -/
theorem isBalanced_renderAll
    {persons : List Person}
    (h : ∀ p ∈ persons, p.IsBalanced) :
    (renderAll persons).isBalanced = true := by
  apply Text.isBalanced_join (by decide)
  intro t hMem
  rcases List.mem_map.1 hMem with ⟨p, hIn, rfl⟩
  exact isBalanced_render (h p hIn)

end Person

end Bibliography
