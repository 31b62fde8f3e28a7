import Bibliography.Proofs.Person.Balance

/-
  The words of the names that are read.

  Separators count at brace depth zero.  The characters there are
  followed through the words of a text and through the pieces
  between commas: a word has no separator among them, and no comma
  if the text had none.

  Key definitions include:
    * `Text.outside`
    * `Text.IsWord`
    * `Person.IsWellFormed`

  Key statements include:
    * `Text.forall_mem_words`
    * `Text.commas_of_mem_splitOutside`
    * `Person.isWellFormed_of_parse`
-/

------------------------------------------------------------
-- Characters outside of Groups
------------------------------------------------------------

namespace Bibliography

namespace Text

/- The characters that are read at depth zero, from a depth on. -/
def outsideFrom : Nat → Text → Text
  | _, [] => []
  | depth, c :: rest =>
      if depth = 0 then c :: outsideFrom (nest depth c) rest
      else outsideFrom (nest depth c) rest

/- The characters of a text that are read at depth zero. -/
def outside (t : Text) : Text :=
  outsideFrom 0 t

/-
  A word: balanced, not empty, and outside of groups without a
  separator of words or a comma.
-/
structure IsWord (w : Text) : Prop where
  nonempty : w ≠ []
  balanced : w.isBalanced = true
  plain : ∀ c ∈ w.outside, separatesWords c = false ∧ c ≠ ','

theorem outsideFrom_append
    (depth : Nat)
    (a b : Text) :
    outsideFrom depth (a ++ b) =
      outsideFrom depth a ++ outsideFrom (a.foldl nest depth) b := by
  induction a generalizing depth with
  | nil => rfl
  | cons c rest ih =>
      rw [List.cons_append, outsideFrom, outsideFrom, ih,
        List.foldl_cons]
      split <;> rfl

/- Commas are counted among these characters. -/
theorem commasFrom_eq_zero_iff
    {depth : Nat}
    {t : Text} :
    commasFrom depth t = 0 ↔ ∀ c ∈ outsideFrom depth t, c ≠ ',' := by
  induction t generalizing depth with
  | nil => simp [commasFrom, outsideFrom]
  | cons c rest ih =>
      rw [commasFrom, outsideFrom, Nat.add_eq_zero_iff, ih]
      by_cases hZero : depth = 0
      · simp [hZero]
      · simp [hZero]

------------------------------------------------------------
-- Words
------------------------------------------------------------

/-
  What holds of the characters of a text outside of groups, the
  separators apart, holds of those of its words, also when a word
  is under way.
-/
theorem forall_mem_wordsFrom
    {P : Char → Prop}
    {depth : Nat}
    {word t : Text}
    (hDepth : word.reverse.foldl nest 0 = depth)
    (hWord : ∀ c ∈ outside word.reverse, P c)
    (hText : ∀ c ∈ outsideFrom depth t,
      separatesWords c = false → P c) :
    ∀ w ∈ wordsFrom depth word t, w ≠ [] ∧ ∀ c ∈ w.outside, P c := by
  have hFull : ∀ {word : Text}, ¬ word.isEmpty = true →
      word.reverse ≠ [] := by
    intro word hFull hNil
    exact hFull (List.isEmpty_iff.2 (List.reverse_eq_nil_iff.1 hNil))
  induction t generalizing depth word with
  | nil =>
      rw [wordsFrom]
      split
      · simp
      · rename_i hNotEmpty
        exact List.forall_mem_singleton.2 ⟨hFull hNotEmpty, hWord⟩
  | cons c rest ih =>
      rw [outsideFrom] at hText
      rw [wordsFrom]
      split
      · rename_i hSeparates
        rcases hSeparates with ⟨rfl, hClass⟩
        have hZero : nest 0 c = 0 :=
          nest_of_not_isBrace (not_isBrace_of_separatesWords hClass) 0
        rw [if_pos rfl, hZero] at hText
        have hRest : ∀ w ∈ wordsFrom 0 [] rest,
            w ≠ [] ∧ ∀ c ∈ w.outside, P c := by
          refine ih rfl (fun d hMem => ?_) (fun d hMem => ?_)
          · cases hMem
          · exact hText d (List.mem_cons_of_mem _ hMem)
        split
        · exact hRest
        · rename_i hNotEmpty
          exact List.forall_mem_cons.2 ⟨⟨hFull hNotEmpty, hWord⟩, hRest⟩
      · rename_i hInside
        -- the word goes on with this character, and so does its depth
        refine ih ?_ ?_ ?_
        · rw [List.reverse_cons, List.foldl_append, hDepth]
          rfl
        · intro d hMem
          rw [List.reverse_cons, outside, outsideFrom_append, hDepth]
            at hMem
          rcases List.mem_append.1 hMem with hBefore | hLast
          · exact hWord d hBefore
          · rw [outsideFrom] at hLast
            split at hLast
            · rename_i hZero
              rw [if_pos hZero] at hText
              rw [List.mem_singleton.1 hLast]
              refine hText c List.mem_cons_self ?_
              exact Bool.eq_false_iff.2 (fun h => hInside ⟨hZero, h⟩)
            · cases hLast
        · intro d hMem
          refine hText d ?_
          split
          · exact List.mem_cons_of_mem _ hMem
          · exact hMem

/- A word is not empty, and its outside is one of the text. -/
theorem forall_mem_words
    {P : Char → Prop}
    {t : Text}
    (h : ∀ c ∈ t.outside, separatesWords c = false → P c) :
    ∀ w ∈ t.words, w ≠ [] ∧ ∀ c ∈ w.outside, P c :=
  forall_mem_wordsFrom rfl (by rintro c ⟨⟩) h

------------------------------------------------------------
-- Pieces between Commas
------------------------------------------------------------

/- What is cut off before a comma has none. -/
theorem commasFrom_piece_of_cut?
    {depth : Nat}
    {t piece after : Text}
    (h : cut? [','] depth t = some (piece, after)) :
    commasFrom depth piece = 0 := by
  induction t generalizing depth piece with
  | nil => simp [cut?] at h
  | cons c rest ih =>
      rw [cut?] at h
      split at h
      · cases h
        rfl
      · rename_i hNot
        have hComma : ¬ (depth = 0 ∧ c = ',') := by
          rintro ⟨hZero, rfl⟩
          exact hNot ⟨hZero, rfl, (beginsWith_comma _ _).2 rfl⟩
        cases hCut : cut? [','] (nest depth c) rest with
        | none => simp [hCut] at h
        | some found =>
            rcases found with ⟨piece', after'⟩
            simp only [hCut, Option.some.injEq,
              Prod.mk.injEq] at h
            rcases h with ⟨rfl, rfl⟩
            rw [commasFrom, if_neg hComma, ih hCut]

/- The pieces between commas have no commas. -/
theorem commas_of_mem_splitOutside
    {t piece : Text}
    (hMem : piece ∈ splitOutside [','] t) : piece.commas = 0 := by
  fun_induction splitOutside [','] t with
  | case1 t _ hCut =>
      rw [List.mem_singleton.1 hMem]
      exact commasFrom_of_cut?_none hCut
  | case2 t _ first after hCut ih =>
      rcases List.mem_cons.1 hMem with rfl | hRest
      · exact commasFrom_piece_of_cut? hCut
      · exact ih hRest
  | case3 t hEmpty => exact absurd (List.cons_ne_nil _ _) hEmpty

/- The words of a balanced text without commas. -/
theorem isWord_of_mem_words
    {t w : Text}
    (hBalanced : t.isBalanced = true)
    (hCommas : t.commas = 0)
    (hMem : w ∈ t.words) : w.IsWord := by
  have hPlain : ∀ c ∈ t.outside, separatesWords c = false →
      separatesWords c = false ∧ c ≠ ',' := by
    intro c hIn hClass
    exact ⟨hClass, commasFrom_eq_zero_iff.1 hCommas c hIn⟩
  rcases forall_mem_words hPlain w hMem with ⟨hNonempty, hOutside⟩
  exact ⟨hNonempty, isBalanced_of_mem_words hBalanced hMem, hOutside⟩

end Text

------------------------------------------------------------
-- Persons
------------------------------------------------------------

namespace Person

/- All that the parts of the person hold are words. -/
def IsWellFormed (p : Person) : Prop :=
  ∀ w ∈ p.words, w.IsWord

theorem IsWellFormed.isBalanced
    {p : Person}
    (h : p.IsWellFormed) : p.IsBalanced :=
  fun w hMem => (h w hMem).balanced

/- A balanced name is read as a person of words. -/
theorem isWellFormed_of_parse
    {name : Text}
    {p : Person}
    (hName : name.isBalanced = true)
    (h : parse name = .ok p) : p.IsWellFormed := by
  refine forall_mem_of_parse ?_ h
  intro piece hPiece w hMem
  have hBalanced := Text.isBalanced_of_mem_splitOutside
    rfl (Text.isBalanced_trim hName) hPiece
  have hCommas : piece.trim.commas = 0 := by
    rw [Text.commas_trim]
    exact Text.commas_of_mem_splitOutside hPiece
  exact Text.isWord_of_mem_words (Text.isBalanced_trim hBalanced)
    hCommas hMem

end Person

end Bibliography
