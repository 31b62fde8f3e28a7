import Bibliography.Proofs.Person.Pieces
import Bibliography.Proofs.Text.Groups

/-
  Words that are joined are found again.

  A word is read to its end, whatever follows: it has no separator
  at depth zero and leaves the depth at zero, so the next separator
  ends it.  Words with a blank between each two are therefore the
  words of their text.  White space around a balanced text is
  outside of all of its words.

  Key statements include:
    * `Text.wordsFrom_append`
    * `Text.words_unwords`
    * `Text.words_trim`
-/

------------------------------------------------------------
-- A Word and What Follows
------------------------------------------------------------

namespace Bibliography

namespace Text

/- Characters that separate nothing go to the word under way. -/
theorem wordsFrom_append
    {depth : Nat}
    {w : Text}
    (h : ∀ c ∈ outsideFrom depth w, separatesWords c = false)
    (word t : Text) :
    wordsFrom depth word (w ++ t) =
      wordsFrom (w.foldl nest depth) (w.reverse ++ word) t := by
  induction w generalizing depth word with
  | nil => rfl
  | cons c rest ih =>
      rw [outsideFrom] at h
      have hNot : ¬ (depth = 0 ∧ separatesWords c = true) := by
        rintro ⟨rfl, hClass⟩
        rw [if_pos rfl] at h
        rw [h c List.mem_cons_self] at hClass
        cases hClass
      have hRest : ∀ d ∈ outsideFrom (nest depth c) rest,
          separatesWords d = false := by
        intro d hMem
        refine h d ?_
        split
        · exact List.mem_cons_of_mem _ hMem
        · exact hMem
      rw [List.cons_append, wordsFrom, if_neg hNot, ih hRest,
        List.foldl_cons, List.reverse_cons, List.append_assoc]
      rfl

/- A separator at depth zero ends the word under way. -/
theorem wordsFrom_separator
    {c : Char}
    (h : separatesWords c = true)
    (word t : Text) :
    wordsFrom 0 word (c :: t) =
      if word.isEmpty then wordsFrom 0 [] t
      else word.reverse :: wordsFrom 0 [] t := by
  rw [wordsFrom, if_pos ⟨rfl, h⟩]

/- A separator in front of a text belongs to no word. -/
theorem words_cons
    {c : Char}
    (h : separatesWords c = true)
    (t : Text) : words (c :: t) = t.words := by
  rw [words, wordsFrom_separator h]
  rfl

namespace IsWord

variable {w : Text}

theorem foldl_nest (h : w.IsWord) : w.foldl nest 0 = 0 :=
  foldl_nest_of_isBalanced h.balanced 0

theorem wordsFrom_append
    (h : w.IsWord)
    (t : Text) :
    wordsFrom 0 [] (w ++ t) = wordsFrom 0 w.reverse t := by
  have hPlain : ∀ c ∈ outsideFrom 0 w, separatesWords c = false :=
    fun c hMem => (h.plain c hMem).1
  rw [Text.wordsFrom_append hPlain, h.foldl_nest, List.append_nil]

/- A word alone is the only word of its text. -/
theorem words_eq (h : w.IsWord) : w.words = [w] := by
  have hRead := h.wordsFrom_append []
  rw [List.append_nil] at hRead
  rw [words, hRead, wordsFrom]
  simp [h.nonempty]

/- A separator ends the word before it. -/
theorem words_append_cons
    {c : Char}
    (h : w.IsWord)
    (hClass : separatesWords c = true)
    (t : Text) : words (w ++ c :: t) = w :: t.words := by
  rw [words, h.wordsFrom_append, wordsFrom_separator hClass]
  simp [h.nonempty, words]

end IsWord

------------------------------------------------------------
-- Words of Joined Texts
------------------------------------------------------------

theorem separatesWords_of_isSpace
    {c : Char}
    (h : Character.isSpace c = true) : separatesWords c = true := by
  rw [separatesWords, h]
  rfl

/- Words with blanks between them are read as these words. -/
theorem words_unwords
    {ws : List Text}
    (h : ∀ w ∈ ws, w.IsWord) : (unwords ws).words = ws := by
  have hBlank : separatesWords ' ' = true := by decide
  induction ws with
  | nil => rfl
  | cons w rest ih =>
      rcases List.forall_mem_cons.1 h with ⟨hFirst, hRest⟩
      cases rest with
      | nil => rw [unwords_singleton, hFirst.words_eq]
      | cons u more =>
          rw [unwords_cons_cons, List.singleton_append,
            hFirst.words_append_cons hBlank, ih hRest]

/- What is said of the outside of words is said of their text. -/
theorem forall_mem_outside_unwords
    {P : Char → Prop}
    {ws : List Text}
    (hBlank : P ' ')
    (h : ∀ w ∈ ws, w.IsWord)
    (hWords : ∀ w ∈ ws, ∀ c ∈ w.outside, P c) :
    ∀ c ∈ (unwords ws).outside, P c := by
  induction ws with
  | nil => exact List.forall_mem_nil _
  | cons w rest ih =>
      rcases List.forall_mem_cons.1 h with ⟨hFirst, hRest⟩
      rcases List.forall_mem_cons.1 hWords with ⟨hOutside, hOthers⟩
      cases rest with
      | nil =>
          rw [unwords_singleton]
          exact hOutside
      | cons u more =>
          intro c hMem
          rw [unwords_cons_cons, outside, outsideFrom_append,
            hFirst.foldl_nest] at hMem
          rcases List.mem_append.1 hMem with hIn | hBehind
          · exact hOutside c hIn
          · rcases List.mem_cons.1 hBehind with rfl | hLater
            · exact hBlank
            · exact ih hRest hOthers c hLater

/- Words joined by blanks have no comma outside of groups. -/
theorem commas_unwords
    {ws : List Text}
    (h : ∀ w ∈ ws, w.IsWord) : (unwords ws).commas = 0 := by
  refine commasFrom_eq_zero_iff.2 ?_
  exact forall_mem_outside_unwords (by decide) h
    (fun w hMem c hIn => ((h w hMem).plain c hIn).2)

theorem isBalanced_unwords
    {ws : List Text}
    (h : ∀ w ∈ ws, w.IsWord) : (unwords ws).isBalanced = true :=
  isBalanced_join (by decide) (fun w hMem => (h w hMem).balanced)

------------------------------------------------------------
-- White Space around Words
------------------------------------------------------------

theorem words_dropWhile (t : Text) :
    words (t.dropWhile Character.isSpace) = t.words := by
  induction t with
  | nil => rfl
  | cons c rest ih =>
      by_cases h : Character.isSpace c = true
      · rw [List.dropWhile_cons_of_pos h, ih,
          words_cons (separatesWords_of_isSpace h)]
      · rw [List.dropWhile_cons_of_neg h]

/- A separator that is read at depth zero ends the text. -/
theorem wordsFrom_concat
    {depth : Nat}
    {t : Text}
    {c : Char}
    (hClass : separatesWords c = true)
    (hDepth : t.foldl nest depth = 0)
    (word : Text) :
    wordsFrom depth word (t ++ [c]) = wordsFrom depth word t := by
  induction t generalizing depth word with
  | nil =>
      obtain rfl : depth = 0 := hDepth
      rw [List.nil_append, wordsFrom_separator hClass]
      rfl
  | cons d rest ih =>
      rw [List.cons_append, wordsFrom, wordsFrom]
      split
      · rename_i hSeparates
        have hZero : nest 0 d = 0 := nest_of_not_isBrace
          (not_isBrace_of_separatesWords hSeparates.2) 0
        have hRest : rest.foldl nest 0 = 0 := by
          rw [List.foldl_cons, hSeparates.1, hZero] at hDepth
          exact hDepth
        rw [ih hRest]
      · exact ih hDepth _

theorem words_trimEnd
    {t : Text}
    (h : t.isBalanced = true) : t.trimEnd.words = t.words := by
  induction t using List.reverseRecOn with
  | nil => rfl
  | append_singleton rest c ih =>
      by_cases hSpace : Character.isSpace c = true
      · have hBrace := not_isBrace_of_isSpace c hSpace
        have hRest : isBalanced rest = true := by
          refine isBalanced_of_filter_eq ?_ h
          simp [hBrace]
        have hDepth := foldl_nest_of_isBalanced hRest 0
        rw [trimEnd_concat, if_pos hSpace, ih hRest, words, words,
          wordsFrom_concat (separatesWords_of_isSpace hSpace) hDepth]
      · rw [trimEnd_concat, if_neg hSpace]

/- Trimming a balanced text leaves its words as they are. -/
theorem words_trim
    {t : Text}
    (h : t.isBalanced = true) : t.trim.words = t.words := by
  have hInner : isBalanced (t.dropWhile Character.isSpace) = true :=
    isBalanced_of_filter_eq
      (filter_dropWhile_isSpace not_isBrace_of_isSpace t).symm h
  rw [trim, words_trimEnd hInner, words_dropWhile]

end Text

end Bibliography
