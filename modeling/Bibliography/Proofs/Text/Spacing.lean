import Bibliography.Text.Split

/-
  White space at the ends of a text and between its words.

  Trimming and normalizing take away white space and nothing
  else.  A normalized text is its runs with single blanks between
  them, so normalizing it again changes nothing.

  Key statements include:
    * `Text.filter_trim`
    * `Text.filter_normalizeSpace`
    * `Text.runs_unwords`
    * `Text.normalizeSpace_normalizeSpace`
-/

------------------------------------------------------------
-- Joined Texts
------------------------------------------------------------

namespace Bibliography

namespace Text

@[simp]
theorem join_singleton
    (separator t : Text) : join separator [t] = t := by
  simp [join]

theorem join_cons_cons
    (separator t u : Text)
    (rest : List Text) :
    join separator (t :: u :: rest) =
      t ++ (separator ++ join separator (u :: rest)) := by
  simp [join, List.intercalate]

theorem unwords_singleton (w : Text) : unwords [w] = w :=
  join_singleton _ w

theorem unwords_cons_cons
    (w u : Text)
    (more : List Text) :
    unwords (w :: u :: more) = w ++ ([' '] ++ unwords (u :: more)) :=
  join_cons_cons _ w u more

/- A class without blanks finds the same in words and their text. -/
theorem filter_unwords_cons
    {p : Char → Bool}
    (hBlank : p ' ' = false)
    (t : Text)
    (rest : List Text) :
    (unwords (t :: rest)).filter p =
      t.filter p ++ (unwords rest).filter p := by
  cases rest with
  | nil =>
      rw [unwords_singleton]
      exact (List.append_nil _).symm
  | cons u more =>
      have hSeparator : [' '].filter p = [] :=
        List.filter_cons_of_neg (by simp [hBlank])
      rw [unwords_cons_cons, List.filter_append, List.filter_append,
        hSeparator, List.nil_append]

------------------------------------------------------------
-- Trimming
------------------------------------------------------------

theorem trimEndBy_concat
    (p : Char → Bool)
    (c : Char)
    (t : Text) :
    trimEndBy p (t ++ [c]) =
      if p c then t.trimEndBy p else t ++ [c] := by
  rw [trimEndBy, List.reverse_concat]
  by_cases h : p c = true
  · rw [List.dropWhile_cons_of_pos h, if_pos h]
    rfl
  · rw [List.dropWhile_cons_of_neg h, if_neg h,
      List.reverse_cons, List.reverse_reverse]

theorem trimEnd_concat
    (c : Char)
    (t : Text) :
    trimEnd (t ++ [c]) =
      if Character.isSpace c then t.trimEnd else t ++ [c] :=
  trimEndBy_concat Character.isSpace c t

theorem trim_cons_of_isSpace
    {c : Char}
    (h : Character.isSpace c = true)
    (t : Text) : trim (c :: t) = t.trim := by
  rw [trim, List.dropWhile_cons_of_pos h, trim]

theorem trim_concat_of_isSpace
    {c : Char}
    (h : Character.isSpace c = true)
    (t : Text) : trim (t ++ [c]) = t.trim := by
  induction t with
  | nil => rw [List.nil_append, trim_cons_of_isSpace h]
  | cons d rest ih =>
      by_cases hFirst : Character.isSpace d = true
      · rw [List.cons_append, trim_cons_of_isSpace hFirst, ih,
          trim_cons_of_isSpace hFirst]
      · rw [trim, trim, List.cons_append,
          List.dropWhile_cons_of_neg hFirst,
          List.dropWhile_cons_of_neg hFirst, ← List.cons_append,
          trimEnd_concat, if_pos h]

------------------------------------------------------------
-- Only White Space Is Lost
------------------------------------------------------------

variable {p : Char → Bool}

/- Dropping white space loses nothing of a class without it. -/
theorem filter_dropWhile_isSpace
    (hSpace : ∀ c, Character.isSpace c = true → p c = false)
    (t : Text) :
    (t.dropWhile Character.isSpace).filter p = t.filter p := by
  induction t with
  | nil => rfl
  | cons c rest ih =>
      cases hFirst : Character.isSpace c with
      | true =>
          rw [List.dropWhile_cons_of_pos hFirst, ih,
            List.filter_cons_of_neg (by simp [hSpace c hFirst])]
      | false =>
          rw [List.dropWhile_cons_of_neg (by simp [hFirst])]

theorem filter_trim
    (hSpace : ∀ c, Character.isSpace c = true → p c = false)
    (t : Text) : t.trim.filter p = t.filter p := by
  rw [trim, trimEnd, trimEndBy, List.filter_reverse,
    filter_dropWhile_isSpace hSpace, List.filter_reverse,
    List.reverse_reverse, filter_dropWhile_isSpace hSpace]

theorem filter_unwords_runsFrom
    (hSpace : ∀ c, Character.isSpace c = true → p c = false)
    (run t : Text) :
    (unwords (runsFrom run t)).filter p =
      run.reverse.filter p ++ t.filter p := by
  have hBlank : p ' ' = false := hSpace ' ' (by decide)
  induction t generalizing run with
  | nil =>
      cases run with
      | nil => rfl
      | cons c more => simp [runsFrom, unwords]
  | cons c rest ih =>
      cases hFirst : Character.isSpace c with
      | true =>
          have hNot : ¬ p c = true := by simp [hSpace c hFirst]
          rw [runsFrom, if_pos hFirst, List.filter_cons_of_neg hNot]
          cases run with
          | nil => exact ih []
          | cons d more =>
              have hRest := ih []
              rw [List.reverse_nil, List.filter_nil,
                List.nil_append] at hRest
              exact (filter_unwords_cons hBlank _ _).trans
                (congrArg _ hRest)
      | false =>
          rw [runsFrom, if_neg (by simp [hFirst]), ih (c :: run),
            List.reverse_cons, List.filter_append,
            List.append_assoc, ← List.filter_append,
            List.singleton_append]

/- Normalizing loses nothing of a class without white space. -/
theorem filter_normalizeSpace
    (hSpace : ∀ c, Character.isSpace c = true → p c = false)
    (t : Text) : t.normalizeSpace.filter p = t.filter p := by
  rw [normalizeSpace, runs, filter_unwords_runsFrom hSpace]
  rfl

------------------------------------------------------------
-- Runs
------------------------------------------------------------

/- A text that is one run: not empty and without white space. -/
def IsRun (t : Text) : Prop :=
  t ≠ [] ∧ ∀ c ∈ t, Character.isSpace c = false

/- Characters of a run are read into the run under way. -/
theorem runsFrom_append
    {w : Text}
    (hWord : ∀ c ∈ w, Character.isSpace c = false)
    (run rest : Text) :
    runsFrom run (w ++ rest) = runsFrom (w.reverse ++ run) rest := by
  induction w generalizing run with
  | nil => rfl
  | cons c more ih =>
      rcases List.forall_mem_cons.1 hWord with ⟨hFirst, hMore⟩
      rw [List.cons_append, runsFrom, if_neg (by simp [hFirst]),
        ih hMore (c :: run), List.reverse_cons, List.append_assoc]
      rfl

/- Runs are not empty and have no white space. -/
theorem isRun_of_mem_runsFrom
    {run t w : Text}
    (hRun : ∀ c ∈ run, Character.isSpace c = false)
    (hMem : w ∈ runsFrom run t) : IsRun w := by
  have hReverse : run.isEmpty = false → IsRun run.reverse := by
    intro hNonempty
    constructor
    · simpa using hNonempty
    · intro c hIn
      exact hRun c (List.mem_reverse.1 hIn)
  induction t generalizing run with
  | nil =>
      rw [runsFrom] at hMem
      cases hEmpty : run.isEmpty with
      | true => simp [hEmpty] at hMem
      | false =>
          have hEq : w = run.reverse := by simpa [hEmpty] using hMem
          exact hEq ▸ hReverse hEmpty
  | cons c rest ih =>
      rw [runsFrom] at hMem
      cases hFirst : Character.isSpace c with
      | true =>
          rw [if_pos hFirst] at hMem
          cases hEmpty : run.isEmpty with
          | true =>
              rw [hEmpty, if_pos rfl] at hMem
              exact @ih [] (by simp) hMem (by simp)
          | false =>
              rw [hEmpty, if_neg (by simp)] at hMem
              rcases List.mem_cons.1 hMem with rfl | hRest
              · exact hReverse hEmpty
              · exact @ih [] (by simp) hRest (by simp)
      | false =>
          rw [if_neg (by simp [hFirst])] at hMem
          have hMore : ∀ d ∈ c :: run,
              Character.isSpace d = false :=
            List.forall_mem_cons.2 ⟨hFirst, hRun⟩
          apply ih hMore hMem
          intro _
          constructor
          · simp
          · intro d hIn
            exact hMore d (List.mem_reverse.1 hIn)

/- The runs of a text are its runs again when they are joined. -/
theorem runs_unwords
    {ws : List Text}
    (h : ∀ w ∈ ws, IsRun w) : (unwords ws).runs = ws := by
  induction ws with
  | nil => rfl
  | cons w rest ih =>
      rcases List.forall_mem_cons.1 h with ⟨⟨hNonempty, hWord⟩, hRest⟩
      have hReverse : (w.reverse ++ []).isEmpty = false := by
        simpa using hNonempty
      cases rest with
      | nil =>
          have hRead := runsFrom_append hWord [] []
          rw [List.append_nil] at hRead
          rw [unwords_singleton, runs, hRead, runsFrom, hReverse]
          simp
      | cons u more =>
          have hBlank : Character.isSpace ' ' = true := by decide
          have hMore := ih hRest
          rw [runs] at hMore
          rw [unwords_cons_cons, runs, runsFrom_append hWord,
            List.singleton_append, runsFrom, if_pos hBlank,
            hReverse, if_neg (by simp), hMore]
          simp

/- The runs of a text are runs. -/
theorem isRun_of_mem_runs
    {t w : Text}
    (hMem : w ∈ t.runs) : IsRun w :=
  isRun_of_mem_runsFrom (by simp) hMem

/- Normalizing again changes nothing. -/
@[simp]
theorem normalizeSpace_normalizeSpace (t : Text) :
    t.normalizeSpace.normalizeSpace = t.normalizeSpace := by
  unfold normalizeSpace
  rw [runs_unwords (fun _ hMem => isRun_of_mem_runs hMem)]

end Text

end Bibliography
