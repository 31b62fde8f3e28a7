import Bibliography.Proofs.Text.Spacing

/-
  A text between two others, with and without its white space.

  If a text is put between two others with its white space
  normalized, the whole has the same words as with the text
  itself, unless white space at an end of it is all that parts a
  word of the text from one of its neighbours.

  Key definitions include:
    * `Text.beginsWord`
    * `Text.endsWord`
    * `Text.fitsBetween`

  Key statements include:
    * `Text.runsFrom_unwords_append`
    * `Text.normalizeSpace_between`
-/

------------------------------------------------------------
-- Words at the Ends
------------------------------------------------------------

namespace Bibliography

namespace Text

/- The text begins with a character of a word. -/
def beginsWord (t : Text) : Bool :=
  t.head?.any (fun c => !Character.isSpace c)

/- The text ends with a character of a word. -/
def endsWord (t : Text) : Bool :=
  t.getLast?.any (fun c => !Character.isSpace c)

/-
  Without the white space at its ends the text joins no words of
  the two around it that were apart.
-/
def fitsBetween (before t after : Text) : Bool :=
  if t.runs.isEmpty then
    t.isEmpty || !before.endsWord || !after.beginsWord
  else
    (t.beginsWord || !before.endsWord) &&
      (t.endsWord || !after.beginsWord)

theorem beginsWord_cons
    (c : Char)
    (rest : Text) :
    beginsWord (c :: rest) = !Character.isSpace c := by
  simp [beginsWord]

theorem endsWord_cons_cons
    (c d : Char)
    (rest : Text) :
    endsWord (c :: d :: rest) = endsWord (d :: rest) := by
  rw [endsWord, endsWord, List.getLast?_cons_cons]

theorem endsWord_singleton (c : Char) :
    endsWord [c] = !Character.isSpace c := by
  simp [endsWord]

/- White space does not end within a word. -/
theorem endsWord_of_isSpace
    {t : Text}
    (h : ∀ c ∈ t, Character.isSpace c = true) :
    t.endsWord = false := by
  rw [endsWord]
  cases hLast : t.getLast? with
  | none => rfl
  | some c =>
      have hSpace := h c (List.mem_of_getLast? hLast)
      simp [hSpace]

------------------------------------------------------------
-- Runs and White Space
------------------------------------------------------------

theorem runsFrom_cons_of_not_isSpace
    {c : Char}
    (hSpace : Character.isSpace c = false)
    (run t : Text) :
    runsFrom run (c :: t) = runsFrom (c :: run) t := by
  rw [runsFrom, if_neg (by simp [hSpace])]

theorem runsFrom_nil_cons
    {c : Char}
    (hSpace : Character.isSpace c = true)
    (t : Text) : runsFrom [] (c :: t) = runsFrom [] t := by
  rw [runsFrom, if_pos hSpace]
  rfl

/- A run ends at white space. -/
theorem runsFrom_cons_of_isSpace
    {run : Text}
    {c : Char}
    (hRun : run ≠ [])
    (hSpace : Character.isSpace c = true)
    (t : Text) :
    runsFrom run (c :: t) = run.reverse :: runsFrom [] t := by
  have hNonempty : run.isEmpty = false := by simpa using hRun
  rw [runsFrom, if_pos hSpace, hNonempty, if_neg (by simp)]

/- A run under way is not lost. -/
theorem runsFrom_ne_nil
    {run : Text}
    (hRun : run ≠ [])
    (t : Text) : runsFrom run t ≠ [] := by
  have hNonempty : run.isEmpty = false := by simpa using hRun
  induction t generalizing run with
  | nil =>
      rw [runsFrom, hNonempty, if_neg (by simp)]
      exact List.cons_ne_nil _ _
  | cons c rest ih =>
      cases hSpace : Character.isSpace c with
      | true =>
          rw [runsFrom_cons_of_isSpace hRun hSpace]
          exact List.cons_ne_nil _ _
      | false =>
          rw [runsFrom_cons_of_not_isSpace hSpace]
          exact ih (List.cons_ne_nil c run) rfl

/- A text without runs is white space. -/
theorem isSpace_of_runs_nil
    {t : Text}
    (h : t.runs = []) : ∀ c ∈ t, Character.isSpace c = true := by
  induction t with
  | nil =>
      intro c hMem
      cases hMem
  | cons c rest ih =>
      rw [runs] at h
      cases hSpace : Character.isSpace c with
      | true =>
          rw [runsFrom_nil_cons hSpace] at h
          exact List.forall_mem_cons.2 ⟨hSpace, ih h⟩
      | false =>
          rw [runsFrom_cons_of_not_isSpace hSpace] at h
          exact absurd h (runsFrom_ne_nil (List.cons_ne_nil c []) rest)

/- White space before the first run is skipped. -/
theorem runsFrom_nil_append
    {blank : Text}
    (hBlank : ∀ c ∈ blank, Character.isSpace c = true)
    (t : Text) : runsFrom [] (blank ++ t) = runsFrom [] t := by
  induction blank with
  | nil => rfl
  | cons c rest ih =>
      rcases List.forall_mem_cons.1 hBlank with ⟨hFirst, hRest⟩
      rw [List.cons_append, runsFrom_nil_cons hFirst, ih hRest]

/- A run ends where no character of a word follows. -/
theorem runsFrom_of_not_beginsWord
    {run t : Text}
    (hRun : run ≠ [])
    (h : t.beginsWord = false) :
    runsFrom run t = run.reverse :: runsFrom [] t := by
  have hNonempty : run.isEmpty = false := by simpa using hRun
  cases t with
  | nil =>
      rw [runsFrom, hNonempty]
      rfl
  | cons c rest =>
      rw [beginsWord_cons, Bool.not_eq_false'] at h
      rw [runsFrom_cons_of_isSpace hRun h, runsFrom_nil_cons h]

/- White space matters only between two characters of words. -/
theorem runsFrom_append_of_blank
    {run blank t : Text}
    (hBlank : ∀ c ∈ blank, Character.isSpace c = true)
    (h : blank = [] ∨ run = [] ∨ t.beginsWord = false) :
    runsFrom run (blank ++ t) = runsFrom run t := by
  by_cases hRun : run = []
  · rw [hRun, runsFrom_nil_append hBlank]
  · cases blank with
    | nil => rfl
    | cons c rest =>
        have hAfter : t.beginsWord = false := by
          rcases h with hEmpty | hNone | hAfter
          · cases hEmpty
          · exact absurd hNone hRun
          · exact hAfter
        rcases List.forall_mem_cons.1 hBlank with ⟨hFirst, hRest⟩
        rw [List.cons_append, runsFrom_cons_of_isSpace hRun hFirst,
          runsFrom_nil_append hRest,
          runsFrom_of_not_beginsWord hRun hAfter]

/- The runs of what is behind a text, with a run that it leaves. -/
theorem exists_runsFrom_append (run t : Text) :
    ∃ done left, (∀ more, runsFrom run (t ++ more) =
        done ++ runsFrom left more) ∧
      (t = [] → left = run) ∧
      (t ≠ [] → t.endsWord = false → left = []) := by
  induction t generalizing run with
  | nil =>
      exact ⟨[], run, fun _ => rfl, fun _ => rfl,
        fun h => absurd rfl h⟩
  | cons c rest ih =>
      cases hSpace : Character.isSpace c with
      | true =>
          rcases ih [] with ⟨done, left, hRuns, hEmpty, hLast⟩
          have hLeft : endsWord (c :: rest) = false → left = [] := by
            intro hEnds
            cases rest with
            | nil => exact hEmpty rfl
            | cons d more =>
                rw [endsWord_cons_cons] at hEnds
                exact hLast (List.cons_ne_nil d more) hEnds
          by_cases hRun : run = []
          · refine ⟨done, left, ?_, (by rintro ⟨⟩), fun _ => hLeft⟩
            intro more
            rw [hRun, List.cons_append, runsFrom_nil_cons hSpace,
              hRuns]
          · refine ⟨run.reverse :: done, left, ?_, (by rintro ⟨⟩),
              fun _ => hLeft⟩
            intro more
            rw [List.cons_append,
              runsFrom_cons_of_isSpace hRun hSpace, hRuns,
              List.cons_append]
      | false =>
          rcases ih (c :: run) with ⟨done, left, hRuns, hEmpty, hLast⟩
          refine ⟨done, left, ?_, (by rintro ⟨⟩), ?_⟩
          · intro more
            rw [List.cons_append,
              runsFrom_cons_of_not_isSpace hSpace, hRuns]
          · intro _ hEnds
            cases rest with
            | nil =>
                rw [endsWord_singleton, hSpace] at hEnds
                cases hEnds
            | cons d more =>
                rw [endsWord_cons_cons] at hEnds
                exact hLast (List.cons_ne_nil d more) hEnds

------------------------------------------------------------
-- Normalizing a Part
------------------------------------------------------------

/- A run on its own goes on one that is under way. -/
theorem runsFrom_unwords_singleton
    {run : Text}
    (hRun : ∀ c ∈ run, Character.isSpace c = false)
    (before after : Text) :
    runsFrom before (unwords [run.reverse] ++ after) =
      runsFrom (run ++ before) after := by
  have hWord : ∀ c ∈ run.reverse, Character.isSpace c = false :=
    fun c hMem => hRun c (List.mem_reverse.1 hMem)
  rw [unwords_singleton, runsFrom_append hWord, List.reverse_reverse]

/- A run ends in front of the next one. -/
theorem runsFrom_unwords_cons_cons
    {run : Text}
    (hRun : ∀ c ∈ run, Character.isSpace c = false)
    (hNonempty : run ≠ [])
    (before u : Text)
    (more : List Text)
    (after : Text) :
    runsFrom before (unwords (run.reverse :: u :: more) ++ after) =
      (run ++ before).reverse ::
        runsFrom [] (unwords (u :: more) ++ after) := by
  have hWord : ∀ c ∈ run.reverse, Character.isSpace c = false :=
    fun c hMem => hRun c (List.mem_reverse.1 hMem)
  have hSpace : Character.isSpace ' ' = true := by decide
  have hBoth : run ++ before ≠ [] := by simp [hNonempty]
  rw [unwords_cons_cons, List.append_assoc, runsFrom_append hWord,
    List.reverse_reverse, List.append_assoc, List.singleton_append,
    runsFrom_cons_of_isSpace hBoth hSpace]

/-
  The runs of a text that is normalized first are those of the
  text itself.  A run of the text is under way, and one before it.
-/
theorem runsFrom_unwords_append
    {before run t after : Text}
    (hRun : ∀ c ∈ run, Character.isSpace c = false)
    (hLeft : run ≠ [] ∨ before = [] ∨ t.beginsWord = true ∨ t = [])
    (hRight : t.endsWord = true ∨ after.beginsWord = false ∨ t = []) :
    runsFrom before (unwords (runsFrom run t) ++ after) =
      runsFrom (run ++ before) (t ++ after) := by
  induction t generalizing run before with
  | nil =>
      by_cases hEmpty : run = []
      · rw [hEmpty]
        rfl
      · have hNonempty : run.isEmpty = false := by simpa using hEmpty
        rw [runsFrom, hNonempty, if_neg (by simp),
          runsFrom_unwords_singleton hRun]
        rfl
  | cons c rest ih =>
      have hRest : endsWord rest = true ∨ after.beginsWord = false ∨
          rest = [] := by
        cases rest with
        | nil => exact Or.inr (Or.inr rfl)
        | cons d more =>
            rw [endsWord_cons_cons] at hRight
            exact hRight.imp_right (fun hOr =>
              hOr.imp_right (fun hNone => by cases hNone))
      rw [List.cons_append]
      cases hSpace : Character.isSpace c with
      | false =>
          have hMore : ∀ d ∈ c :: run, Character.isSpace d = false :=
            List.forall_mem_cons.2 ⟨hSpace, hRun⟩
          rw [runsFrom_cons_of_not_isSpace hSpace,
            runsFrom_cons_of_not_isSpace hSpace,
            ih hMore (Or.inl (List.cons_ne_nil c run)) hRest,
            List.cons_append]
      | true =>
          have hInner := @ih [] [] (by simp) (Or.inr (Or.inl rfl))
            hRest
          rw [List.append_nil] at hInner
          by_cases hEmpty : run = []
          · have hBefore : before = [] := by
              rcases hLeft with hSome | hBefore | hBegins | hNone
              · exact absurd hEmpty hSome
              · exact hBefore
              · rw [beginsWord_cons, hSpace] at hBegins
                cases hBegins
              · cases hNone
            rw [hEmpty, hBefore, List.append_nil,
              runsFrom_nil_cons hSpace, runsFrom_nil_cons hSpace,
              hInner]
          · have hBoth : run ++ before ≠ [] := by simp [hEmpty]
            rw [runsFrom_cons_of_isSpace hEmpty hSpace,
              runsFrom_cons_of_isSpace hBoth hSpace]
            cases hRuns : runsFrom [] rest with
            | nil =>
                -- Only white space is left of the text.
                have hBlank := isSpace_of_runs_nil hRuns
                have hEnds := endsWord_of_isSpace
                  (List.forall_mem_cons.2 ⟨hSpace, hBlank⟩)
                have hAfter : after.beginsWord = false := by
                  rcases hRight with hWordEnd | hAfter | hNone
                  · rw [hEnds] at hWordEnd
                    cases hWordEnd
                  · exact hAfter
                  · cases hNone
                rw [runsFrom_unwords_singleton hRun,
                  runsFrom_of_not_beginsWord hBoth hAfter,
                  runsFrom_nil_append hBlank]
            | cons u more =>
                rw [runsFrom_unwords_cons_cons hRun hEmpty, ← hRuns,
                  hInner]

/- Normalizing a text in its place leaves the words of the whole. -/
theorem normalizeSpace_between
    {before t after : Text}
    (h : fitsBetween before t after = true) :
    (before ++ (t.normalizeSpace ++ after)).normalizeSpace =
      (before ++ (t ++ after)).normalizeSpace := by
  rcases exists_runsFrom_append [] before with
    ⟨done, left, hRuns, hEmpty, hLast⟩
  have hLeft : before.endsWord = false → left = [] := by
    intro hEnds
    by_cases hNone : before = []
    · exact hEmpty hNone
    · exact hLast hNone hEnds
  have hSame : runsFrom left (t.normalizeSpace ++ after) =
      runsFrom left (t ++ after) := by
    rw [fitsBetween] at h
    split at h
    · rename_i hBlank
      have hNil := List.isEmpty_iff.1 hBlank
      have hNormal : t.normalizeSpace = [] := by
        rw [normalizeSpace, hNil]
        rfl
      rw [Bool.or_eq_true, Bool.or_eq_true, Bool.not_eq_true',
        Bool.not_eq_true', List.isEmpty_iff] at h
      rw [hNormal, List.nil_append,
        runsFrom_append_of_blank (isSpace_of_runs_nil hNil)]
      rcases h with (hNone | hEnds) | hBegins
      · exact Or.inl hNone
      · exact Or.inr (Or.inl (hLeft hEnds))
      · exact Or.inr (Or.inr hBegins)
    · rw [Bool.and_eq_true, Bool.or_eq_true, Bool.or_eq_true,
        Bool.not_eq_true', Bool.not_eq_true'] at h
      refine runsFrom_unwords_append (by simp) ?_ ?_
      · rcases h.1 with hBegins | hEnds
        · exact Or.inr (Or.inr (Or.inl hBegins))
        · exact Or.inr (Or.inl (hLeft hEnds))
      · rcases h.2 with hEnds | hBegins
        · exact Or.inl hEnds
        · exact Or.inr (Or.inl hBegins)
  have hWhole : (before ++ (t.normalizeSpace ++ after)).runs =
      (before ++ (t ++ after)).runs := by
    rw [runs, runs, hRuns, hRuns, hSame]
  exact congrArg unwords hWhole

end Text

end Bibliography
