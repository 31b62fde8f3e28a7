import Bibliography.Proofs.Person.Words

/-
  Lists of names as lists of words.

  The separator of names is the word "and" with a blank on both
  sides.  A text is cut at the single blanks outside of groups, and
  dividing it into names is dividing these words.  Names that are
  joined are found again exactly if none of them has the word
  where it would separate: not as the first word, nor as the last
  one of the whole list.

  Key definitions include:
    * `Text.isConjunction`
    * `Text.blankWords`
    * `Text.splitWords`
    * `Text.namesApart`

  Key statements include:
    * `Text.unwords_blankWords`
    * `Text.splitOutside_unwords`
    * `Text.map_trim_splitOutside_join_iff`
-/

------------------------------------------------------------
-- Words between Blanks
------------------------------------------------------------

namespace Bibliography

namespace Text

/- The word that separates names, in any letter case. -/
def isConjunction (w : Text) : Bool :=
  w.lowerAscii == "and".toList

/- The words of a text, between single blanks outside of groups. -/
def blankWords (t : Text) : List Text :=
  splitOutside [' '] t

/- A balanced text without a blank outside of its groups. -/
structure IsSolid (w : Text) : Prop where
  balanced : w.isBalanced = true
  plain : ∀ c ∈ w.outside, c ≠ ' '

theorem lowerAscii_eq_blank_iff
    (c : Char) : Character.lowerAscii c = ' ' ↔ c = ' ' := by
  cases h : Character.isAscii c with
  | true =>
      exact Character.forall_ascii
        (P := fun c => Character.lowerAscii c = ' ' ↔ c = ' ')
        (by decide) h
  | false => rw [Character.lowerAscii_of_not_isAscii h]

/- A blank of a separator is matched by a blank only. -/
theorem beginsWith_blank
    (more : Text)
    (c : Char)
    (rest : Text) :
    beginsWith (' ' :: more) (c :: rest) = true ↔
      c = ' ' ∧ beginsWith more rest = true := by
  have hBlank : Character.lowerAscii ' ' = ' ' := by decide
  rw [beginsWith, Bool.and_eq_true, beq_iff_eq, hBlank, eq_comm,
    lowerAscii_eq_blank_iff]

/- A text begins with a separator in some letter case. -/
theorem beginsWith_iff
    {separator t : Text} :
    beginsWith separator t = true ↔
      ∃ u v : Text,
        t = u ++ v ∧ u.lowerAscii = separator.lowerAscii := by
  induction separator generalizing t with
  | nil =>
      refine ⟨fun _ => ⟨[], t, rfl, rfl⟩, ?_⟩
      intro _
      rw [beginsWith]
  | cons s more ih =>
      cases t with
      | nil =>
          rw [beginsWith]
          refine ⟨(by rintro ⟨⟩), ?_⟩
          rintro ⟨u, v, hText, hLower⟩
          obtain ⟨rfl, rfl⟩ := List.append_eq_nil_iff.1 hText.symm
          cases hLower
      | cons c rest =>
          rw [beginsWith, Bool.and_eq_true, beq_iff_eq, ih]
          constructor
          · rintro ⟨hFirst, u, v, rfl, hLower⟩
            refine ⟨c :: u, v, rfl, ?_⟩
            rw [lowerAscii, lowerAscii, List.map_cons, List.map_cons,
              hFirst]
            exact congrArg (List.cons _) hLower
          · rintro ⟨u, v, hText, hLower⟩
            rcases List.map_eq_cons_iff.1 hLower with
              ⟨d, u, rfl, hFirst, hRest⟩
            obtain ⟨rfl, rfl⟩ := List.cons.inj hText
            exact ⟨hFirst.symm, u, v, rfl, hRest⟩

/-
  Where a separator begins with a blank, a text without blanks at
  depth zero is passed over.
-/
theorem cut?_append_of_plain
    (more : Text)
    {depth : Nat}
    {w : Text}
    (h : ∀ c ∈ outsideFrom depth w, c ≠ ' ')
    (t : Text) :
    cut? (' ' :: more) depth (w ++ t) =
      (cut? (' ' :: more) (w.foldl nest depth) t).map
        (fun found => (w ++ found.1, found.2)) := by
  induction w generalizing depth with
  | nil => simp
  | cons c rest ih =>
      have hNot : ¬ (depth = 0 ∧ isBrace c = false ∧
          beginsWith (' ' :: more) (c :: (rest ++ t)) = true) := by
        rintro ⟨rfl, _, hBegins⟩
        refine h c ?_ ((beginsWith_blank _ _ _).1 hBegins).1
        rw [outsideFrom, if_pos rfl]
        exact List.mem_cons_self
      have hRest : ∀ d ∈ outsideFrom (nest depth c) rest,
          d ≠ ' ' := by
        intro d hMem
        refine h d ?_
        rw [outsideFrom]
        split
        · exact List.mem_cons_of_mem _ hMem
        · exact hMem
      rw [List.cons_append, cut?, if_neg hNot, ih hRest,
        List.foldl_cons]
      cases cut? (' ' :: more) (rest.foldl nest (nest depth c)) t with
      | none => rfl
      | some found => rfl

theorem foldl_nest_of_depthAfter?
    {depth final : Nat}
    {t : Text}
    (h : depthAfter? depth t = some final) :
    t.foldl nest depth = final := by
  induction t generalizing depth with
  | nil =>
      cases h
      rfl
  | cons c rest ih =>
      rw [depthAfter?] at h
      split at h
      · cases h
      · exact ih h

theorem IsSolid.cut?_append
    {w : Text}
    (h : w.IsSolid)
    (more t : Text) :
    cut? (' ' :: more) 0 (w ++ t) =
      (cut? (' ' :: more) 0 t).map
        (fun found => (w ++ found.1, found.2)) := by
  rw [cut?_append_of_plain more h.plain,
    foldl_nest_of_depthAfter? (isBalanced_iff.1 h.balanced)]

theorem splitOutside_of_cut?_none
    {separator t : Text}
    (h : cut? separator 0 t = none) :
    splitOutside separator t = [t] := by
  rw [splitOutside]
  split
  · split
    · rfl
    · rename_i hCut
      rw [h] at hCut
      cases hCut
  · rfl

theorem splitOutside_of_cut?_some
    {separator t piece after : Text}
    (hNonempty : separator ≠ [])
    (h : cut? separator 0 t = some (piece, after)) :
    splitOutside separator t = piece :: splitOutside separator after := by
  rw [splitOutside, dif_pos hNonempty]
  split
  · rename_i hCut
    rw [h] at hCut
    cases hCut
  · rename_i hCut
    rw [h] at hCut
    cases hCut
    rfl

/- A beginning that is passed over stays with the first piece. -/
theorem splitOutside_append
    {separator w t : Text}
    (hNonempty : separator ≠ [])
    (h : cut? separator 0 (w ++ t) =
      (cut? separator 0 t).map
        (fun found => (w ++ found.1, found.2))) :
    splitOutside separator (w ++ t) =
      (splitOutside separator t).modifyHead (w ++ ·) := by
  cases hCut : cut? separator 0 t with
  | none =>
      rw [hCut] at h
      rw [splitOutside_of_cut?_none h, splitOutside_of_cut?_none hCut]
      rfl
  | some found =>
      rw [hCut] at h
      rw [splitOutside_of_cut?_some hNonempty h,
        splitOutside_of_cut?_some hNonempty hCut]
      rfl

/- A cut at a blank leaves a text without one in front of it. -/
theorem eq_of_cut?_blank
    {depth : Nat}
    {t piece after : Text}
    (h : cut? [' '] depth t = some (piece, after)) :
    t = piece ++ ' ' :: after ∧
      ∀ c ∈ outsideFrom depth piece, c ≠ ' ' := by
  induction t generalizing depth piece with
  | nil => simp [cut?] at h
  | cons c rest ih =>
      rw [cut?] at h
      split at h
      · rename_i hCut
        have hBlank := ((beginsWith_blank _ _ _).1 hCut.2.2).1
        cases h
        rw [hBlank]
        exact ⟨rfl, by simp [outsideFrom]⟩
      · rename_i hNot
        cases hCut : cut? [' '] (nest depth c) rest with
        | none => simp [hCut] at h
        | some found =>
            rcases found with ⟨piece', after'⟩
            simp only [hCut, Option.some.injEq,
              Prod.mk.injEq] at h
            rcases h with ⟨rfl, rfl⟩
            rcases ih hCut with ⟨rfl, hPiece⟩
            refine ⟨rfl, fun d hMem => ?_⟩
            rw [outsideFrom] at hMem
            split at hMem
            · rename_i hZero
              rcases List.mem_cons.1 hMem with rfl | hLater
              · rintro rfl
                exact hNot
                  ⟨hZero, rfl, (beginsWith_blank _ _ _).2 ⟨rfl, rfl⟩⟩
              · exact hPiece d hLater
            · exact hPiece d hMem

theorem plain_of_cut?_blank_none
    {depth : Nat}
    {t : Text}
    (h : cut? [' '] depth t = none) :
    ∀ c ∈ outsideFrom depth t, c ≠ ' ' := by
  induction t generalizing depth with
  | nil => simp [outsideFrom]
  | cons c rest ih =>
      rw [cut?] at h
      split at h
      · cases h
      · rename_i hNot
        cases hCut : cut? [' '] (nest depth c) rest with
        | some found => simp [hCut] at h
        | none =>
            intro d hMem
            rw [outsideFrom] at hMem
            split at hMem
            · rename_i hZero
              rcases List.mem_cons.1 hMem with rfl | hLater
              · rintro rfl
                exact hNot
                  ⟨hZero, rfl, (beginsWith_blank _ _ _).2 ⟨rfl, rfl⟩⟩
              · exact ih hCut d hLater
            · exact ih hCut d hMem

theorem blankWords_ne_nil (t : Text) : t.blankWords ≠ [] := by
  rw [blankWords, splitOutside]
  split
  · split <;> simp
  · simp

/- The words with their blanks make up the text. -/
theorem unwords_blankWords (t : Text) : unwords t.blankWords = t := by
  unfold blankWords
  fun_induction splitOutside [' '] t with
  | case1 t _ hCut => exact unwords_singleton t
  | case2 t _ piece after hCut ih =>
      rcases eq_of_cut?_blank hCut with ⟨rfl, _⟩
      have hNe := blankWords_ne_nil after
      unfold blankWords at hNe
      rcases List.exists_cons_of_ne_nil hNe with ⟨w, more, hWords⟩
      rw [hWords] at ih
      rw [hWords, unwords_cons_cons]
      exact congrArg (fun u => piece ++ ([' '] ++ u)) ih
  | case3 t hEmpty => exact unwords_singleton t

theorem isSolid_of_mem_blankWords
    {t w : Text}
    (hBalanced : t.isBalanced = true)
    (hMem : w ∈ t.blankWords) : w.IsSolid := by
  refine ⟨isBalanced_of_mem_splitOutside rfl hBalanced hMem, ?_⟩
  clear hBalanced
  unfold blankWords at hMem
  fun_induction splitOutside [' '] t with
  | case1 t _ hCut =>
      rw [List.mem_singleton.1 hMem]
      exact plain_of_cut?_blank_none hCut
  | case2 t _ piece after hCut ih =>
      rcases List.mem_cons.1 hMem with rfl | hLater
      · exact (eq_of_cut?_blank hCut).2
      · exact ih hLater
  | case3 t hEmpty => exact absurd (List.cons_ne_nil _ _) hEmpty

/- Two lists of words, one behind the other. -/
theorem unwords_append
    {ws vs : List Text}
    (hFirst : ws ≠ [])
    (hSecond : vs ≠ []) :
    unwords (ws ++ vs) = unwords ws ++ ' ' :: unwords vs := by
  induction ws with
  | nil => exact absurd rfl hFirst
  | cons w rest ih =>
      cases rest with
      | nil =>
          rcases List.exists_cons_of_ne_nil hSecond with ⟨v, more, rfl⟩
          rw [List.singleton_append, unwords_cons_cons,
            unwords_singleton]
          rfl
      | cons u more =>
          have hRest := ih (List.cons_ne_nil _ _)
          rw [List.cons_append, List.cons_append, unwords_cons_cons,
            ← List.cons_append, hRest, unwords_cons_cons]
          simp

------------------------------------------------------------
-- Dividing Words
------------------------------------------------------------

/- The lists of words before, between and after separators. -/
def splitWords : List Text → List (List Text)
  | w :: a :: b :: rest =>
      if isConjunction a then [w] :: splitWords (b :: rest)
      else (splitWords (a :: b :: rest)).modifyHead (w :: ·)
  | words => [words]

/- The word has no braces and no white space. -/
theorem plain_of_isConjunction
    {a : Text}
    (h : a.isConjunction = true) :
    ∀ c ∈ a, isBrace c = false ∧ Character.isSpace c = false := by
  rw [isConjunction, beq_iff_eq] at h
  intro c hMem
  have hLetter : Character.lowerAscii c ∈ "and".toList := by
    rw [← h]
    exact List.mem_map_of_mem hMem
  cases hAscii : Character.isAscii c with
  | true =>
      exact Character.forall_ascii
        (P := fun c => Character.lowerAscii c ∈ "and".toList →
          isBrace c = false ∧ Character.isSpace c = false)
        (by decide) hAscii hLetter
  | false =>
      rw [Character.lowerAscii_of_not_isAscii hAscii] at hLetter
      have hLetters : "and".toList.all (fun d =>
          isBrace d = false ∧ Character.isSpace d = false) = true := by
        decide
      exact of_decide_eq_true (List.all_eq_true.1 hLetters c hLetter)

/- The word "and" between two blanks is a separator. -/
theorem cut?_conjunction
    {a : Text}
    (h : a.isConjunction = true)
    (t : Text) :
    cut? " and ".toList 0 (' ' :: (a ++ ' ' :: t)) =
      some ([], t) := by
  rw [isConjunction, beq_iff_eq] at h
  have hText : ' ' :: (a ++ ' ' :: t) = (' ' :: a ++ [' ']) ++ t := by
    simp
  have hLower : lowerAscii (' ' :: a ++ [' ']) =
      lowerAscii " and ".toList := by
    rw [lowerAscii, List.map_append, List.map_cons, ← lowerAscii, h]
    decide
  have hLength : (' ' :: a ++ [' ']).length = " and ".toList.length := by
    rw [← List.length_map (f := Character.lowerAscii), ← lowerAscii,
      hLower]
    rfl
  have hBegins := beginsWith_iff.2 ⟨_, t, hText, hLower⟩
  rw [cut?, if_pos ⟨rfl, rfl, hBegins⟩, hText,
    List.drop_left' hLength]

/- What begins like the separator has the word and then a blank. -/
theorem exists_of_beginsWith
    {t : Text}
    (h : beginsWith "and ".toList t = true) :
    ∃ a u : Text, a.isConjunction = true ∧ t = a ++ ' ' :: u := by
  rcases beginsWith_iff.1 h with ⟨w, u, rfl, hLower⟩
  have hParts : w.lowerAscii = "and".toList ++ [' '] := by
    rw [hLower]
    decide
  rcases List.map_eq_append_iff.1 hParts with
    ⟨a, b, rfl, hWord, hBlank⟩
  rcases List.map_eq_singleton_iff.1 hBlank with ⟨c, rfl, hChar⟩
  refine ⟨a, u, beq_iff_eq.2 hWord, ?_⟩
  rw [(lowerAscii_eq_blank_iff c).1 hChar, List.append_assoc]
  rfl

/- A blank at depth zero is one outside of groups. -/
theorem IsSolid.ne_append_blank
    {a u v : Text}
    (h : v.IsSolid)
    (hPlain : ∀ c ∈ a, isBrace c = false) : v ≠ a ++ ' ' :: u := by
  rintro rfl
  refine h.plain ' ' ?_ rfl
  have hDepth : a.foldl nest 0 = 0 :=
    foldl_nest_of_depthAfter?
      (isBalanced_iff.1 (isBalanced_of_forall_not hPlain))
  rw [outside, outsideFrom_append, hDepth]
  exact List.mem_append_right _ List.mem_cons_self

/- Only the word itself makes a separator with what follows. -/
theorem IsSolid.isConjunction_of_beginsWith
    {w t : Text}
    (h : w.IsSolid)
    (hBegins : beginsWith "and ".toList (w ++ ' ' :: t) = true) :
    w.isConjunction = true := by
  rcases exists_of_beginsWith hBegins with ⟨a, u, hWord, hText⟩
  have hPlain := plain_of_isConjunction hWord
  rcases List.append_eq_append_iff.1 hText with
    ⟨x, rfl, hRest⟩ | ⟨x, rfl, hRest⟩
  · cases x with
    | nil =>
        rw [List.append_nil] at hWord
        exact hWord
    | cons c x =>
        obtain ⟨rfl, _⟩ := List.cons.inj hRest
        exact absurd (hPlain ' ' (by simp)).2 (by decide)
  · cases x with
    | nil =>
        rw [List.append_nil]
        exact hWord
    | cons c x =>
        obtain ⟨rfl, _⟩ := List.cons.inj hRest
        exact absurd rfl
          (h.ne_append_blank (fun c hMem => (hPlain c hMem).1))

/- The last word of a text is never a separator. -/
theorem IsSolid.not_beginsWith
    {w : Text}
    (h : w.IsSolid) : beginsWith "and ".toList w = false := by
  refine Bool.eq_false_iff.2 ?_
  intro hBegins
  rcases exists_of_beginsWith hBegins with ⟨a, u, hWord, hText⟩
  exact h.ne_append_blank
    (fun c hMem => (plain_of_isConjunction hWord c hMem).1) hText

/- A blank that is no separator's is passed over. -/
theorem cut?_blank
    {t : Text}
    (h : beginsWith "and ".toList t = false) :
    cut? " and ".toList 0 ([' '] ++ t) =
      (cut? " and ".toList 0 t).map
        (fun found => ([' '] ++ found.1, found.2)) := by
  have hNot : ¬ (0 = 0 ∧ isBrace ' ' = false ∧
      beginsWith " and ".toList (' ' :: t) = true) := by
    rintro ⟨_, _, hBegins⟩
    have hRest := ((beginsWith_blank "and ".toList ' ' t).1 hBegins).2
    rw [h] at hRest
    cases hRest
  rw [List.singleton_append, cut?, if_neg hNot]
  have hZero : nest 0 ' ' = 0 := by decide
  rw [hZero]
  cases cut? " and ".toList 0 t with
  | none => rfl
  | some found => rfl

/- The first list of words begins with the first word. -/
theorem exists_splitWords_cons
    (w : Text)
    (rest : List Text) :
    ∃ piece more, splitWords (w :: rest) = (w :: piece) :: more := by
  induction rest generalizing w with
  | nil => exact ⟨[], [], rfl⟩
  | cons a others ih =>
      cases others with
      | nil => exact ⟨[a], [], rfl⟩
      | cons b rest =>
          rw [splitWords]
          split
          · exact ⟨[], _, rfl⟩
          · rcases ih a with ⟨piece, more, hWords⟩
            rw [hWords]
            exact ⟨a :: piece, more, rfl⟩

section Solid

variable {w : Text}

/- A word stays with the first name of what follows. -/
theorem IsSolid.splitOutside_append
    (h : w.IsSolid)
    (t : Text) :
    splitOutside " and ".toList (w ++ t) =
      (splitOutside " and ".toList t).modifyHead (w ++ ·) :=
  Text.splitOutside_append (by decide) (h.cut?_append _ _)

/- A word alone is one name. -/
theorem IsSolid.splitOutside_eq
    (h : w.IsSolid) : splitOutside " and ".toList w = [w] := by
  have hNil : splitOutside " and ".toList [] = [[]] :=
    splitOutside_of_cut?_none rfl
  have hEnd := h.splitOutside_append []
  rw [List.append_nil, hNil] at hEnd
  rw [hEnd, List.modifyHead_cons, List.append_nil]

/- A word and a blank that begins no separator are not parted. -/
theorem IsSolid.splitOutside_blank
    {t : Text}
    (h : w.IsSolid)
    (hBegins : beginsWith "and ".toList t = false) :
    splitOutside " and ".toList (w ++ ([' '] ++ t)) =
      ((splitOutside " and ".toList t).modifyHead
        ([' '] ++ ·)).modifyHead (w ++ ·) := by
  rw [h.splitOutside_append,
    Text.splitOutside_append (by decide) (cut?_blank hBegins)]

/- A word in front of a separator is one name. -/
theorem IsSolid.splitOutside_conjunction
    {a : Text}
    (h : w.IsSolid)
    (hWord : a.isConjunction = true)
    (t : Text) :
    splitOutside " and ".toList (w ++ ' ' :: (a ++ ' ' :: t)) =
      w :: splitOutside " and ".toList t := by
  rw [h.splitOutside_append, splitOutside_of_cut?_some (by decide)
    (cut?_conjunction hWord t), List.modifyHead_cons,
    List.append_nil]

end Solid

/- Dividing a text into names is dividing its words. -/
theorem splitOutside_unwords
    {ws : List Text}
    (h : ∀ w ∈ ws, w.IsSolid) :
    splitOutside " and ".toList (unwords ws) =
      (splitWords ws).map unwords := by
  fun_induction splitWords ws with
  | case1 w a b rest hWord ih =>
      rcases List.forall_mem_cons.1 h with ⟨hFirst, hMore⟩
      have hText : unwords (w :: a :: b :: rest) =
          w ++ ' ' :: (a ++ ' ' :: unwords (b :: rest)) := by
        simp only [unwords_cons_cons, List.singleton_append]
      rw [hText, hFirst.splitOutside_conjunction hWord,
        ih (List.forall_mem_cons.1 hMore).2, List.map_cons,
        unwords_singleton]
  | case2 w a b rest hWord ih =>
      rcases List.forall_mem_cons.1 h with ⟨hFirst, hMore⟩
      have hSecond := (List.forall_mem_cons.1 hMore).1
      have hBegins : beginsWith "and ".toList
          (unwords (a :: b :: rest)) = false := by
        refine Bool.eq_false_iff.2 (fun hBegins => hWord ?_)
        rw [unwords_cons_cons, List.singleton_append] at hBegins
        exact hSecond.isConjunction_of_beginsWith hBegins
      rcases exists_splitWords_cons a (b :: rest) with
        ⟨piece, more, hWords⟩
      rw [unwords_cons_cons, hFirst.splitOutside_blank hBegins,
        ih hMore, hWords, List.map_cons, List.modifyHead_cons,
        List.modifyHead_cons, List.modifyHead_cons, List.map_cons,
        unwords_cons_cons]
  | case3 ws hFew =>
      cases ws with
      | nil => exact splitOutside_of_cut?_none rfl
      | cons w others =>
          rcases List.forall_mem_cons.1 h with ⟨hFirst, hOthers⟩
          cases others with
          | nil =>
              rw [unwords_singleton, hFirst.splitOutside_eq,
                List.map_singleton, unwords_singleton]
          | cons a more =>
              cases more with
              | nil =>
                  have hLast := hOthers a List.mem_cons_self
                  rw [unwords_cons_cons, unwords_singleton,
                    hFirst.splitOutside_blank hLast.not_beginsWith,
                    hLast.splitOutside_eq, List.modifyHead_cons,
                    List.modifyHead_cons, List.map_singleton,
                    unwords_cons_cons, unwords_singleton]
              | cons b rest => exact absurd rfl (hFew w a b rest)

/- The names in a text are divided at its blanks. -/
theorem splitOutside_of_isBalanced
    {t : Text}
    (h : t.isBalanced = true) :
    splitOutside " and ".toList t =
      (splitWords t.blankWords).map unwords := by
  have hDivide := splitOutside_unwords
    (fun _ hMem => isSolid_of_mem_blankWords h hMem)
  rw [unwords_blankWords] at hDivide
  exact hDivide

------------------------------------------------------------
-- Joined Names
------------------------------------------------------------

/- A word that is no separator stays with the one before it. -/
theorem splitWords_cons_cons
    {w a : Text}
    (h : a.isConjunction = false)
    (rest : List Text) :
    splitWords (w :: a :: rest) =
      (splitWords (a :: rest)).modifyHead (w :: ·) := by
  cases rest with
  | nil => rfl
  | cons b rest => rw [splitWords, if_neg (by simp [h])]

/- Words without a separator among them stay together. -/
theorem splitWords_of_forall_not
    {ws : List Text}
    (h : ∀ w ∈ ws.tail.dropLast, w.isConjunction = false) :
    splitWords ws = [ws] := by
  fun_induction splitWords ws with
  | case1 w a b rest hWord ih =>
      have hNot := h a (by simp)
      rw [hWord] at hNot
      cases hNot
  | case2 w a b rest hWord ih =>
      rw [ih ?_, List.modifyHead_cons]
      intro v hMem
      refine h v ?_
      rw [List.tail_cons, List.dropLast_cons_cons]
      exact List.mem_cons_of_mem _ hMem
  | case3 ws hFew => rfl

/- Such words end where a separator follows. -/
theorem splitWords_append
    {ws vs : List Text}
    {a : Text}
    (hFirst : ws ≠ [])
    (hSecond : vs ≠ [])
    (hWord : a.isConjunction = true)
    (h : ∀ w ∈ ws.tail, w.isConjunction = false) :
    splitWords (ws ++ a :: vs) = ws :: splitWords vs := by
  induction ws with
  | nil => exact absurd rfl hFirst
  | cons w rest ih =>
      cases rest with
      | nil =>
          rcases List.exists_cons_of_ne_nil hSecond with ⟨v, vs, rfl⟩
          rw [List.singleton_append, splitWords, if_pos hWord]
      | cons u more =>
          have hRest := ih (List.cons_ne_nil _ _)
            (fun x hMem => h x (List.mem_cons_of_mem _ hMem))
          rw [List.cons_append, List.cons_append,
            splitWords_cons_cons (h u List.mem_cons_self),
            ← List.cons_append, hRest, List.modifyHead_cons]

/- A separator among the words ends the first list early. -/
theorem exists_splitWords_of_conjunction
    {x y : List Text}
    {b : Text}
    (hFirst : x ≠ [])
    (hSecond : y ≠ [])
    (hWord : b.isConjunction = true) :
    ∃ piece more, splitWords (x ++ b :: y) = piece :: more ∧
      piece <+: x := by
  induction x with
  | nil => exact absurd rfl hFirst
  | cons w rest ih =>
      rcases List.exists_cons_of_ne_nil hSecond with ⟨v, vs, rfl⟩
      cases rest with
      | nil =>
          rw [List.singleton_append, splitWords, if_pos hWord]
          exact ⟨[w], _, rfl, List.prefix_rfl⟩
      | cons a rest =>
          cases hNext : a.isConjunction with
          | true =>
              have hMore : rest ++ b :: v :: vs ≠ [] := by simp
              rcases List.exists_cons_of_ne_nil hMore with
                ⟨c, more, hText⟩
              rw [List.cons_append, List.cons_append, hText,
                splitWords, if_pos hNext]
              exact ⟨[w], _, rfl, a :: rest, rfl⟩
          | false =>
              rcases ih (List.cons_ne_nil _ _) with
                ⟨piece, more, hWords, hPrefix⟩
              rw [List.cons_append, List.cons_append,
                splitWords_cons_cons hNext, ← List.cons_append,
                hWords]
              exact ⟨w :: piece, more, rfl,
                (List.prefix_cons_inj w).2 hPrefix⟩

/-
  Whether names stay apart when they are joined: none of them has
  a separator among its words, nor one at its end if another name
  follows.
-/
def namesApart : List Text → Bool
  | [] => true
  | [t] => !t.blankWords.tail.dropLast.any isConjunction
  | t :: u :: rest =>
      !t.blankWords.tail.any isConjunction && namesApart (u :: rest)

/- The characters of words apart from white space. -/
theorem filter_unwords
    {p : Char → Bool}
    (hBlank : p ' ' = false)
    (ws : List Text) :
    (unwords ws).filter p = ws.flatMap (List.filter p) := by
  induction ws with
  | nil => rfl
  | cons w rest ih =>
      rw [filter_unwords_cons hBlank, ih, List.flatMap_cons]

/- What is cut off at a separator among the words is missed. -/
theorem trim_unwords_ne
    {piece x y : List Text}
    {b : Text}
    (hPrefix : piece <+: x)
    (hWord : b.isConjunction = true) :
    (unwords piece).trim ≠ (unwords (x ++ b :: y)).trim := by
  intro hSame
  -- Trimming keeps what is not white space, and so the word.
  have hSpace : ∀ c, Character.isSpace c = true →
      (!Character.isSpace c) = false := by
    intro c h
    rw [h]
    rfl
  have hVisible := congrArg
    (List.filter (fun c => !Character.isSpace c)) hSame
  rcases hPrefix with ⟨z, rfl⟩
  rw [filter_trim hSpace, filter_trim hSpace,
    filter_unwords (by decide), filter_unwords (by decide),
    List.append_assoc, List.flatMap_append, List.self_eq_append_right,
    List.flatMap_append, List.append_eq_nil_iff, List.flatMap_cons,
    List.append_eq_nil_iff, List.filter_eq_nil_iff] at hVisible
  have hNone := hVisible.2.1
  cases b with
  | nil => cases hWord
  | cons c rest =>
      have hLetter := (plain_of_isConjunction hWord c
        List.mem_cons_self).2
      refine hNone c List.mem_cons_self ?_
      rw [hLetter]
      rfl

/- A separator among the words cuts the first name short. -/
theorem exists_splitWords_trim_ne
    {x y : List Text}
    {b : Text}
    (hFirst : x ≠ [])
    (hSecond : y ≠ [])
    (hWord : b.isConjunction = true) :
    ∃ piece more, splitWords (x ++ b :: y) = piece :: more ∧
      ∀ z, (unwords piece).trim ≠ (unwords (x ++ b :: z)).trim := by
  rcases exists_splitWords_of_conjunction hFirst hSecond hWord with
    ⟨piece, more, hPieces, hPrefix⟩
  exact ⟨piece, more, hPieces,
    fun _ => trim_unwords_ne hPrefix hWord⟩

/- A word behind the first one of a text, with what surrounds it. -/
theorem exists_of_mem_tail
    {ws : List Text}
    {b : Text}
    (h : b ∈ ws.tail) : ∃ x y, x ≠ [] ∧ ws = x ++ b :: y := by
  cases ws with
  | nil => cases h
  | cons w rest =>
      rcases List.append_of_mem h with ⟨x, y, hRest⟩
      rw [List.tail_cons] at hRest
      exact ⟨w :: x, y, List.cons_ne_nil _ _, by rw [hRest]; rfl⟩

/- A word between the first and the last one of a text. -/
theorem exists_of_mem_tail_dropLast
    {ws : List Text}
    {b : Text}
    (h : b ∈ ws.tail.dropLast) :
    ∃ x y, x ≠ [] ∧ y ≠ [] ∧ ws = x ++ b :: y := by
  cases ws with
  | nil => cases h
  | cons w rest =>
      rw [List.tail_cons] at h
      have hRest : rest ≠ [] := by
        rintro rfl
        cases h
      rcases List.append_of_mem h with ⟨x, y, hInner⟩
      have hWhole := List.dropLast_concat_getLast hRest
      rw [hInner] at hWhole
      refine ⟨w :: x, y ++ [rest.getLast hRest],
        List.cons_ne_nil _ _, by simp, ?_⟩
      rw [List.append_assoc, List.cons_append] at hWhole
      exact congrArg (List.cons w) hWhole.symm

/- A single name is found again if it does not come apart. -/
theorem map_trim_splitOutside_iff
    {t : Text}
    (hBalanced : t.isBalanced = true) :
    (splitOutside " and ".toList t).map trim = [t.trim] ↔
      ∀ b ∈ t.blankWords.tail.dropLast, b.isConjunction = false := by
  rw [splitOutside_of_isBalanced hBalanced]
  constructor
  · intro hSame b hMem
    refine Bool.eq_false_iff.2 (fun hWord => ?_)
    rcases exists_of_mem_tail_dropLast hMem with
      ⟨x, y, hx, hy, hWords⟩
    rcases exists_splitWords_trim_ne hx hy hWord with
      ⟨piece, more, hPieces, hShort⟩
    rw [hWords, hPieces] at hSame
    have hHead := (List.cons.inj hSame).1
    rw [← unwords_blankWords t, hWords] at hHead
    exact hShort y hHead
  · intro hApart
    rw [splitWords_of_forall_not hApart, List.map_singleton,
      unwords_blankWords]
    rfl

/- The words of a name and of those that follow it. -/
theorem unwords_blankWords_append (t others : Text) :
    unwords (t.blankWords ++ "and".toList :: others.blankWords) =
      t ++ (" and ".toList ++ others) := by
  have hOthers : unwords ("and".toList :: others.blankWords) =
      "and".toList ++ ' ' :: others := by
    have hWords := unwords_append (List.cons_ne_nil "and".toList [])
      (blankWords_ne_nil others)
    rw [unwords_blankWords] at hWords
    exact hWords
  rw [unwords_append (blankWords_ne_nil t) (List.cons_ne_nil _ _),
    unwords_blankWords, hOthers]
  rfl

/- A text with others behind it is divided at the blanks of both. -/
theorem splitOutside_append_others
    {t others : Text}
    (hFirst : t.isBalanced = true)
    (hOthers : others.isBalanced = true) :
    splitOutside " and ".toList (t ++ (" and ".toList ++ others)) =
      (splitWords (t.blankWords ++
        "and".toList :: others.blankWords)).map unwords := by
  rw [← unwords_blankWords_append]
  apply splitOutside_unwords
  intro w hMem
  rcases List.mem_append.1 hMem with hIn | hIn
  · exact isSolid_of_mem_blankWords hFirst hIn
  · rcases List.mem_cons.1 hIn with rfl | hIn
    · refine ⟨by decide, ?_⟩
      rintro c hMem rfl
      exact absurd hMem (by decide)
    · exact isSolid_of_mem_blankWords hOthers hIn

/- A name is found again before others if it does not come apart. -/
theorem map_trim_splitOutside_append_iff
    {t others : Text}
    {names : List Text}
    (hFirst : t.isBalanced = true)
    (hOthers : others.isBalanced = true) :
    (splitOutside " and ".toList
        (t ++ (" and ".toList ++ others))).map trim =
        t.trim :: names ↔
      (∀ b ∈ t.blankWords.tail, b.isConjunction = false) ∧
        (splitOutside " and ".toList others).map trim = names := by
  have hAnd : isConjunction "and".toList = true := by decide
  rw [splitOutside_append_others hFirst hOthers]
  cases hAny : t.blankWords.tail.any isConjunction with
  | true =>
      rcases List.any_eq_true.1 hAny with ⟨b, hMem, hWord⟩
      rcases exists_of_mem_tail hMem with ⟨x, y, hx, hWords⟩
      have hy : y ++ "and".toList :: others.blankWords ≠ [] := by simp
      rcases exists_splitWords_trim_ne hx hy hWord with
        ⟨piece, more, hPieces, hShort⟩
      have hHead : (unwords piece).trim ≠ t.trim := by
        rw [← unwords_blankWords t, hWords]
        exact hShort y
      rw [hWords, List.append_assoc, List.cons_append, hPieces,
        List.map_cons, List.map_cons, ← hWords]
      constructor
      · intro hSame
        exact absurd (List.cons.inj hSame).1 hHead
      · rintro ⟨hApart, _⟩
        rw [hApart b hMem] at hWord
        cases hWord
  | false =>
      have hApart : ∀ b ∈ t.blankWords.tail,
          b.isConjunction = false :=
        fun b hMem =>
          Bool.eq_false_iff.2 (List.any_eq_false.1 hAny b hMem)
      rw [splitWords_append (blankWords_ne_nil t)
        (blankWords_ne_nil others) hAnd hApart, List.map_cons,
        unwords_blankWords, ← splitOutside_of_isBalanced hOthers,
        List.map_cons]
      constructor
      · intro hSame
        exact ⟨hApart, (List.cons.inj hSame).2⟩
      · rintro ⟨_, rfl⟩
        rfl

/-
  Joined names are found again, white space at their ends aside,
  exactly if they stay apart.
-/
theorem map_trim_splitOutside_join_iff
    {names : List Text}
    (hNonempty : names ≠ [])
    (hBalanced : ∀ t ∈ names, t.isBalanced = true) :
    (splitOutside " and ".toList (join " and ".toList names)).map
        trim = names.map trim ↔
      namesApart names = true := by
  induction names with
  | nil => exact absurd rfl hNonempty
  | cons t rest ih =>
      rcases List.forall_mem_cons.1 hBalanced with ⟨hFirst, hRest⟩
      cases rest with
      | nil =>
          rw [join_singleton, List.map_singleton,
            map_trim_splitOutside_iff hFirst, namesApart,
            Bool.not_eq_true', List.any_eq_false]
          simp only [Bool.not_eq_true]
      | cons u more =>
          have hSeparator : isBalanced " and ".toList = true := by
            decide
          have hOthers := isBalanced_join hSeparator hRest
          have hApart : namesApart (t :: u :: more) =
              (!t.blankWords.tail.any isConjunction &&
                namesApart (u :: more)) := rfl
          rw [join_cons_cons, List.map_cons,
            map_trim_splitOutside_append_iff hFirst hOthers,
            ih (List.cons_ne_nil _ _) hRest, hApart,
            Bool.and_eq_true, Bool.not_eq_true', List.any_eq_false]
          simp only [Bool.not_eq_true]

end Text

end Bibliography
