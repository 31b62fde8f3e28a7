import Bibliography.Person.Format
import Bibliography.Proofs.Text.Balance

/-
  Balanced texts group by group.

  A balanced text is empty, or it begins with a character that is
  no brace, or with a group whose inside and rest are balanced.
  What is defined by following groups can be proved along these
  three cases.

  Key statements include:
    * `Text.exists_closing`
    * `Text.isBalanced_induction`
    * `Text.foldl_nest_of_isBalanced`
    * `Text.closeGroup_append`
    * `Text.isBalanced_abbreviate`
-/

------------------------------------------------------------
-- The First Group
------------------------------------------------------------

namespace Bibliography

namespace Text

/- Below an open group the depth changes as it does without it. -/
theorem nest_succ
    {depth : Nat}
    {c : Char}
    (h : ¬ (c = '}' ∧ depth = 0)) :
    nest (depth + 1) c = nest depth c + 1 := by
  unfold nest
  by_cases hOpen : c = '{'
  · rw [if_pos hOpen, if_pos hOpen]
  · by_cases hClose : c = '}'
    · have hDepth : depth ≠ 0 := fun hZero => h ⟨hClose, hZero⟩
      rw [if_neg hOpen, if_neg hOpen, if_pos hClose, if_pos hClose]
      omega
    · rw [if_neg hOpen, if_neg hOpen, if_neg hClose, if_neg hClose]

/- The brace that closes the outermost of the open groups. -/
theorem exists_closing
    {depth : Nat}
    {t : Text}
    (h : balancedFrom (depth + 1) t = true) :
    ∃ inner after : Text, t = inner ++ '}' :: after ∧
      balancedFrom depth inner = true ∧
      after.isBalanced = true := by
  induction t generalizing depth with
  | nil => simp [balancedFrom] at h
  | cons c rest ih =>
      rcases balancedFrom_cons.1 h with ⟨_, hRest⟩
      by_cases hCloses : c = '}' ∧ depth = 0
      · rcases hCloses with ⟨rfl, rfl⟩
        exact ⟨[], rest, rfl, rfl, hRest⟩
      · rw [nest_succ hCloses] at hRest
        rcases ih hRest with ⟨inner, after, rfl, hInner, hAfter⟩
        exact ⟨c :: inner, after, rfl,
          balancedFrom_cons.2 ⟨hCloses, hInner⟩, hAfter⟩

/- A balanced text that opens a group closes it. -/
theorem exists_group
    {t : Text}
    (h : isBalanced ('{' :: t) = true) :
    ∃ inner after : Text, t = inner ++ '}' :: after ∧
      inner.isBalanced = true ∧ after.isBalanced = true :=
  exists_closing (balancedFrom_cons.1 h).2

theorem isBalanced_singleton
    {c : Char}
    (h : isBrace c = false) : isBalanced [c] = true :=
  isBalanced_of_forall_not (by simpa using h)

theorem isBalanced_cons_iff
    {c : Char}
    (h : isBrace c = false)
    {t : Text} :
    isBalanced (c :: t) = true ↔ t.isBalanced = true := by
  constructor
  · intro hWhole
    exact isBalanced_of_append (a := [c]) hWhole
      (isBalanced_singleton h)
  · exact isBalanced_append (isBalanced_singleton h)

/- Behind the brace that closes a group only the rest counts. -/
theorem balancedFrom_closing
    {depth : Nat}
    {inner : Text}
    (h : balancedFrom depth inner = true)
    (after : Text) :
    balancedFrom (depth + 1) (inner ++ '}' :: after) =
      after.isBalanced := by
  induction inner generalizing depth with
  | nil =>
      have hZero : depth = 0 := by simpa [balancedFrom] using h
      rw [hZero]
      rfl
  | cons c rest ih =>
      rcases balancedFrom_cons.1 h with ⟨hOpen, hRest⟩
      have hNot : ¬ (c = '}' ∧ depth + 1 = 0) := by
        rintro ⟨_, hZero⟩
        cases hZero
      rw [List.cons_append, balancedFrom, if_neg hNot,
        nest_succ hOpen, ih hRest]

/- A group in front of a text does not change its balance. -/
theorem isBalanced_group
    {inner : Text}
    (h : inner.isBalanced = true)
    (after : Text) :
    isBalanced ('{' :: (inner ++ '}' :: after)) =
      after.isBalanced := by
  have hOpens : ¬ ('{' = '}' ∧ 0 = 0) := by
    rintro ⟨hSame, _⟩
    cases hSame
  rw [isBalanced, balancedFrom, if_neg hOpens]
  exact balancedFrom_closing h after

/- A balanced text does not begin with a closing brace. -/
theorem ne_closing_of_isBalanced
    {c : Char}
    {t : Text}
    (h : isBalanced (c :: t) = true) : c ≠ '}' :=
  fun hClose => (balancedFrom_cons.1 h).1 ⟨hClose, rfl⟩

theorem not_isBrace_of_ne
    {c : Char}
    (hOpen : c ≠ '{')
    (hClose : c ≠ '}') : isBrace c = false := by
  rw [isBrace, Bool.or_eq_false_iff, beq_eq_false_iff_ne,
    beq_eq_false_iff_ne]
  exact ⟨hOpen, hClose⟩

/-
  What holds of the empty text, and comes to a text from what is
  behind its first character, or from the inside of its first group
  and what is behind it, holds of every balanced text.
-/
theorem isBalanced_induction
    {P : (t : Text) → t.isBalanced = true → Prop}
    (nil : P [] isBalanced_nil)
    (plain : ∀ c t
      (hBrace : isBrace c = false)
      (hRest : isBalanced t = true),
      P t hRest →
        P (c :: t) ((isBalanced_cons_iff hBrace).2 hRest))
    (group : ∀ inner after
      (hInner : isBalanced inner = true)
      (hAfter : isBalanced after = true),
      P inner hInner →
        P after hAfter →
          P ('{' :: (inner ++ '}' :: after))
            ((isBalanced_group hInner after).trans hAfter))
    (t : Text)
    (h : t.isBalanced = true) : P t h := by
  match t with
  | [] => exact nil
  | c :: rest =>
      by_cases hOpen : c = '{'
      · subst hOpen
        rcases exists_group h with
          ⟨inner, after, rfl, hInner, hAfter⟩
        have hShorter :
            inner.length < ('{' :: (inner ++ '}' :: after)).length ∧
              after.length <
                ('{' :: (inner ++ '}' :: after)).length := by
          rw [List.length_cons, List.length_append, List.length_cons]
          omega
        exact group inner after hInner hAfter
          (isBalanced_induction nil plain group inner hInner)
          (isBalanced_induction nil plain group after hAfter)
      · have hBrace := not_isBrace_of_ne hOpen
          (ne_closing_of_isBalanced h)
        have hRest := (isBalanced_cons_iff hBrace).1 h
        exact plain c rest hBrace hRest
          (isBalanced_induction nil plain group rest hRest)
termination_by t.length

/- A balanced text leaves the depth where it was. -/
theorem foldl_nest_of_isBalanced
    {t : Text}
    (h : t.isBalanced = true)
    (depth : Nat) : t.foldl nest depth = depth := by
  induction t, h using isBalanced_induction generalizing depth with
  | nil => rfl
  | plain c t hBrace _ ih =>
      rw [List.foldl_cons, nest_of_not_isBrace hBrace, ih]
  | group inner after _ _ ihInner ihAfter =>
      rw [List.foldl_cons, List.foldl_append, List.foldl_cons,
        ihInner, ihAfter]
      rfl

------------------------------------------------------------
-- Closing and Abbreviating
------------------------------------------------------------

/- A balanced text is passed over up to the brace behind it. -/
theorem closeGroup_append
    {depth : Nat}
    {inner : Text}
    (h : balancedFrom depth inner = true)
    (after : Text) :
    closeGroup depth (inner ++ '}' :: after) = (inner, after) := by
  induction inner generalizing depth with
  | nil =>
      have hZero : depth = 0 := by simpa [balancedFrom] using h
      rw [List.nil_append, closeGroup, if_pos ⟨rfl, hZero⟩]
  | cons c rest ih =>
      rcases balancedFrom_cons.1 h with ⟨hOpen, hRest⟩
      rw [List.cons_append, closeGroup, if_neg hOpen, ih hRest]

/- The first letter, or a whole group. -/
theorem isBalanced_abbreviate
    {w : Text}
    (h : w.isBalanced = true) : w.abbreviate.isBalanced = true := by
  cases w with
  | nil => rfl
  | cons c rest =>
      by_cases hOpen : c = '{'
      · subst hOpen
        rcases exists_group h with ⟨inner, after, rfl, hInner, _⟩
        have hLength : (inner ++ '}' :: after).length + 1 -
            after.length = ('{' :: (inner ++ ['}'])).length := by
          simp only [List.length_append, List.length_cons,
            List.length_nil]
          omega
        have hText : '{' :: (inner ++ '}' :: after) =
            '{' :: (inner ++ ['}']) ++ after := by
          simp
        rw [abbreviate, if_pos rfl]
        dsimp only
        rw [closeGroup_append hInner, hLength, hText, List.take_left,
          isBalanced_group hInner, isBalanced_nil]
      · rw [abbreviate, if_neg hOpen]
        exact isBalanced_singleton
          (not_isBrace_of_ne hOpen (ne_closing_of_isBalanced h))

end Text

end Bibliography
