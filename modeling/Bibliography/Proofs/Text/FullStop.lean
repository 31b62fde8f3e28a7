import Bibliography.Text.Excerpt
import Bibliography.Proofs.Text.Groups
import Mathlib.Data.List.Basic
import Mathlib.Data.List.Induction

/-
  The full stop behind the closing braces of a text.

  Where a full stop is added, braces that close nothing should be
  dropped from the end of the text.  How many are dropped is found
  by counting the braces of the whole text, so a stray brace far
  from the end is paid for by one at the end, even by one that
  closes a group.

  Key definitions include:
    * `Text.openGroups`
    * `Text.strays`
    * `Text.HasOpenGroup`
    * `Text.IsFinished`

  Key statements include:
    * `Text.hasOpenGroup_iff`
    * `Text.count_closing_add_openGroups`
    * `Text.addPeriod_of_not_isFinished`
    * `Text.addPeriod_drops_unmatched_iff`
-/

------------------------------------------------------------
-- Groups Left Open
------------------------------------------------------------

namespace Bibliography

namespace Text

/- The number of groups that a text leaves open. -/
def openGroups (t : Text) : Nat :=
  t.foldl nest 0

/- The closing braces that close nothing, from a depth on. -/
def straysFrom : Nat → Text → Nat
  | _, [] => 0
  | depth, c :: rest =>
      if c = '}' ∧ depth = 0 then straysFrom (nest depth c) rest + 1
      else straysFrom (nest depth c) rest

/- The closing braces of a text that close nothing. -/
def strays (t : Text) : Nat :=
  straysFrom 0 t

/-
  Some opening brace has only balanced text behind it, so that a
  closing brace at the end of the text would close its group.
-/
def HasOpenGroup (t : Text) : Prop :=
  ∃ before inner : Text,
    t = before ++ '{' :: inner ∧ inner.isBalanced = true

theorem openGroups_append
    (a b : Text) :
    (a ++ b).openGroups = b.foldl nest a.openGroups :=
  List.foldl_append

theorem openGroups_concat
    (t : Text)
    (c : Char) : openGroups (t ++ [c]) = nest t.openGroups c :=
  openGroups_append t [c]

/-
  The last of the open groups, and as many open before it as are
  left without it.  The brace that closes a group within that
  group takes two steps back, so the induction is on the length.
-/
theorem exists_openGroup
    {t : Text}
    {depth : Nat}
    (h : t.openGroups = depth + 1) :
    ∃ before inner : Text, t = before ++ '{' :: inner ∧
      before.openGroups = depth ∧ inner.isBalanced = true := by
  rcases List.eq_nil_or_concat' t with rfl | ⟨rest, c, rfl⟩
  · cases h
  · rw [openGroups_concat] at h
    by_cases hOpen : c = '{'
    · subst hOpen
      exact ⟨rest, [], rfl, Nat.succ.inj h, isBalanced_nil⟩
    · by_cases hClose : c = '}'
      · subst hClose
        have hRest : openGroups rest = depth + 1 + 1 := by
          change openGroups rest - 1 = depth + 1 at h
          omega
        rcases exists_openGroup hRest with
          ⟨outer, last, hSplit, hOuter, hLast⟩
        have hShorter : outer.length < (rest ++ ['}']).length := by
          rw [hSplit, List.length_append, List.length_append,
            List.length_cons]
          omega
        rcases exists_openGroup hOuter with
          ⟨before, first, rfl, hBefore, hFirst⟩
        refine ⟨before, first ++ '{' :: (last ++ ['}']), ?_,
          hBefore, isBalanced_append hFirst ?_⟩
        · rw [hSplit]
          simp
        · rw [isBalanced_group hLast, isBalanced_nil]
      · have hBrace := not_isBrace_of_ne hOpen hClose
        rw [nest_of_not_isBrace hBrace] at h
        rcases exists_openGroup h with
          ⟨before, inner, rfl, hBefore, hInner⟩
        exact ⟨before, inner ++ [c], by simp, hBefore,
          isBalanced_append hInner (isBalanced_singleton hBrace)⟩
termination_by t.length

/- Matching braces and following the depth agree. -/
theorem hasOpenGroup_iff
    {t : Text} : t.HasOpenGroup ↔ 0 < t.openGroups := by
  constructor
  · rintro ⟨before, inner, rfl, hInner⟩
    rw [openGroups_append, List.foldl_cons,
      foldl_nest_of_isBalanced hInner]
    exact Nat.succ_pos _
  · intro h
    rcases Nat.exists_eq_add_one.2 h with ⟨depth, hDepth⟩
    rcases exists_openGroup hDepth with
      ⟨before, inner, hSplit, _, hInner⟩
    exact ⟨before, inner, hSplit, hInner⟩

/- Every brace is counted: it opens, closes or is stray. -/
theorem count_closing_add_foldl
    (depth : Nat)
    (t : Text) :
    t.count '}' + t.foldl nest depth =
      depth + t.count '{' + straysFrom depth t := by
  induction t generalizing depth with
  | nil => simp [straysFrom]
  | cons c rest ih =>
      have hRest := ih (nest depth c)
      rw [List.foldl_cons, straysFrom]
      by_cases hOpen : c = '{'
      · subst hOpen
        have hNest : nest depth '{' = depth + 1 := rfl
        rw [List.count_cons_self, List.count_cons_of_ne (by decide),
          if_neg (fun h => absurd h.1 (by decide))]
        omega
      · by_cases hClose : c = '}'
        · subst hClose
          have hNest : nest depth '}' = depth - 1 := rfl
          rw [List.count_cons_self, List.count_cons_of_ne (by decide)]
          by_cases hZero : depth = 0
          · rw [if_pos ⟨rfl, hZero⟩]
            omega
          · rw [if_neg (fun h => hZero h.2)]
            omega
        · have hNest :=
            nest_of_not_isBrace (not_isBrace_of_ne hOpen hClose) depth
          rw [List.count_cons_of_ne hClose, List.count_cons_of_ne hOpen,
            if_neg (fun h => hClose h.1)]
          omega

theorem count_closing_add_openGroups
    (t : Text) :
    t.count '}' + t.openGroups = t.count '{' + t.strays := by
  have h := count_closing_add_foldl 0 t
  rwa [Nat.zero_add] at h

/- Without stray braces the depth never falls below zero. -/
theorem depthAfter?_eq_some_iff
    {depth final : Nat}
    {t : Text} :
    depthAfter? depth t = some final ↔
      straysFrom depth t = 0 ∧ t.foldl nest depth = final := by
  induction t generalizing depth with
  | nil => simp [depthAfter?, straysFrom]
  | cons c rest ih =>
      rw [depthAfter?, straysFrom, List.foldl_cons]
      split
      · simp
      · exact ih

theorem isBalanced_iff_strays
    {t : Text} :
    t.isBalanced = true ↔ t.strays = 0 ∧ t.openGroups = 0 :=
  isBalanced_iff.trans depthAfter?_eq_some_iff

------------------------------------------------------------
-- Closing Braces at the End
------------------------------------------------------------

/- Every text is a text and closing braces behind it. -/
theorem exists_closers (t : Text) :
    ∃ (body : Text) (n : Nat),
      t = body ++ List.replicate n '}' ∧
        body.getLast? ≠ some '}' := by
  induction t using List.reverseRecOn with
  | nil => exact ⟨[], 0, rfl, by simp⟩
  | append_singleton rest c ih =>
      by_cases hClose : c = '}'
      · subst hClose
        rcases ih with ⟨body, n, rfl, hBody⟩
        exact ⟨body, n + 1, by simp [List.replicate_succ'], hBody⟩
      · refine ⟨rest ++ [c], 0, by simp, ?_⟩
        simpa using hClose

theorem trimEndBy_closers
    {body : Text}
    (h : body.getLast? ≠ some '}')
    (n : Nat) :
    trimEndBy (fun c => c == '}')
      (body ++ List.replicate n '}') = body := by
  induction n with
  | zero =>
      rw [List.replicate_zero, List.append_nil]
      rcases List.eq_nil_or_concat' body with rfl | ⟨rest, c, rfl⟩
      · rfl
      · have hClose : ¬ (c == '}') = true := by simpa using h
        rw [trimEndBy_concat, if_neg hClose]
  | succ n ih =>
      rw [List.replicate_succ', ← List.append_assoc, trimEndBy_concat,
        if_pos (beq_self_eq_true _), ih]

theorem count_closing_closers
    (body : Text)
    (n : Nat) :
    (body ++ List.replicate n '}').count '}' =
      body.count '}' + n := by
  rw [List.count_append, List.count_replicate_self]

theorem count_opening_closers
    (body : Text)
    (n : Nat) :
    (body ++ List.replicate n '}').count '{' = body.count '{' := by
  rw [List.count_append, List.count_replicate, if_neg (by decide),
    Nat.add_zero]

/- Closing braces end as many groups as are open. -/
theorem openGroups_closers
    (body : Text)
    (n : Nat) :
    (body ++ List.replicate n '}').openGroups =
      body.openGroups - n := by
  induction n with
  | zero => simp
  | succ n ih =>
      rw [List.replicate_succ', ← List.append_assoc,
        openGroups_concat, ih]
      exact Nat.sub_sub _ _ _

------------------------------------------------------------
-- Full Stops
------------------------------------------------------------

/- Nothing, or a text that ends as a sentence does. -/
def IsFinished (t : Text) : Prop :=
  ∀ c ∈ t.getLast?, c = '.' ∨ c = '?' ∨ c = '!'

instance (t : Text) : Decidable t.IsFinished :=
  inferInstanceAs (Decidable (∀ c ∈ t.getLast?, _))

theorem endsSentence_iff
    {c : Char} :
    endsSentence c = true ↔ c = '.' ∨ c = '?' ∨ c = '!' := by
  rw [endsSentence, Bool.or_eq_true, Bool.or_eq_true, beq_iff_eq,
    beq_iff_eq, beq_iff_eq, or_assoc]

variable {body : Text}

theorem addPeriod_of_isFinished
    (hBody : body.getLast? ≠ some '}')
    (h : body.IsFinished)
    (n : Nat) :
    (body ++ List.replicate n '}').addPeriod =
      body ++ List.replicate n '}' := by
  rw [addPeriod, trimEndBy_closers hBody]
  dsimp only
  cases hLast : body.getLast? with
  | none => rfl
  | some c =>
      have hEnds := endsSentence_iff.2 (h c hLast)
      exact if_pos hEnds

/-
  Of the braces at the end as many are kept as the text before
  them opens groups more than it has stray braces.
-/
theorem addPeriod_of_not_isFinished
    (hBody : body.getLast? ≠ some '}')
    (h : ¬ body.IsFinished)
    (n : Nat) :
    (body ++ List.replicate n '}').addPeriod =
      body ++ List.replicate
        (min n (body.openGroups - body.strays)) '}' ++ ['.'] := by
  rw [addPeriod, trimEndBy_closers hBody]
  dsimp only
  cases hLast : body.getLast? with
  | none =>
      refine absurd ?_ h
      simp [IsFinished, hLast]
  | some c =>
      have hNot : ¬ endsSentence c = true := by
        intro hEnds
        refine h ?_
        simpa [IsFinished, hLast] using endsSentence_iff.1 hEnds
      have hCount := count_closing_add_openGroups body
      have hKept :
          body.length + n -
              min (body.count '}' + n - body.count '{') n =
            body.length +
              min n (body.openGroups - body.strays) := by
        omega
      dsimp only
      rw [if_neg hNot, count_closing_closers, count_opening_closers,
        List.length_append, List.length_replicate,
        Nat.add_sub_cancel_left, hKept,
        List.take_length_add_append, List.take_replicate,
        Nat.min_eq_left (Nat.min_le_left _ _)]

/- A text that ends with a full stop is left as it is. -/
theorem addPeriod_concat_period (t : Text) :
    (t ++ ['.']).addPeriod = t ++ ['.'] := by
  have hLast : List.getLast? (t ++ ['.']) ≠ some '}' := by simp
  have hFinished : IsFinished (t ++ ['.']) := by simp [IsFinished]
  have h := addPeriod_of_isFinished hLast hFinished 0
  rwa [List.replicate_zero, List.append_nil] at h

theorem addPeriod_addPeriod (t : Text) :
    t.addPeriod.addPeriod = t.addPeriod := by
  rcases exists_closers t with ⟨body, n, rfl, hBody⟩
  by_cases hFinished : body.IsFinished
  · rw [addPeriod_of_isFinished hBody hFinished,
      addPeriod_of_isFinished hBody hFinished]
  · rw [addPeriod_of_not_isFinished hBody hFinished,
      addPeriod_concat_period]

/- A text without a stray brace and open groups keeps its end. -/
theorem isBalanced_addPeriod
    {t : Text}
    (h : t.isBalanced = true) : t.addPeriod.isBalanced = true := by
  rcases exists_closers t with ⟨body, n, rfl, hBody⟩
  by_cases hFinished : body.IsFinished
  · rwa [addPeriod_of_isFinished hBody hFinished]
  · have hAll : n ≤ body.openGroups - body.strays := by
      have hWhole := count_closing_add_openGroups
        (body ++ List.replicate n '}')
      have hCount := count_closing_add_openGroups body
      rcases isBalanced_iff_strays.1 h with ⟨hStrays, hOpen⟩
      rw [hStrays, hOpen, count_closing_closers,
        count_opening_closers] at hWhole
      omega
    rw [addPeriod_of_not_isFinished hBody hFinished,
      Nat.min_eq_left hAll]
    exact isBalanced_append h (isBalanced_singleton rfl)

------------------------------------------------------------
-- Dropped Braces
------------------------------------------------------------

/- The brace at place `m` closes a group if more than `m` are open. -/
theorem hasOpenGroup_closers_iff
    {m : Nat} :
    HasOpenGroup (body ++ List.replicate m '}') ↔
      m < body.openGroups := by
  rw [hasOpenGroup_iff, openGroups_closers, Nat.sub_pos_iff_lt]

/-
  Counting finds the braces that close a group unless a stray
  brace has to be made up for by one of them.
-/
theorem kept_iff_hasOpenGroup
    {n kept : Nat}
    (hKept : kept = min n (body.openGroups - body.strays)) :
    (∀ m < n, m < kept ↔
      HasOpenGroup (body ++ List.replicate m '}')) ↔
      (0 < n → 0 < body.strays → body.HasOpenGroup →
        body.strays + n ≤ body.openGroups) := by
  simp only [hasOpenGroup_closers_iff]
  rw [hasOpenGroup_iff]
  constructor
  · intro hMatch hClosers hStray hOpen
    -- the last of the braces that close a group
    have hLast := hMatch (min n body.openGroups - 1) (by omega)
    omega
  · intro hEnough m hBound
    have hCases : body.strays = 0 ∨ body.openGroups = 0 ∨
        body.strays + n ≤ body.openGroups := by
      by_cases hStray : body.strays = 0
      · exact Or.inl hStray
      · by_cases hOpen : body.openGroups = 0
        · exact Or.inr (Or.inl hOpen)
        · exact Or.inr (Or.inr
            (hEnough (by omega) (by omega) (by omega)))
    omega

/-
  A text whose visible end finishes a sentence is left alone, and
  any other gets a full stop behind those of its last braces that
  are kept.  They are the ones that close a group, unless there is
  a stray brace before an open group and the groups that are open
  are too few for it and for the braces at the end together.
-/
theorem addPeriod_drops_unmatched_iff (t : Text) :
    (∃ (body : Text) (n : Nat),
      t = body ++ List.replicate n '}' ∧
        body.getLast? ≠ some '}' ∧
        (body.IsFinished → t.addPeriod = t) ∧
        (¬ body.IsFinished →
          ∃ kept ≤ n,
            kept = min n (body.openGroups - body.strays) ∧
            t.addPeriod =
              body ++ List.replicate kept '}' ++ ['.'] ∧
            ((∀ m < n, m < kept ↔
              HasOpenGroup (body ++ List.replicate m '}')) ↔
              (0 < n → 0 < body.strays → body.HasOpenGroup →
                body.strays + n ≤ body.openGroups)))) ∧
      t.addPeriod.addPeriod = t.addPeriod ∧
      (t.isBalanced = true → t.addPeriod.isBalanced = true) := by
  refine ⟨?_, addPeriod_addPeriod t, isBalanced_addPeriod⟩
  rcases exists_closers t with ⟨body, n, rfl, hBody⟩
  refine ⟨body, n, rfl, hBody, ?_, ?_⟩
  · intro hFinished
    exact addPeriod_of_isFinished hBody hFinished n
  · intro hFinished
    exact ⟨_, Nat.min_le_left _ _, rfl,
      addPeriod_of_not_isFinished hBody hFinished n,
      kept_iff_hasOpenGroup rfl⟩

/-
  The brace at the end closes the only group, and it is dropped
  for the stray one at the beginning.
-/
theorem addPeriod_strayBrace :
    HasOpenGroup "\x7d\x7ba".toList ∧
      addPeriod "\x7d\x7ba\x7d".toList = "\x7d\x7ba.".toList ∧
      addPeriod "\x7d\x7ba\x7d".toList ≠
        "\x7d\x7ba\x7d.".toList := by
  refine ⟨⟨['}'], ['a'], rfl, rfl⟩, ?_, ?_⟩
  · decide +kernel
  · decide +kernel

end Text

end Bibliography
