import Bibliography.Text.Excerpt
import Bibliography.Proofs.Text.Groups

/-
  Truncated texts.

  A truncation follows the text up to its last visible character
  and then closes what is open, so it is balanced, and reading it
  again comes to the same place at the same depth.  Everything is
  proved along the recursion of the truncation, from any depth.

  Key definitions include:
    * `Text.visible`

  Key statements include:
    * `Text.balancedFrom_truncateFrom`
    * `Text.visible_truncateFrom`
    * `Text.truncateFrom_truncateFrom`
    * `Text.truncate_balances`
-/

------------------------------------------------------------
-- Visible Characters
------------------------------------------------------------

namespace Bibliography

namespace Text

/- The characters that are no braces, in order. -/
def visible (t : Text) : Text :=
  t.filter (fun c => !isBrace c)

theorem length_visible (t : Text) :
    t.visible.length = t.visibleLength :=
  List.countP_eq_length_filter.symm

theorem visible_cons_of_brace
    {c : Char}
    (h : isBrace c = true)
    (t : Text) : visible (c :: t) = visible t :=
  List.filter_cons_of_neg (by simp [h])

theorem visible_cons_of_not_brace
    {c : Char}
    (h : isBrace c = false)
    (t : Text) : visible (c :: t) = c :: visible t :=
  List.filter_cons_of_pos (by simp [h])

------------------------------------------------------------
-- Closing Braces
------------------------------------------------------------

theorem visible_closers (depth : Nat) :
    visible (List.replicate depth '}') = [] :=
  List.filter_eq_nil_iff.2 (by simp [isBrace])

/- As many braces as are open close everything. -/
theorem balancedFrom_closers (depth : Nat) :
    balancedFrom depth (List.replicate depth '}') = true := by
  induction depth with
  | zero => rfl
  | succ depth ih =>
      rw [List.replicate_succ, balancedFrom_cons]
      exact ⟨fun h => Nat.succ_ne_zero _ h.2, ih⟩

------------------------------------------------------------
-- Steps of a Truncation
------------------------------------------------------------

/- Without room for a character only braces are closed. -/
@[simp]
theorem truncateFrom_zero
    (depth : Nat)
    (t : Text) :
    truncateFrom depth 0 t = List.replicate depth '}' := by
  cases t <;> rfl

variable {left : Nat}

theorem truncateFrom_opening
    (h : left ≠ 0)
    (depth : Nat)
    (t : Text) :
    truncateFrom depth left ('{' :: t) =
      '{' :: truncateFrom (depth + 1) left t := by
  rw [truncateFrom, if_neg h, if_pos rfl]

theorem truncateFrom_closing
    (h : left ≠ 0)
    (depth : Nat)
    (t : Text) :
    truncateFrom (depth + 1) left ('}' :: t) =
      '}' :: truncateFrom depth left t := by
  rw [truncateFrom, if_neg h, if_neg (by decide), if_pos rfl,
    if_neg (Nat.succ_ne_zero depth), Nat.add_sub_cancel]

/- A brace that closes nothing is dropped. -/
theorem truncateFrom_stray
    (left : Nat)
    (t : Text) :
    truncateFrom 0 left ('}' :: t) = truncateFrom 0 left t := by
  by_cases h : left = 0
  · rw [h, truncateFrom_zero, truncateFrom_zero]
  · rw [truncateFrom, if_neg h, if_neg (by decide), if_pos rfl,
      if_pos rfl]

theorem truncateFrom_plain
    {c : Char}
    (h : isBrace c = false)
    (depth left : Nat)
    (t : Text) :
    truncateFrom depth (left + 1) (c :: t) =
      c :: truncateFrom depth left t := by
  have hOpen : c ≠ '{' := by
    rintro rfl
    cases h
  have hClose : c ≠ '}' := by
    rintro rfl
    cases h
  rw [truncateFrom, if_neg (Nat.succ_ne_zero left), if_neg hOpen,
    if_neg hClose, Nat.add_sub_cancel]

/-
  What holds where nothing more is taken, and comes to a text from
  what is behind its first character, holds of every truncation.
-/
theorem truncateFrom_induction
    {P : Nat → Nat → Text → Prop}
    (nil : ∀ depth left, P depth left [])
    (full : ∀ depth t, P depth 0 t)
    (opening : ∀ depth left t, left ≠ 0 →
      P (depth + 1) left t → P depth left ('{' :: t))
    (closing : ∀ depth left t, left ≠ 0 →
      P depth left t → P (depth + 1) left ('}' :: t))
    (stray : ∀ left t, left ≠ 0 →
      P 0 left t → P 0 left ('}' :: t))
    (plain : ∀ depth left c t, isBrace c = false →
      P depth left t → P depth (left + 1) (c :: t))
    (depth left : Nat)
    (t : Text) : P depth left t := by
  induction t generalizing depth left with
  | nil => exact nil depth left
  | cons c rest ih =>
      by_cases hOpen : c = '{'
      · subst hOpen
        by_cases hLeft : left = 0
        · subst hLeft
          exact full depth _
        · exact opening depth left rest hLeft (ih _ _)
      · by_cases hClose : c = '}'
        · subst hClose
          by_cases hLeft : left = 0
          · subst hLeft
            exact full depth _
          · cases depth with
            | zero => exact stray left rest hLeft (ih _ _)
            | succ depth => exact closing depth left rest hLeft (ih _ _)
        · cases left with
          | zero => exact full depth _
          | succ left =>
              exact plain depth left c rest
                (not_isBrace_of_ne hOpen hClose) (ih _ _)

------------------------------------------------------------
-- Truncations from a Depth
------------------------------------------------------------

theorem balancedFrom_truncateFrom
    (depth left : Nat)
    (t : Text) :
    balancedFrom depth (truncateFrom depth left t) = true := by
  induction depth, left, t using truncateFrom_induction with
  | nil depth left => exact balancedFrom_closers depth
  | full depth t =>
      rw [truncateFrom_zero]
      exact balancedFrom_closers depth
  | opening depth left t hLeft ih =>
      rw [truncateFrom_opening hLeft, balancedFrom_cons]
      exact ⟨fun h => absurd h.1 (by decide), ih⟩
  | closing depth left t hLeft ih =>
      rw [truncateFrom_closing hLeft, balancedFrom_cons]
      exact ⟨fun h => Nat.succ_ne_zero _ h.2, ih⟩
  | stray left t _ ih =>
      rw [truncateFrom_stray]
      exact ih
  | plain depth left c t hPlain ih =>
      rw [truncateFrom_plain hPlain, balancedFrom_cons,
        nest_of_not_isBrace hPlain]
      refine ⟨?_, ih⟩
      rintro ⟨rfl, _⟩
      cases hPlain

/- The visible characters are taken from the front. -/
theorem visible_truncateFrom
    (depth left : Nat)
    (t : Text) :
    (truncateFrom depth left t).visible = t.visible.take left := by
  induction depth, left, t using truncateFrom_induction with
  | nil depth left =>
      rw [truncateFrom, visible_closers]
      exact List.take_nil.symm
  | full depth t =>
      rw [truncateFrom_zero, visible_closers, List.take_zero]
  | opening depth left t hLeft ih =>
      rw [truncateFrom_opening hLeft, visible_cons_of_brace rfl, ih,
        visible_cons_of_brace rfl]
  | closing depth left t hLeft ih =>
      rw [truncateFrom_closing hLeft, visible_cons_of_brace rfl, ih,
        visible_cons_of_brace rfl]
  | stray left t _ ih =>
      rw [truncateFrom_stray, ih, visible_cons_of_brace rfl]
  | plain depth left c t hPlain ih =>
      rw [truncateFrom_plain hPlain, visible_cons_of_not_brace hPlain,
        ih, visible_cons_of_not_brace hPlain, List.take_succ_cons]

/- What closes the open groups is not cut. -/
theorem truncateFrom_closers (depth left : Nat) :
    truncateFrom depth left (List.replicate depth '}') =
      List.replicate depth '}' := by
  by_cases hLeft : left = 0
  · rw [hLeft, truncateFrom_zero]
  · induction depth with
    | zero => rfl
    | succ depth ih =>
        rw [List.replicate_succ, truncateFrom_closing hLeft, ih]

/- The second truncation stops where the shorter one would. -/
theorem truncateFrom_truncateFrom
    (depth first second : Nat)
    (t : Text) :
    truncateFrom depth second (truncateFrom depth first t) =
      truncateFrom depth (min first second) t := by
  by_cases hSecond : second = 0
  · rw [hSecond, Nat.min_zero, truncateFrom_zero, truncateFrom_zero]
  · induction depth, first, t using truncateFrom_induction
      generalizing second with
    | nil depth first => exact truncateFrom_closers depth second
    | full depth t =>
        rw [truncateFrom_zero, truncateFrom_closers, Nat.zero_min,
          truncateFrom_zero]
    | opening depth first t hFirst ih =>
        have hBoth : min first second ≠ 0 := by omega
        rw [truncateFrom_opening hFirst, truncateFrom_opening hSecond,
          ih second hSecond, truncateFrom_opening hBoth]
    | closing depth first t hFirst ih =>
        have hBoth : min first second ≠ 0 := by omega
        rw [truncateFrom_closing hFirst, truncateFrom_closing hSecond,
          ih second hSecond, truncateFrom_closing hBoth]
    | stray first t _ ih =>
        rw [truncateFrom_stray, ih second hSecond, truncateFrom_stray]
    | plain depth first c t hPlain ih =>
        cases second with
        | zero => exact absurd rfl hSecond
        | succ second =>
            rw [truncateFrom_plain hPlain, truncateFrom_plain hPlain,
              Nat.succ_min_succ, truncateFrom_plain hPlain]
            by_cases hMore : second = 0
            · rw [hMore, Nat.min_zero, truncateFrom_zero,
                truncateFrom_zero]
            · rw [ih second hMore]

/- A balanced text that has room is taken as it is. -/
theorem truncateFrom_of_balancedFrom
    {depth left : Nat}
    {t : Text}
    (hBalanced : balancedFrom depth t = true)
    (hRoom : t.visible.length < left) :
    truncateFrom depth left t = t := by
  induction depth, left, t using truncateFrom_induction with
  | nil depth left =>
      have hZero : depth = 0 := by simpa [balancedFrom] using hBalanced
      rw [truncateFrom, hZero]
      rfl
  | full depth t => cases hRoom
  | opening depth left t hLeft ih =>
      rw [truncateFrom_opening hLeft]
      rw [visible_cons_of_brace rfl] at hRoom
      rw [ih (balancedFrom_cons.1 hBalanced).2 hRoom]
  | closing depth left t hLeft ih =>
      rw [truncateFrom_closing hLeft]
      rw [visible_cons_of_brace rfl] at hRoom
      rw [ih (balancedFrom_cons.1 hBalanced).2 hRoom]
  | stray left t _ ih =>
      exact absurd ⟨rfl, rfl⟩ (balancedFrom_cons.1 hBalanced).1
  | plain depth left c t hPlain ih =>
      rw [visible_cons_of_not_brace hPlain] at hRoom
      have hRest := (balancedFrom_cons.1 hBalanced).2
      rw [nest_of_not_isBrace hPlain] at hRest
      rw [truncateFrom_plain hPlain,
        ih hRest (Nat.lt_of_succ_lt_succ hRoom)]

------------------------------------------------------------
-- Truncations
------------------------------------------------------------

theorem toInt_min (m n : Int64) :
    (min m n).toInt = min m.toInt n.toInt := by
  have hMin : min m n = if m ≤ n then m else n := rfl
  rw [hMin]
  split
  · rename_i hLe
    exact (Int.min_eq_left (Int64.le_iff_toInt_le.1 hLe)).symm
  · rename_i hNot
    rw [Int64.le_iff_toInt_le, Int.not_le] at hNot
    exact (Int.min_eq_right (Int.le_of_lt hNot)).symm

/-
  A truncation is balanced and shows the first characters of the
  text, as many as it may; truncating again counts for the shorter
  one only, and nothing happens to a balanced text that has room.
-/
theorem truncate_balances
    (t : Text)
    (len : Int64) :
    (t.truncate len).isBalanced = true ∧
      (t.truncate len).visible =
        t.visible.take
          (min (max len.toInt 0).toNat t.visibleLength) ∧
      (t.truncate len).visibleLength =
        min (max len.toInt 0).toNat t.visibleLength ∧
      (∀ m n : Int64,
        (t.truncate m).truncate n = t.truncate (min m n)) ∧
      (t.isBalanced = true → (t.visibleLength : Int) < len.toInt →
        t.truncate len = t) := by
  have hCount : (max len.toInt 0).toNat = len.toInt.toNat := by omega
  have hTaken : (t.truncate len).visible =
      t.visible.take (min len.toInt.toNat t.visibleLength) := by
    rw [truncate, visible_truncateFrom, ← length_visible,
      ← List.take_eq_take_min]
  refine ⟨balancedFrom_truncateFrom 0 _ t, ?_, ?_, ?_, ?_⟩
  · rw [hCount, hTaken]
  · rw [hCount, ← length_visible, hTaken, List.length_take,
      length_visible, Nat.min_assoc, Nat.min_self]
  · intro m n
    have hBoth : (min m n).toInt.toNat =
        min m.toInt.toNat n.toInt.toNat := by
      rw [toInt_min]
      omega
    rw [truncate, truncate, truncate, hBoth,
      truncateFrom_truncateFrom]
  · intro hBalanced hRoom
    refine truncateFrom_of_balancedFrom hBalanced ?_
    rw [length_visible]
    omega

/- A stray brace is dropped, and the last brace is not needed. -/
theorem truncate_balances_sample :
    truncate "\x7da\x7bbc\x7bd".toList 2 = "a\x7bb\x7d".toList ∧
      isBalanced "a\x7bb\x7d".toList = true ∧
      ((visibleLength "a\x7bb\x7d".toList : Nat) : Int) <
        (3 : Int64).toInt ∧
      truncate "a\x7bb\x7d".toList 3 = "a\x7bb\x7d".toList := by
  have hBalanced : isBalanced "a\x7bb\x7d".toList = true := by decide
  have hRoom : ((visibleLength "a\x7bb\x7d".toList : Nat) : Int) <
      (3 : Int64).toInt := by decide
  rcases truncate_balances "a\x7bb\x7d".toList 3 with
    ⟨_, _, _, _, hWhole⟩
  exact ⟨by decide, hBalanced, hRoom, hWhole hBalanced hRoom⟩

end Text

end Bibliography
