import Bibliography.Proofs.Text.Conjunction
import Mathlib.Data.List.Induction

/-
  The pieces of a text between its commas.

  A text is divided at every comma at depth zero and nowhere else.
  These are two facts about a list of pieces: with a comma between
  each two they make up the text, and no piece has such a comma.
  They leave one list of pieces for each text, and it is the one
  that splitting gives.  White space around a text changes its
  first and last pieces by white space only.

  Key definitions include:
    * `Text.DividedAtCommas`

  Key statements include:
    * `Text.dividedAtCommas_splitOutside`
    * `Text.DividedAtCommas.splitOutside_eq`
    * `Text.map_trim_splitOutside_trim`
-/

------------------------------------------------------------
-- Cutting at a Comma
------------------------------------------------------------

namespace Bibliography

namespace Text

/-
  The pieces of a text between its commas at depth zero.  A piece
  that a comma follows ends at depth zero, or the comma would not
  count.
-/
inductive DividedAtCommas : Text → List Text → Prop
  | last
      {t : Text}
      (hPlain : t.commas = 0) :
      DividedAtCommas t [t]
  | comma
      {piece after : Text}
      {pieces : List Text}
      (hPlain : piece.commas = 0)
      (hDepth : piece.foldl nest 0 = 0)
      (hRest : DividedAtCommas after pieces) :
      DividedAtCommas (piece ++ ',' :: after) (piece :: pieces)

/- What is cut off stands before a comma at depth zero. -/
theorem eq_of_cut?_comma
    {depth : Nat}
    {t piece after : Text}
    (h : cut? [','] depth t = some (piece, after)) :
    t = piece ++ ',' :: after ∧ piece.foldl nest depth = 0 := by
  induction t generalizing depth piece with
  | nil => simp [cut?] at h
  | cons c rest ih =>
      rw [cut?] at h
      split at h
      · rename_i hCut
        have hComma := (beginsWith_comma c rest).1 hCut.2.2
        cases h
        exact ⟨by rw [hComma]; rfl, hCut.1⟩
      · cases hCut : cut? [','] (nest depth c) rest with
        | none => simp [hCut] at h
        | some found =>
            rcases found with ⟨piece', after'⟩
            simp only [hCut, Option.some.injEq,
              Prod.mk.injEq] at h
            rcases h with ⟨rfl, rfl⟩
            rcases ih hCut with ⟨rfl, hDepth⟩
            exact ⟨rfl, hDepth⟩

/- The first comma at depth zero is the one that cuts. -/
theorem cut?_comma
    {depth : Nat}
    {piece : Text}
    (hPlain : commasFrom depth piece = 0)
    (hDepth : piece.foldl nest depth = 0)
    (after : Text) :
    cut? [','] depth (piece ++ ',' :: after) =
      some (piece, after) := by
  induction piece generalizing depth with
  | nil =>
      have hZero : depth = 0 := hDepth
      have hBegins := (beginsWith_comma ',' after).2 rfl
      rw [List.nil_append, cut?, if_pos ⟨hZero, rfl, hBegins⟩]
      rfl
  | cons c rest ih =>
      rw [commasFrom, Nat.add_eq_zero_iff] at hPlain
      have hNot : ¬ (depth = 0 ∧ isBrace c = false ∧
          beginsWith [','] (c :: (rest ++ ',' :: after)) =
            true) := by
        rintro ⟨hZero, _, hBegins⟩
        have hComma := (beginsWith_comma _ _).1 hBegins
        have hOne := hPlain.1
        rw [if_pos ⟨hZero, hComma⟩] at hOne
        cases hOne
      rw [List.cons_append, cut?, if_neg hNot,
        ih hPlain.2 hDepth]

/- Without a comma at depth zero there is no cut. -/
theorem cut?_comma_eq_none
    {depth : Nat}
    {t : Text}
    (h : commasFrom depth t = 0) : cut? [','] depth t = none := by
  cases hCut : cut? [','] depth t with
  | none => rfl
  | some found =>
      rcases found with ⟨piece, after⟩
      rw [commasFrom_of_cut?_some hCut] at h
      cases h

------------------------------------------------------------
-- One Division for Each Text
------------------------------------------------------------

theorem dividedAtCommas_splitOutside (t : Text) :
    t.DividedAtCommas (splitOutside [','] t) := by
  fun_induction splitOutside [','] t with
  | case1 t _ hCut =>
      exact .last (commasFrom_of_cut?_none hCut)
  | case2 t _ piece after hCut ih =>
      rcases eq_of_cut?_comma hCut with ⟨rfl, hDepth⟩
      exact .comma (commasFrom_piece_of_cut? hCut) hDepth ih
  | case3 t hEmpty => exact absurd (List.cons_ne_nil _ _) hEmpty

theorem DividedAtCommas.splitOutside_eq
    {t : Text}
    {pieces : List Text}
    (h : t.DividedAtCommas pieces) :
    splitOutside [','] t = pieces := by
  induction h with
  | last hPlain =>
      exact splitOutside_of_cut?_none (cut?_comma_eq_none hPlain)
  | comma hPlain hDepth hRest ih =>
      rw [splitOutside_of_cut?_some (List.cons_ne_nil _ _)
        (cut?_comma hPlain hDepth _), ih]

/- A division has one piece more than the text has commas. -/
theorem DividedAtCommas.length_eq
    {t : Text}
    {pieces : List Text}
    (h : t.DividedAtCommas pieces) :
    pieces.length = t.commas + 1 := by
  rw [← h.splitOutside_eq, length_splitOutside_comma]

------------------------------------------------------------
-- White Space around a Text
------------------------------------------------------------

/- White space is no comma. -/
theorem not_comma_of_isSpace
    {c : Char}
    (h : Character.isSpace c = true) : c ≠ ',' := by
  rintro rfl
  exact absurd h (by decide)

/- White space in front goes to the first piece. -/
theorem splitOutside_comma_cons
    {c : Char}
    (h : Character.isSpace c = true)
    (t : Text) :
    splitOutside [','] (c :: t) =
      (splitOutside [','] t).modifyHead (c :: ·) := by
  have hCut : cut? [','] 0 ([c] ++ t) =
      (cut? [','] 0 t).map (fun found => ([c] ++ found.1, found.2)) := by
    have hNot : ¬ (0 = 0 ∧ isBrace c = false ∧
        beginsWith [','] (c :: t) = true) := fun hAll =>
      not_comma_of_isSpace h ((beginsWith_comma _ _).1 hAll.2.2)
    rw [List.singleton_append, cut?, if_neg hNot,
      nest_of_not_isBrace (not_isBrace_of_isSpace c h)]
    cases cut? [','] 0 t with
    | none => rfl
    | some found => rfl
  exact splitOutside_append (List.cons_ne_nil _ _) hCut

/- White space at the end comes behind every cut. -/
theorem cut?_comma_concat
    {c : Char}
    (h : Character.isSpace c = true)
    (depth : Nat)
    (t : Text) :
    cut? [','] depth (t ++ [c]) =
      (cut? [','] depth t).map
        (fun found => (found.1, found.2 ++ [c])) := by
  induction t generalizing depth with
  | nil =>
      have hPlain : commasFrom depth [c] = 0 := by
        rw [commasFrom,
          if_neg (fun hBoth => not_comma_of_isSpace h hBoth.2)]
        rfl
      rw [List.nil_append, cut?_comma_eq_none hPlain]
      rfl
  | cons d rest ih =>
      rw [List.cons_append, cut?, cut?]
      simp only [beginsWith_comma]
      by_cases hComma : depth = 0 ∧ isBrace d = false ∧ d = ','
      · rw [if_pos hComma, if_pos hComma]
        rfl
      · rw [if_neg hComma, if_neg hComma, ih]
        cases cut? [','] (nest depth d) rest with
        | none => rfl
        | some found => rfl

/- Trimmed pieces do not show white space in front of the text. -/
theorem map_trim_splitOutside_cons
    {c : Char}
    (h : Character.isSpace c = true)
    (t : Text) :
    (splitOutside [','] (c :: t)).map trim =
      (splitOutside [','] t).map trim := by
  rw [splitOutside_comma_cons h]
  cases splitOutside [','] t with
  | nil => rfl
  | cons piece rest =>
      rw [List.modifyHead_cons, List.map_cons, List.map_cons,
        trim_cons_of_isSpace h]

/- Nor do they show white space behind it. -/
theorem map_trim_splitOutside_concat
    {c : Char}
    (h : Character.isSpace c = true)
    (t : Text) :
    (splitOutside [','] (t ++ [c])).map trim =
      (splitOutside [','] t).map trim := by
  fun_induction splitOutside [','] t with
  | case1 t _ hCut =>
      have hWhole := cut?_comma_concat h 0 t
      rw [hCut] at hWhole
      rw [splitOutside_of_cut?_none hWhole, List.map_singleton,
        List.map_singleton, trim_concat_of_isSpace h]
  | case2 t hNonempty piece after hCut ih =>
      have hWhole := cut?_comma_concat h 0 t
      rw [hCut] at hWhole
      rw [splitOutside_of_cut?_some hNonempty hWhole,
        List.map_cons, List.map_cons, ih]
  | case3 t hEmpty => exact absurd (List.cons_ne_nil _ _) hEmpty

theorem map_trim_splitOutside_dropWhile (t : Text) :
    (splitOutside [','] (t.dropWhile Character.isSpace)).map trim =
      (splitOutside [','] t).map trim := by
  induction t with
  | nil => rfl
  | cons c rest ih =>
      by_cases h : Character.isSpace c = true
      · rw [List.dropWhile_cons_of_pos h, ih,
          map_trim_splitOutside_cons h]
      · rw [List.dropWhile_cons_of_neg h]

theorem map_trim_splitOutside_trimEnd (t : Text) :
    (splitOutside [','] t.trimEnd).map trim =
      (splitOutside [','] t).map trim := by
  induction t using List.reverseRecOn with
  | nil => rfl
  | append_singleton rest c ih =>
      by_cases h : Character.isSpace c = true
      · rw [trimEnd_concat, if_pos h, ih,
          map_trim_splitOutside_concat h]
      · rw [trimEnd_concat, if_neg h]

/- Trimming a text before it is divided changes no trimmed piece. -/
theorem map_trim_splitOutside_trim (t : Text) :
    (splitOutside [','] t.trim).map trim =
      (splitOutside [','] t).map trim := by
  rw [trim, map_trim_splitOutside_trimEnd,
    map_trim_splitOutside_dropWhile]

end Text

end Bibliography
