import Bibliography.Text.Case
import Bibliography.Proofs.Text.Balance
import Bibliography.Proofs.Unicode.Marks
import Mathlib.Data.List.Basic

/-
  Changes of case, which leave braced text alone and are done
  after one pass.

  Every mode maps some of the characters outside of braces and
  leaves the others as they are.  That relation is all that is
  needed to see that the protected characters stay, and that a
  mode which maps every character forgets what was mapped before.
  For title case the second pass has to come to every character in
  the state of the first one.

  Key definitions include:
    * `Text.shielded`
    * `Text.Recased`

  Key statements include:
    * `Text.Recased.shielded`
    * `Text.Recased.mapOutside`
    * `Text.titleFrom_titleFrom`
    * `Text.changeCase_shields`
-/

------------------------------------------------------------
-- Protected Characters
------------------------------------------------------------

namespace Bibliography

namespace Text

/-
  The braces of a text and the characters at positive depth, in
  order; `depth` groups are open before the text.
-/
def shieldedFrom
    (depth : Nat)
    (t : Text) : Text :=
  ((t.zip (t.scanl nest depth)).filter
    (fun x => isBrace x.1 || 0 < x.2)).map Prod.fst

/- The braces of a text and the characters between them. -/
def shielded (t : Text) : Text :=
  shieldedFrom 0 t

theorem shieldedFrom_cons
    (depth : Nat)
    (c : Char)
    (t : Text) :
    shieldedFrom depth (c :: t) =
      if depth = 0 ∧ isBrace c = false then shieldedFrom 0 t
      else c :: shieldedFrom (nest depth c) t := by
  unfold shieldedFrom
  rw [List.scanl_cons, List.zip_cons_cons]
  split
  · rename_i hOutside
    rcases hOutside with ⟨rfl, hPlain⟩
    rw [nest_of_not_isBrace hPlain,
      List.filter_cons_of_neg (by simp [hPlain])]
  · rename_i hInside
    have hKept : isBrace c = true ∨ 0 < depth := by
      by_cases hDepth : depth = 0
      · left
        exact Bool.of_not_eq_false fun hPlain =>
          hInside ⟨hDepth, hPlain⟩
      · exact Or.inr (Nat.pos_of_ne_zero hDepth)
    rw [List.filter_cons_of_pos (by simpa using hKept),
      List.map_cons]

theorem shieldedFrom_append
    {ds : Text}
    (h : ∀ d ∈ ds, isBrace d = false)
    (t : Text) : shieldedFrom 0 (ds ++ t) = shieldedFrom 0 t := by
  induction ds with
  | nil => rfl
  | cons d rest ih =>
      rcases List.forall_mem_cons.1 h with ⟨hFirst, hRest⟩
      rw [List.cons_append, shieldedFrom_cons, if_pos ⟨rfl, hFirst⟩,
        ih hRest]

------------------------------------------------------------
-- Recased Texts
------------------------------------------------------------

/-
  The second text has the characters of the first one; outside of
  braces some of them may be mapped.
-/
inductive Recased (f : Char → Text) : Nat → Text → Text → Prop where
  | nil (depth : Nat) : Recased f depth [] []
  | inside {depth : Nat} {c : Char} {t u : Text}
      (hInside : ¬ (depth = 0 ∧ isBrace c = false))
      (hRest : Recased f (nest depth c) t u) :
      Recased f depth (c :: t) (c :: u)
  | stays {c : Char} {t u : Text}
      (hPlain : isBrace c = false)
      (hRest : Recased f 0 t u) :
      Recased f 0 (c :: t) (c :: u)
  | mapped {c : Char} {t u : Text}
      (hPlain : isBrace c = false)
      (hRest : Recased f 0 t u) :
      Recased f 0 (c :: t) (f c ++ u)

variable {f : Char → Text}

theorem recased_mapOutside
    (depth : Nat)
    (t : Text) : Recased f depth t (mapOutside f depth t) := by
  induction t generalizing depth with
  | nil => exact .nil depth
  | cons c rest ih =>
      rw [mapOutside]
      split
      · rename_i hOutside
        rcases hOutside with ⟨rfl, hPlain⟩
        exact .mapped hPlain (ih 0)
      · rename_i hInside
        exact .inside hInside (ih _)

theorem recased_titleFrom
    (depth : Nat)
    (keep afterColon : Bool)
    (t : Text) :
    Recased Character.lower depth t
      (titleFrom depth keep afterColon t) := by
  induction t generalizing depth keep afterColon with
  | nil => exact .nil depth
  | cons c rest ih =>
      rw [titleFrom]
      split
      · rename_i hOutside
        rcases hOutside with ⟨rfl, hPlain⟩
        split
        · exact .stays hPlain (ih _ _ _)
        · split
          · exact .stays hPlain (ih _ _ _)
          · exact .mapped hPlain (ih _ _ _)
      · rename_i hInside
        exact .inside hInside (ih _ _ _)

/- Characters outside of braces that the map leaves alone. -/
def SettledBy
    (f : Char → Text)
    (ds : Text) : Prop :=
  ∀ d ∈ ds, isBrace d = false ∧ f d = [d]

/- What a case map leads to is settled. -/
theorem settledBy_image
    (h : Character.IsCaseMap f)
    {c : Char}
    (hPlain : isBrace c = false) : SettledBy f (f c) := by
  intro d hMem
  exact ⟨h.not_isBrace hPlain hMem, h.settles c d hMem⟩

/- Protected characters stay. -/
theorem Recased.shielded
    (h : Character.IsCaseMap f)
    {depth : Nat}
    {t u : Text}
    (hRecased : Recased f depth t u) :
    shieldedFrom depth u = shieldedFrom depth t := by
  induction hRecased with
  | nil depth => rfl
  | inside hInside _ ih =>
      rw [shieldedFrom_cons, shieldedFrom_cons, if_neg hInside,
        if_neg hInside, ih]
  | stays hPlain _ ih =>
      rw [shieldedFrom_cons, shieldedFrom_cons, if_pos ⟨rfl, hPlain⟩,
        if_pos ⟨rfl, hPlain⟩, ih]
  | mapped hPlain _ ih =>
      have hPlainAll := settledBy_image h hPlain
      rw [shieldedFrom_append (fun d hMem => (hPlainAll d hMem).1),
        shieldedFrom_cons, if_pos ⟨rfl, hPlain⟩, ih]

theorem mapOutside_append
    {ds : Text}
    (h : SettledBy f ds)
    (t : Text) :
    mapOutside f 0 (ds ++ t) = ds ++ mapOutside f 0 t := by
  induction ds with
  | nil => rfl
  | cons d rest ih =>
      rcases List.forall_mem_cons.1 h with ⟨⟨hPlain, hStays⟩, hRest⟩
      rw [List.cons_append, mapOutside, if_pos ⟨rfl, hPlain⟩, hStays,
        ih hRest]
      rfl

/- Mapping all characters forgets which were mapped before. -/
theorem Recased.mapOutside
    (h : Character.IsCaseMap f)
    {depth : Nat}
    {t u : Text}
    (hRecased : Recased f depth t u) :
    mapOutside f depth u = mapOutside f depth t := by
  induction hRecased with
  | nil depth => rfl
  | inside hInside _ ih =>
      rw [Text.mapOutside, Text.mapOutside, if_neg hInside,
        if_neg hInside, ih]
  | stays hPlain _ ih =>
      rw [Text.mapOutside, Text.mapOutside, if_pos ⟨rfl, hPlain⟩,
        if_pos ⟨rfl, hPlain⟩, ih]
  | mapped hPlain _ ih =>
      rw [mapOutside_append (settledBy_image h hPlain),
        Text.mapOutside, if_pos ⟨rfl, hPlain⟩, ih]

------------------------------------------------------------
-- Title Case
------------------------------------------------------------

/- Whatever title case decides, lowered characters stay. -/
theorem titleFrom_append
    {ds t : Text}
    (h : SettledBy Character.lower ds)
    (hRest : ∀ keep afterColon, titleFrom 0 keep afterColon t = t)
    (keep afterColon : Bool) :
    titleFrom 0 keep afterColon (ds ++ t) = ds ++ t := by
  induction ds generalizing keep afterColon with
  | nil => exact hRest keep afterColon
  | cons d more ih =>
      rcases List.forall_mem_cons.1 h with ⟨⟨hPlain, hStays⟩, hMore⟩
      rw [List.cons_append, titleFrom, if_pos ⟨rfl, hPlain⟩, hStays]
      simp only [ih hMore, List.singleton_append, ite_self]

theorem titleFrom_mapOutside
    (depth : Nat)
    (keep afterColon : Bool)
    (t : Text) :
    titleFrom depth keep afterColon
        (mapOutside Character.lower depth t) =
      mapOutside Character.lower depth t := by
  induction t generalizing depth keep afterColon with
  | nil => rfl
  | cons c rest ih =>
      rw [mapOutside]
      split
      · rename_i hOutside
        rw [hOutside.1]
        exact titleFrom_append
          (settledBy_image Character.isCaseMap_lower hOutside.2)
          (ih 0) keep afterColon
      · rename_i hInside
        rw [titleFrom, if_neg hInside, ih]

section Steps

variable {c : Char}

/- White space passes on what comes after it. -/
theorem titleFrom_space
    (hPlain : isBrace c = false)
    (hSpace : Character.isSpace c = true)
    (keep afterColon : Bool)
    (t : Text) :
    titleFrom 0 keep afterColon (c :: t) =
      c :: titleFrom 0 (keep || afterColon)
        (c == ':' || afterColon) t := by
  rw [titleFrom, if_pos ⟨rfl, hPlain⟩, hSpace, if_pos rfl,
    Bool.and_true]

/- The first character of a title is kept. -/
theorem titleFrom_kept
    (hPlain : isBrace c = false)
    (hSpace : Character.isSpace c = false)
    (afterColon : Bool)
    (t : Text) :
    titleFrom 0 true afterColon (c :: t) =
      c :: titleFrom 0 false (c == ':') t := by
  rw [titleFrom, if_pos ⟨rfl, hPlain⟩, hSpace, Bool.and_false,
    Bool.or_false]
  rfl

/- The others are lowered. -/
theorem titleFrom_lowered
    (hPlain : isBrace c = false)
    (hSpace : Character.isSpace c = false)
    (afterColon : Bool)
    (t : Text) :
    titleFrom 0 false afterColon (c :: t) =
      Character.lower c ++ titleFrom 0 false (c == ':') t := by
  rw [titleFrom, if_pos ⟨rfl, hPlain⟩, hSpace, Bool.and_false,
    Bool.or_false]
  rfl

end Steps

/- Characters that are no marks are passed over together. -/
theorem titleFrom_letters
    {ds : Text}
    (hLetters : ∀ d ∈ ds,
      d.toNat ∉ Character.marks ∧ Character.lower d = [d])
    (hSome : ds ≠ [])
    (afterColon : Bool)
    (t : Text) :
    titleFrom 0 false afterColon (ds ++ t) =
      ds ++ titleFrom 0 false false t := by
  induction ds generalizing afterColon with
  | nil => exact absurd rfl hSome
  | cons d more ih =>
      rcases List.forall_mem_cons.1 hLetters with
        ⟨⟨hMark, hStays⟩, hMore⟩
      rcases Character.of_not_mem_marks hMark with
        ⟨hPlain, hSpace, hColon⟩
      rw [List.cons_append, titleFrom_lowered hPlain hSpace, hStays,
        beq_eq_false_iff_ne.2 hColon]
      cases more with
      | nil => rfl
      | cons next later =>
          rw [ih hMore (List.cons_ne_nil _ _)]
          rfl

/-
  What has taken the place of a character is passed over to the
  state behind that character.
-/
theorem titleFrom_lower
    {c : Char}
    (hPlain : isBrace c = false)
    (hSpace : Character.isSpace c = false)
    (afterColon : Bool)
    (t : Text) :
    titleFrom 0 false afterColon (Character.lower c ++ t) =
      Character.lower c ++ titleFrom 0 false (c == ':') t := by
  have hLower := Character.isCaseMap_lower
  by_cases hMark : c.toNat ∈ Character.marks
  · have hStays := hLower.marks_stay c hMark
    rw [hStays, List.singleton_append,
      titleFrom_lowered hPlain hSpace, hStays]
  · have hLetters : ∀ d ∈ Character.lower c,
        d.toNat ∉ Character.marks ∧ Character.lower d = [d] := by
      intro d hMem
      refine ⟨fun hOld => ?_, hLower.settles c d hMem⟩
      exact hMark (hLower.marks_old c d hMem hOld ▸ hOld)
    rw [titleFrom_letters hLetters (hLower.nonempty c),
      beq_eq_false_iff_ne.2 (Character.of_not_mem_marks hMark).2.2]

/-
  The second pass of title case comes to each character in the
  state in which the first pass came to it.
-/
theorem titleFrom_titleFrom
    (depth : Nat)
    (keep afterColon : Bool)
    (t : Text) :
    titleFrom depth keep afterColon
        (titleFrom depth keep afterColon t) =
      titleFrom depth keep afterColon t := by
  induction t generalizing depth keep afterColon with
  | nil => rfl
  | cons c rest ih =>
      by_cases hOutside : depth = 0 ∧ isBrace c = false
      · rcases hOutside with ⟨rfl, hPlain⟩
        cases hSpace : Character.isSpace c with
        | true =>
            rw [titleFrom_space hPlain hSpace,
              titleFrom_space hPlain hSpace, ih]
        | false =>
            cases keep with
            | true =>
                rw [titleFrom_kept hPlain hSpace,
                  titleFrom_kept hPlain hSpace, ih]
            | false =>
                rw [titleFrom_lowered hPlain hSpace,
                  titleFrom_lower hPlain hSpace, ih]
      · rw [titleFrom, if_neg hOutside, titleFrom, if_neg hOutside,
          ih]

------------------------------------------------------------
-- Changes of Case
------------------------------------------------------------

/-
  No mode touches braced text, each mode is done after one pass,
  and lower case takes in title case on either side.
-/
theorem changeCase_shields (t : Text) :
    (∀ mode, (t.changeCase mode).shielded = t.shielded) ∧
      (∀ mode, (t.changeCase mode).changeCase mode =
        t.changeCase mode) ∧
      (t.changeCase .title).changeCase .lower =
        t.changeCase .lower ∧
      (t.changeCase .lower).changeCase .title =
        t.changeCase .lower := by
  have hLower := Character.isCaseMap_lower
  have hUpper := Character.isCaseMap_upper
  refine ⟨?_, ?_, ?_, ?_⟩
  · intro mode
    cases mode with
    | lower => exact (recased_mapOutside 0 t).shielded hLower
    | upper => exact (recased_mapOutside 0 t).shielded hUpper
    | title => exact (recased_titleFrom 0 true false t).shielded hLower
  · intro mode
    cases mode with
    | lower => exact (recased_mapOutside 0 t).mapOutside hLower
    | upper => exact (recased_mapOutside 0 t).mapOutside hUpper
    | title => exact titleFrom_titleFrom 0 true false t
  · exact (recased_titleFrom 0 true false t).mapOutside hLower
  · exact titleFrom_mapOutside 0 true false t

end Text

end Bibliography
