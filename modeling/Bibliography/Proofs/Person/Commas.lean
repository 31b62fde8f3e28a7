import Bibliography.Person.Basic
import Bibliography.Proofs.Text.Balance

/-
  The commas of a name decide its form.

  A comma counts at brace depth zero.  A name has one piece more
  than it has such commas, and with two of them at most it can
  be read.

  Key definitions include:
    * `Text.commas`
    * `Person.read`

  Key statements include:
    * `Text.length_splitOutside_comma`
    * `Person.parse_eq_ok`
-/

------------------------------------------------------------
-- Counting Commas
------------------------------------------------------------

namespace Bibliography

namespace Text

/- The number of commas at brace depth zero, from a depth on. -/
def commasFrom : Nat → Text → Nat
  | _, [] => 0
  | depth, c :: rest =>
      (if depth = 0 ∧ c = ',' then 1 else 0) +
        commasFrom (nest depth c) rest

/- The number of commas at brace depth zero. -/
def commas (t : Text) : Nat :=
  commasFrom 0 t

/- The characters that decide the number of commas. -/
def countsForCommas (c : Char) : Bool :=
  isBrace c || c == ','

/- Other characters do not matter. -/
theorem commasFrom_filter
    (depth : Nat)
    (t : Text) :
    commasFrom depth (t.filter countsForCommas) =
      commasFrom depth t := by
  induction t generalizing depth with
  | nil => rfl
  | cons c rest ih =>
      cases hCounts : countsForCommas c with
      | true =>
          rw [List.filter_cons_of_pos hCounts, commasFrom,
            commasFrom, ih]
      | false =>
          rw [countsForCommas, Bool.or_eq_false_iff,
            beq_eq_false_iff_ne] at hCounts
          have hNot : ¬ countsForCommas c = true := by
            simp [countsForCommas, hCounts]
          rw [List.filter_cons_of_neg hNot, commasFrom,
            if_neg (fun h => hCounts.2 h.2),
            nest_of_not_isBrace hCounts.1, ih, Nat.zero_add]

/- Trimming takes away no comma. -/
theorem commas_trim (t : Text) : t.trim.commas = t.commas := by
  have hSpace : ∀ c, Character.isSpace c = true →
      countsForCommas c = false := by
    intro c h
    have hComma : c ≠ ',' := by
      rintro rfl
      exact absurd h (by decide)
    rw [countsForCommas, not_isBrace_of_isSpace c h, Bool.false_or,
      beq_eq_false_iff_ne]
    exact hComma
  rw [commas, commas, ← commasFrom_filter, filter_trim hSpace,
    commasFrom_filter]

------------------------------------------------------------
-- Pieces between Commas
------------------------------------------------------------

/- A text begins with a comma if its first character is one. -/
theorem beginsWith_comma
    (c : Char)
    (rest : Text) :
    beginsWith [','] (c :: rest) = true ↔ c = ',' := by
  have hLower : Character.lowerAscii c = ',' ↔ c = ',' := by
    cases h : Character.isAscii c with
    | true =>
        exact Character.forall_ascii
          (P := fun c => Character.lowerAscii c = ',' ↔ c = ',')
          (by decide) h
    | false => rw [Character.lowerAscii_of_not_isAscii h]
  have hComma : Character.lowerAscii ',' = ',' := by decide
  rw [beginsWith, beginsWith, Bool.and_true, beq_iff_eq, hComma,
    eq_comm, hLower]

/- Without a cut there is no comma. -/
theorem commasFrom_of_cut?_none
    {depth : Nat}
    {t : Text}
    (h : cut? [','] depth t = none) :
    commasFrom depth t = 0 := by
  induction t generalizing depth with
  | nil => rfl
  | cons c rest ih =>
      rw [cut?] at h
      split at h
      · cases h
      · rename_i hNot
        have hComma : ¬ (depth = 0 ∧ c = ',') := by
          rintro ⟨hZero, rfl⟩
          exact hNot ⟨hZero, rfl, (beginsWith_comma _ _).2 rfl⟩
        cases hCut : cut? [','] (nest depth c) rest with
        | none => rw [commasFrom, if_neg hComma, ih hCut]
        | some found => simp [hCut] at h

/- A cut takes the first comma. -/
theorem commasFrom_of_cut?_some
    {depth : Nat}
    {t piece after : Text}
    (h : cut? [','] depth t = some (piece, after)) :
    commasFrom depth t = after.commas + 1 := by
  induction t generalizing depth piece with
  | nil => simp [cut?] at h
  | cons c rest ih =>
      rw [cut?] at h
      split at h
      · rename_i hCut
        rcases hCut with ⟨rfl, _, hBegins⟩
        cases h
        have hComma := (beginsWith_comma c rest).1 hBegins
        subst hComma
        rw [commasFrom, if_pos ⟨rfl, rfl⟩, Nat.add_comm]
        rfl
      · rename_i hNot
        have hComma : ¬ (depth = 0 ∧ c = ',') := by
          rintro ⟨hZero, rfl⟩
          exact hNot ⟨hZero, rfl, (beginsWith_comma _ _).2 rfl⟩
        cases hCut : cut? [','] (nest depth c) rest with
        | none => simp [hCut] at h
        | some found =>
            rcases found with ⟨piece', after'⟩
            simp only [hCut, Option.some.injEq,
              Prod.mk.injEq] at h
            rcases h with ⟨_, rfl⟩
            rw [commasFrom, if_neg hComma, ih hCut, Nat.zero_add]

/- There is one piece more than there are commas. -/
theorem length_splitOutside_comma (t : Text) :
    (splitOutside [','] t).length = t.commas + 1 := by
  fun_induction splitOutside [','] t with
  | case1 t _ hCut =>
      rw [commas, commasFrom_of_cut?_none hCut]
      rfl
  | case2 t _ piece after hCut ih =>
      rw [List.length_cons, ih, commas, commas,
        commasFrom_of_cut?_some hCut, commas]
  | case3 t hEmpty => exact absurd (List.cons_ne_nil _ _) hEmpty

end Text

------------------------------------------------------------
-- Readable Names
------------------------------------------------------------

namespace Person

/- The person with a name, nameless if the name is malformed. -/
def read (name : Text) : Person :=
  (parse name).toOption.getD nameless

/- A name is divided into one piece more than it has commas. -/
theorem length_pieces (name : Text) :
    ((Text.splitOutside [','] name.trim).map Text.trim).length =
      name.commas + 1 := by
  rw [List.length_map, Text.length_splitOutside_comma,
    Text.commas_trim]

/- A name with two commas at most is read. -/
theorem parse_eq_ok
    {name : Text}
    (h : name.commas ≤ 2) :
    parse name = .ok (read name) := by
  have hPieces := length_pieces name
  have hOk : ∃ p, parse name = .ok p := by
    rw [parse]
    split
    · exact ⟨_, rfl⟩
    · split
      · exact ⟨_, rfl⟩
      · exact ⟨_, rfl⟩
      · exact ⟨_, rfl⟩
      · rename_i hThree hTwo hOne
        generalize hList :
          (Text.splitOutside [','] name.trim).map Text.trim =
            pieces at hPieces hThree hTwo hOne
        match pieces with
        | [] => simp at hPieces
        | [a] => exact absurd rfl (hOne a)
        | [a, b] => exact absurd rfl (hTwo a b)
        | [a, b, c] => exact absurd rfl (hThree a b c)
        | _ :: _ :: _ :: _ :: _ =>
            simp only [List.length_cons] at hPieces
            omega
  rcases hOk with ⟨p, hParse⟩
  rw [read, hParse]
  rfl

/- A name that is read has two commas at most. -/
theorem commas_le_of_parse
    {name : Text}
    {p : Person}
    (h : parse name = .ok p) : name.commas ≤ 2 := by
  have hPieces := length_pieces name
  unfold parse at h
  dsimp only at h
  split at h
  · rename_i hEmpty
    have hCommas := Text.commas_trim name
    rw [List.isEmpty_iff.1 hEmpty] at hCommas
    rw [← hCommas]
    exact Nat.zero_le 2
  · split at h
    · rename_i hList
      rw [hList] at hPieces
      have hCommas : 3 = name.commas + 1 := hPieces
      omega
    · rename_i hList
      rw [hList] at hPieces
      have hCommas : 2 = name.commas + 1 := hPieces
      omega
    · rename_i hList
      rw [hList] at hPieces
      have hCommas : 1 = name.commas + 1 := hPieces
      omega
    · cases h

end Person

end Bibliography
