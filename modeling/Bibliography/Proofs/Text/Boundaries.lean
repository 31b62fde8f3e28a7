import Bibliography.Proofs.Location
import Bibliography.Proofs.Text.Utf8
import Mathlib.Order.Bounds.Defs

/-
  Boundaries of characters in the UTF-8 form.

  An offset does not lie inside a character if the form ends there
  or the byte there begins a character.  Such offsets are the
  lengths of the beginnings of the text.  The longest beginning
  with at most some number of bytes ends at the greatest of them,
  because the next character would not fit.

  Key definitions include:
    * `Text.IsBoundary`

  Key statements include:
    * `Text.lt_of_dropBytes_eq_cons`
    * `Text.exists_append_of_byteLength_lt`
    * `Text.isBoundary_iff`
    * `Text.isGreatest_takeBytes`
-/

------------------------------------------------------------
-- Beginnings
------------------------------------------------------------

namespace Bibliography

namespace Text

theorem length_toBytes (t : Text) :
    t.toBytes.length = t.byteLength := by
  induction t with
  | nil => rfl
  | cons c rest ih =>
      rw [toBytes_cons, List.length_append, ih, byteLength,
        String.length_utf8EncodeChar]

theorem takeBytes_append_dropBytes
    (offset : Nat)
    (t : Text) : t.takeBytes offset ++ t.dropBytes offset = t := by
  have hPrefix : t.takeBytes offset <+: t := by
    induction t generalizing offset with
    | nil => exact List.nil_prefix
    | cons c rest ih =>
        rw [takeBytes]
        split
        · exact List.cons_prefix_cons.2 ⟨rfl, ih _⟩
        · exact List.nil_prefix
  exact List.prefix_iff_eq_append.1 hPrefix

theorem byteLength_takeBytes_le
    (offset : Nat)
    (t : Text) : (t.takeBytes offset).byteLength ≤ offset := by
  induction t generalizing offset with
  | nil => exact Nat.zero_le offset
  | cons c rest ih =>
      rw [takeBytes]
      split
      · rename_i hFits
        have hRest := ih (offset - c.utf8Size)
        rw [byteLength]
        omega
      · exact Nat.zero_le offset

/- The first character that is not taken would not fit. -/
theorem lt_of_dropBytes_eq_cons
    {offset : Nat}
    {t rest : Text}
    {c : Char}
    (h : t.dropBytes offset = c :: rest) :
    offset < (t.takeBytes offset).byteLength + c.utf8Size := by
  induction t generalizing offset with
  | nil => cases h
  | cons d more ih =>
      rw [dropBytes, takeBytes] at h
      rw [takeBytes]
      split
      · rename_i hFits
        rw [if_pos hFits] at h
        have hRest := @ih (offset - d.utf8Size) h
        rw [byteLength]
        omega
      · rename_i hFull
        rw [if_neg hFull] at h
        cases h
        rw [byteLength]
        omega

/- Of two beginnings the longer one goes on from the shorter one. -/
theorem exists_append_of_byteLength_lt
    {a b a' b' : Text}
    (hSame : a ++ b = a' ++ b')
    (hLt : a.byteLength < a'.byteLength) :
    ∃ c more, a' = a ++ c :: more ∧ b = c :: (more ++ b') := by
  rcases List.append_eq_append_iff.1 hSame with
    ⟨m, rfl, rfl⟩ | ⟨m, rfl, rfl⟩
  · cases m with
    | nil =>
        rw [List.append_nil] at hLt
        exact absurd hLt (Nat.lt_irrefl _)
    | cons c more => exact ⟨c, more, rfl, rfl⟩
  · rw [byteLength_append] at hLt
    omega

------------------------------------------------------------
-- Boundaries
------------------------------------------------------------

/-
  Whether the UTF-8 form ends at an offset, or the byte there
  begins a character.
-/
def IsBoundary
    (t : Text)
    (o : Nat) : Prop :=
  o = t.toBytes.length ∨
    ∃ b, t.toBytes[o]? = some b ∧ b.IsUTF8FirstByte

theorem isBoundary_byteLength (before after : Text) :
    IsBoundary (before ++ after) before.byteLength := by
  rw [← length_toBytes]
  cases after with
  | nil =>
      rw [List.append_nil]
      exact .inl rfl
  | cons c rest =>
      rcases exists_utf8EncodeChar c with
        ⟨first, more, hBytes, hFirst, _⟩
      refine .inr ⟨first, ?_, hFirst⟩
      rw [toBytes_append, List.getElem?_append_right (Nat.le_refl _),
        Nat.sub_self, toBytes_cons, hBytes]
      rfl

/- The bytes of a character behind the first one begin none. -/
theorem not_isBoundary_of_lt
    {before rest : Text}
    {c : Char}
    {o : Nat}
    (hLow : before.byteLength < o)
    (hHigh : o < before.byteLength + c.utf8Size) :
    ¬ IsBoundary (before ++ c :: rest) o := by
  rcases exists_utf8EncodeChar c with
    ⟨first, more, hBytes, _, hInner⟩
  have hSize : c.utf8Size = more.length + 1 := by
    rw [← String.length_utf8EncodeChar, hBytes, List.length_cons]
  obtain ⟨n, rfl⟩ : ∃ n, o = before.byteLength + (n + 1) :=
    ⟨o - before.byteLength - 1, by omega⟩
  rintro (hEnd | ⟨b, hByte, hFirst⟩)
  · rw [length_toBytes, byteLength_append, byteLength] at hEnd
    omega
  · rw [toBytes_append, ← length_toBytes before,
      List.getElem?_append_right (Nat.le_add_right _ _),
      Nat.add_sub_cancel_left, toBytes_cons, hBytes,
      List.cons_append, List.getElem?_cons_succ,
      List.getElem?_append_left (by omega)] at hByte
    exact hInner b (List.mem_of_getElem? hByte) hFirst

theorem IsBoundary.le
    {t : Text}
    {o : Nat}
    (h : t.IsBoundary o) : o ≤ t.byteLength := by
  rw [← length_toBytes]
  rcases h with hEnd | ⟨b, hByte, _⟩
  · exact Nat.le_of_eq hEnd
  · exact Nat.le_of_lt (List.getElem?_eq_some_iff.1 hByte).1

/- What is taken up to a boundary ends there. -/
theorem IsBoundary.byteLength_takeBytes
    {t : Text}
    {o : Nat}
    (h : t.IsBoundary o) : (t.takeBytes o).byteLength = o := by
  have hText := takeBytes_append_dropBytes o t
  refine Nat.le_antisymm (byteLength_takeBytes_le o t) ?_
  cases hRest : t.dropBytes o with
  | nil =>
      rw [hRest, List.append_nil] at hText
      rw [hText]
      exact h.le
  | cons c rest =>
      refine Nat.not_lt.1 (fun hLow => ?_)
      have hHigh := lt_of_dropBytes_eq_cons hRest
      rw [← hText, hRest] at h
      exact not_isBoundary_of_lt hLow hHigh h

/- The boundaries are the lengths of beginnings. -/
theorem isBoundary_iff
    {t : Text}
    {o : Nat} :
    t.IsBoundary o ↔
      ∃ before after, t = before ++ after ∧ o = before.byteLength := by
  constructor
  · intro h
    exact ⟨t.takeBytes o, t.dropBytes o,
      (takeBytes_append_dropBytes o t).symm,
      h.byteLength_takeBytes.symm⟩
  · rintro ⟨before, after, rfl, rfl⟩
    exact isBoundary_byteLength before after

/- Taking bytes backs up to the greatest boundary. -/
theorem isGreatest_takeBytes
    (offset : Nat)
    (t : Text) :
    IsGreatest
      {o | t.IsBoundary o ∧ o ≤ min offset t.toBytes.length}
      (t.takeBytes offset).byteLength := by
  have hText := takeBytes_append_dropBytes offset t
  have hTaken : t.IsBoundary (t.takeBytes offset).byteLength :=
    isBoundary_iff.2 ⟨_, _, hText.symm, rfl⟩
  constructor
  · refine ⟨hTaken, Nat.le_min.2 ⟨?_, ?_⟩⟩
    · exact byteLength_takeBytes_le offset t
    · rw [length_toBytes]
      exact hTaken.le
  · rintro o ⟨hBoundary, hLe⟩
    refine Nat.not_lt.1 (fun hLow => ?_)
    rcases isBoundary_iff.1 hBoundary with ⟨before, after, hSame, rfl⟩
    rcases exists_append_of_byteLength_lt (hText.trans hSame) hLow
      with ⟨c, more, hBefore, hRest⟩
    -- one more character would be among the bytes up to the offset
    have hHigh := lt_of_dropBytes_eq_cons hRest
    have hLonger := congrArg byteLength hBefore
    rw [byteLength_append, byteLength] at hLonger
    omega

end Text

end Bibliography
