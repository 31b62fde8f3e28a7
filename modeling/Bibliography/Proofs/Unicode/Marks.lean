import Bibliography.Proofs.Unicode.LowerCase

/-
  Case maps and the marks that changes of case go by.

  Braces, the colon and white space have no case: a case map
  leaves them alone and leads to none of them from elsewhere.
  What it leads to stays when it is mapped again.

  Key definitions include:
    * `Character.marks`
    * `Character.IsCaseMap`

  Key statements include:
    * `CaseMapping.IsSettled.isCaseMap`
    * `Character.isCaseMap_lower`
    * `Character.isCaseMap_upper`
-/

------------------------------------------------------------
-- Marks
------------------------------------------------------------

namespace Bibliography

namespace Character

/- The code points of white space. -/
def spaces : List Nat :=
  [0x9, 0xA, 0xB, 0xC, 0xD, 0x20, 0x85, 0xA0, 0x1680, 0x2000,
    0x2001, 0x2002, 0x2003, 0x2004, 0x2005, 0x2006, 0x2007,
    0x2008, 0x2009, 0x200A, 0x2028, 0x2029, 0x202F, 0x205F,
    0x3000]

/- Braces, the colon and white space. -/
def marks : List Nat :=
  '{'.toNat :: '}'.toNat :: ':'.toNat :: spaces

theorem mem_spaces
    {c : Char}
    (h : isSpace c = true) : c.toNat ∈ spaces := by
  unfold isSpace at h
  simp only [Bool.or_eq_true, Bool.and_eq_true, beq_iff_eq,
    decide_eq_true_eq] at h
  simp only [spaces, List.mem_cons, List.not_mem_nil, or_false]
  omega

theorem mem_marks_of_isSpace
    {c : Char}
    (h : isSpace c = true) : c.toNat ∈ marks := by
  have hMem := mem_spaces h
  simp [marks, hMem]

theorem mem_marks_of_isBrace
    {c : Char}
    (h : Text.isBrace c = true) : c.toNat ∈ marks := by
  rw [Text.isBrace, Bool.or_eq_true, beq_iff_eq, beq_iff_eq] at h
  rcases h with rfl | rfl
  · exact List.mem_cons_self
  · exact List.mem_cons_of_mem _ List.mem_cons_self

/- What is no mark is none of them. -/
theorem of_not_mem_marks
    {c : Char}
    (h : c.toNat ∉ marks) :
    Text.isBrace c = false ∧ isSpace c = false ∧ c ≠ ':' := by
  refine ⟨?_, ?_, ?_⟩
  · exact Bool.eq_false_iff.2 fun hIs => h (mem_marks_of_isBrace hIs)
  · exact Bool.eq_false_iff.2 fun hIs => h (mem_marks_of_isSpace hIs)
  · rintro rfl
    exact h (by decide)

/-
  A map of characters that is done after one step, and that neither
  changes nor produces a mark.
-/
structure IsCaseMap (f : Char → List Char) : Prop where
  nonempty : ∀ c, f c ≠ []
  settles : ∀ c, ∀ d ∈ f c, f d = [d]
  marks_stay : ∀ c, c.toNat ∈ marks → f c = [c]
  marks_old : ∀ c, ∀ d ∈ f c, d.toNat ∈ marks → d = c

/- Braces come from braces only. -/
theorem IsCaseMap.not_isBrace
    {f : Char → List Char}
    (h : IsCaseMap f)
    {c d : Char}
    (hPlain : Text.isBrace c = false)
    (hMem : d ∈ f c) : Text.isBrace d = false := by
  apply Bool.eq_false_iff.2
  intro hBrace
  have hSame := h.marks_old c d hMem (mem_marks_of_isBrace hBrace)
  rw [hSame, hPlain] at hBrace
  cases hBrace

end Character

/- A settled mapping apart from the marks is such a map. -/
theorem CaseMapping.IsSettled.isCaseMap
    {m : CaseMapping}
    (h : m.IsSettled)
    (hApart : bitsOf Character.marks &&&
      bitsOf (m.images ++ m.domain) = 0) :
    Character.IsCaseMap m.apply where
  nonempty := h.apply_ne_nil
  settles := by
    intro c d hMem
    rcases h.mem_apply hMem with ⟨rfl, hStays⟩ | hImage
    · exact hStays
    · exact h.apply_of_mem_images hImage
  marks_stay := by
    intro c hMark
    have hNot := not_mem_of_bitsOf hApart hMark
    apply apply_of_not_mem_domain
    intro hMoves
    exact hNot (List.mem_append_right _ hMoves)
  marks_old := by
    intro c d hMem hMark
    have hNot := not_mem_of_bitsOf hApart hMark
    rcases h.mem_apply hMem with ⟨hSame, _⟩ | hImage
    · exact hSame
    · exact absurd (List.mem_append_left _ hImage) hNot

------------------------------------------------------------
-- Lower and Upper Case
------------------------------------------------------------

namespace Character

/- The table gives the upper case of ASCII characters, too. -/
theorem upper_eq_apply (c : Char) :
    upper c = CaseMapping.upper.apply c := by
  unfold upper
  split
  · rename_i hAscii
    exact forall_ascii
      (P := fun c => [upperAscii c] = CaseMapping.upper.apply c)
      (by decide +kernel) hAscii
  · rfl

theorem isSettled_upper : CaseMapping.upper.IsSettled where
  runs := by decide +kernel
  several := by decide +kernel
  apart := by
    have hBits : bitsOf CaseMapping.upper.images &&&
        bitsOf CaseMapping.upper.domain = 0 := by
      decide +kernel
    exact fun _ hMem => not_mem_of_bitsOf hBits hMem

theorem isCaseMap_lower : IsCaseMap lower := by
  rw [funext lower_eq_apply]
  exact isSettled_lower.isCaseMap (by decide +kernel)

theorem isCaseMap_upper : IsCaseMap upper := by
  rw [funext upper_eq_apply]
  exact isSettled_upper.isCaseMap (by decide +kernel)

end Character

end Bibliography
