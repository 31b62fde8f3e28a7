import Bibliography.Proofs.Unicode.Ascii
import Bibliography.Proofs.Unicode.CaseMapping

/-
  Lower case of any text.

  What lower case puts in the place of another character is one of
  the images of the table, or a final sigma.  None of these has a
  lower case other than itself, so taking the lower case twice is
  taking it once.

  Key definitions include:
    * `Character.lowerImages`
    * `Character.IsLowered`

  Key statements include:
    * `Character.isLowered_of_mem_lowerImages`
    * `Text.mem_lower`
    * `Text.lower_lower`
-/

namespace Bibliography

------------------------------------------------------------
-- Characters
------------------------------------------------------------

namespace Character

/- Small letters that take the place of others. -/
def lowerImages : List Nat :=
  'ς'.toNat :: CaseMapping.lower.images

/- A character that has no other lower case, also in a word. -/
structure IsLowered (c : Char) : Prop where
  stays : lower c = [c]
  notSigma : c ≠ 'Σ'

/- The table gives the lower case of ASCII characters, too. -/
theorem lower_eq_apply (c : Char) :
    lower c = CaseMapping.lower.apply c := by
  unfold lower
  split
  · rename_i hAscii
    exact forall_ascii
      (P := fun c => [lowerAscii c] = CaseMapping.lower.apply c)
      (by decide) hAscii
  · rfl

/- No image is moved on. -/
theorem bitsOf_images_domain :
    bitsOf lowerImages &&& bitsOf CaseMapping.lower.domain = 0 := by
  decide +kernel

theorem isSettled_lower : CaseMapping.lower.IsSettled where
  runs := by decide +kernel
  several := by decide
  apart := fun _ hMem =>
    not_mem_of_bitsOf bitsOf_images_domain
      (List.mem_cons_of_mem _ hMem)

/- A character of a lower case is that one itself, or an image. -/
theorem mem_lower
    {c d : Char}
    (h : d ∈ lower c) :
    d = c ∧ lower c = [c] ∨ d.toNat ∈ lowerImages := by
  rw [lower_eq_apply] at h ⊢
  rcases isSettled_lower.mem_apply h with hStays | hImage
  · exact Or.inl hStays
  · exact Or.inr (List.mem_cons_of_mem _ hImage)

theorem lower_ne_nil (c : Char) : lower c ≠ [] := by
  rw [lower_eq_apply]
  exact isSettled_lower.apply_ne_nil c

theorem isLowered_of_not_mem_domain
    {c : Char}
    (h : c.toNat ∉ CaseMapping.lower.domain) : IsLowered c where
  stays := by
    rw [lower_eq_apply]
    exact CaseMapping.apply_of_not_mem_domain h
  notSigma := by
    rintro rfl
    refine h (List.mem_append_left _ (List.mem_flatMap.2 ?_))
    exact ⟨⟨0x3A3, 0x3AB, 1, 0x3C3⟩,
      List.mem_append_left _ (by simp [CaseMapping.lowerRuns1]),
      by decide⟩

theorem isLowered_of_mem_lowerImages
    {c : Char}
    (h : c.toNat ∈ lowerImages) : IsLowered c :=
  isLowered_of_not_mem_domain (not_mem_of_bitsOf bitsOf_images_domain h)

end Character

------------------------------------------------------------
-- Texts
------------------------------------------------------------

namespace Text

open Character

/-
  What takes the place of one character; `before` are the
  characters before it, last first.
-/
def lowerOne
    (before : Text)
    (c : Char)
    (rest : Text) : Text :=
  if c = 'Σ' then
    if leadsToCased before && !leadsToCased rest then ['ς']
    else ['σ']
  else Character.lower c

theorem lowerAfter_cons
    (before : Text)
    (c : Char)
    (rest : Text) :
    lowerAfter before (c :: rest) =
      lowerOne before c rest ++ lowerAfter (c :: before) rest := by
  rw [lowerAfter, lowerOne]
  split
  · split <;> rfl
  · rfl

theorem lowerOne_ne_nil
    (before : Text)
    (c : Char)
    (rest : Text) : lowerOne before c rest ≠ [] := by
  rw [lowerOne]
  split
  · split <;> exact List.cons_ne_nil _ _
  · exact lower_ne_nil c

theorem lowerOne_of_isLowered
    {c : Char}
    (h : IsLowered c)
    (before rest : Text) : lowerOne before c rest = [c] := by
  rw [lowerOne, if_neg h.notSigma, h.stays]

theorem mem_lowerOne
    {before rest : Text}
    {c d : Char}
    (h : d ∈ lowerOne before c rest) :
    d = c ∧ IsLowered c ∨ d.toNat ∈ lowerImages := by
  rw [lowerOne] at h
  split at h
  · have hSmall : 'σ'.toNat ∈ lowerImages := by
      have hLower : 'σ' ∈ Character.lower 'Σ' := by decide
      rcases Character.mem_lower hLower with ⟨hSame, _⟩ | hImage
      · cases hSame
      · exact hImage
    split at h
    · rw [List.mem_singleton.1 h]
      exact Or.inr List.mem_cons_self
    · rw [List.mem_singleton.1 h]
      exact Or.inr hSmall
  · rename_i hSigma
    rcases Character.mem_lower h with ⟨rfl, hStays⟩ | hImage
    · exact Or.inl ⟨rfl, hStays, hSigma⟩
    · exact Or.inr hImage

/- A character of a lower case is one of the text, or an image. -/
theorem mem_lowerAfter
    {t before : Text}
    {d : Char}
    (h : d ∈ lowerAfter before t) :
    d ∈ t ∧ IsLowered d ∨ d.toNat ∈ lowerImages := by
  induction t generalizing before with
  | nil => cases h
  | cons c rest ih =>
      rw [lowerAfter_cons] at h
      rcases List.mem_append.1 h with hIn | hLater
      · rcases mem_lowerOne hIn with ⟨rfl, hLowered⟩ | hImage
        · exact Or.inl ⟨List.mem_cons_self, hLowered⟩
        · exact Or.inr hImage
      · rcases ih hLater with ⟨hRest, hLowered⟩ | hImage
        · exact Or.inl ⟨List.mem_cons_of_mem _ hRest, hLowered⟩
        · exact Or.inr hImage

theorem mem_lower
    {t : Text}
    {d : Char}
    (h : d ∈ t.lower) :
    d ∈ t ∧ IsLowered d ∨ d.toNat ∈ lowerImages :=
  mem_lowerAfter h

/- So it is with the first one. -/
theorem exists_lower_cons
    (c : Char)
    (rest : Text) :
    ∃ d more, lower (c :: rest) = d :: more ∧
      (d = c ∨ d.toNat ∈ lowerImages) := by
  rw [lower, lowerAfter_cons]
  cases hOne : lowerOne [] c rest with
  | nil => exact absurd hOne (lowerOne_ne_nil _ _ _)
  | cons d more =>
      have hMem : d ∈ lowerOne [] c rest := by
        rw [hOne]
        exact List.mem_cons_self
      refine ⟨d, more ++ lowerAfter [c] rest, rfl, ?_⟩
      rcases mem_lowerOne hMem with ⟨hSame, _⟩ | hImage
      · exact Or.inl hSame
      · exact Or.inr hImage

/- A text in lower case stays as it is. -/
theorem lowerAfter_of_isLowered
    {t : Text}
    (h : ∀ c ∈ t, IsLowered c)
    (before : Text) : lowerAfter before t = t := by
  induction t generalizing before with
  | nil => rfl
  | cons c rest ih =>
      rcases List.forall_mem_cons.1 h with ⟨hFirst, hRest⟩
      rw [lowerAfter_cons, lowerOne_of_isLowered hFirst, ih hRest]
      rfl

/- The lower case of a lower case is that lower case. -/
@[simp]
theorem lower_lower (t : Text) : t.lower.lower = t.lower := by
  refine lowerAfter_of_isLowered ?_ []
  intro d hMem
  rcases mem_lower hMem with ⟨_, hLowered⟩ | hImage
  · exact hLowered
  · exact isLowered_of_mem_lowerImages hImage

end Text

end Bibliography
