import Bibliography.Text.Basic

/-
  ASCII characters and their lower case.

  A property of the ASCII characters is decided one by one.  The
  lower case of an ASCII text is taken character by character,
  and taking it again changes nothing.

  Key definitions include:
    * `Text.IsAscii`

  Key statements include:
    * `Character.forall_ascii`
    * `Text.lower_of_isAscii`
    * `Text.lower_lower_of_isAscii`
-/

------------------------------------------------------------
-- Characters
------------------------------------------------------------

namespace Bibliography

namespace Character

/- A property that holds of all ASCII code points. -/
theorem forall_ascii
    {P : Char → Prop}
    (h : ∀ n < 128, P (Char.ofNat n))
    {c : Char}
    (hAscii : isAscii c = true) : P c := by
  have hCode : c.toNat < 128 := by simpa [isAscii] using hAscii
  have hChar := h c.toNat hCode
  rwa [Char.ofNat_toNat] at hChar

/- Other characters are left as they are. -/
theorem lowerAscii_of_not_isAscii
    {c : Char}
    (h : isAscii c = false) : lowerAscii c = c := by
  apply if_neg
  rintro ⟨_, hHigh⟩
  rw [Char.le_def, UInt32.le_iff_toNat_le] at hHigh
  have hZ : 'Z'.val.toNat = 90 := rfl
  have hCode : ¬ c.toNat < 128 := by simpa [isAscii] using h
  rw [Char.toNat] at hCode
  omega

theorem isAscii_lowerAscii
    {c : Char}
    (h : isAscii c = true) : isAscii (lowerAscii c) = true :=
  forall_ascii (P := fun c => isAscii (lowerAscii c) = true)
    (by decide) h

/- Lower case is lower case already. -/
theorem lowerAscii_lowerAscii (c : Char) :
    lowerAscii (lowerAscii c) = lowerAscii c := by
  cases h : isAscii c with
  | true =>
      exact forall_ascii
        (P := fun c => lowerAscii (lowerAscii c) = lowerAscii c)
        (by decide) h
  | false =>
      rw [lowerAscii_of_not_isAscii h, lowerAscii_of_not_isAscii h]

end Character

------------------------------------------------------------
-- Texts
------------------------------------------------------------

namespace Text

/- A text of ASCII characters. -/
def IsAscii (t : Text) : Prop :=
  ∀ c ∈ t, Character.isAscii c = true

/- ASCII characters are put in lower case one by one. -/
theorem lowerAfter_of_isAscii
    {t : Text}
    (h : t.IsAscii)
    (before : Text) :
    lowerAfter before t = t.lowerAscii := by
  induction t generalizing before with
  | nil => rfl
  | cons c rest ih =>
      rcases List.forall_mem_cons.1 h with ⟨hFirst, hRest⟩
      have hSigma : c ≠ 'Σ' := by
        rintro rfl
        cases hFirst
      rw [lowerAfter, if_neg hSigma, ih hRest, Character.lower,
        if_pos hFirst]
      rfl

theorem lower_of_isAscii
    {t : Text}
    (h : t.IsAscii) : t.lower = t.lowerAscii :=
  lowerAfter_of_isAscii h []

theorem isAscii_lowerAscii
    {t : Text}
    (h : t.IsAscii) : t.lowerAscii.IsAscii := by
  intro c hMem
  rcases List.mem_map.1 hMem with ⟨d, hIn, rfl⟩
  exact Character.isAscii_lowerAscii (h d hIn)

/- Lower case is lower case already. -/
theorem lower_lower_of_isAscii
    {t : Text}
    (h : t.IsAscii) : t.lower.lower = t.lower := by
  have hLower := isAscii_lowerAscii h
  rw [lower_of_isAscii h, lower_of_isAscii hLower, lowerAscii,
    lowerAscii, List.map_map]
  apply List.map_congr_left
  intro c _
  exact Character.lowerAscii_lowerAscii c

end Text

end Bibliography
