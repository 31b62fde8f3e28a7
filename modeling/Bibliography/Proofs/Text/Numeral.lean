import Bibliography.Style.InstructionText

/-
  Integers and their spellings.

  An integer is spelled by decimal digits with an optional sign,
  and leading zeros do not matter.  Reading an integer succeeds on
  these texts, with the integer that they spell.

  Key definitions include:
    * `Text.IsNumeral`
    * `Text.Spells`

  Key statements include:
    * `Text.parseInteger?_eq_some_iff`
    * `Text.spells_toString`
-/

------------------------------------------------------------
-- Spellings
------------------------------------------------------------

namespace Bibliography

namespace Text

/- Decimal digits, one at least. -/
structure IsNumeral (digits : Text) : Prop where
  nonempty : digits ≠ []
  digits : ∀ c ∈ digits, c.isDigit = true

/- The number that decimal digits stand for. -/
def numeralValue (digits : Text) : Nat :=
  Nat.ofDigitChars 10 digits 0

/- A spelling of an integer: digits, with or without a sign. -/
inductive Spells : Text → Int → Prop
  | unsigned {digits : Text} (h : digits.IsNumeral) :
      Spells digits digits.numeralValue
  | positive {digits : Text} (h : digits.IsNumeral) :
      Spells ('+' :: digits) digits.numeralValue
  | negative {digits : Text} (h : digits.IsNumeral) :
      Spells ('-' :: digits) (-(digits.numeralValue : Int))

/- A spelling is made of digits and signs. -/
theorem Spells.forall_mem
    {t : Text}
    {n : Int}
    (h : t.Spells n) :
    ∀ c ∈ t, c.isDigit = true ∨ c = '+' ∨ c = '-' := by
  cases h with
  | unsigned h => exact fun c hMem => Or.inl (h.digits c hMem)
  | positive h =>
      refine List.forall_mem_cons.2 ⟨Or.inr (Or.inl rfl), ?_⟩
      exact fun c hMem => Or.inl (h.digits c hMem)
  | negative h =>
      refine List.forall_mem_cons.2 ⟨Or.inr (Or.inr rfl), ?_⟩
      exact fun c hMem => Or.inl (h.digits c hMem)

------------------------------------------------------------
-- Reading Integers
------------------------------------------------------------

theorem digitsFrom_eq_some_iff
    {n m : Nat}
    {t : Text} :
    digitsFrom n t = some m ↔
      (∀ c ∈ t, c.isDigit = true) ∧ Nat.ofDigitChars 10 t n = m := by
  induction t generalizing n with
  | nil => simp [digitsFrom]
  | cons c rest ih =>
      rw [digitsFrom, List.forall_mem_cons, Nat.ofDigitChars_cons]
      cases hDigit : c.isDigit with
      | true => rw [if_pos rfl, ih, and_iff_right rfl]
      | false => simp

theorem parseNat?_eq_some_iff
    {t : Text}
    {n : Nat} :
    parseNat? t = some n ↔ t.IsNumeral ∧ t.numeralValue = n := by
  rw [parseNat?]
  cases t with
  | nil =>
      constructor
      · rintro ⟨⟩
      · rintro ⟨h, _⟩
        exact absurd rfl h.nonempty
  | cons c rest =>
      rw [List.isEmpty_cons, if_neg Bool.false_ne_true,
        digitsFrom_eq_some_iff]
      constructor
      · rintro ⟨hDigits, hValue⟩
        exact ⟨⟨List.cons_ne_nil _ _, hDigits⟩, hValue⟩
      · rintro ⟨h, hValue⟩
        exact ⟨h.digits, hValue⟩

/- What is read as an integer spells it, and the other way round. -/
theorem parseInt?_eq_some_iff
    {t : Text}
    {n : Int} :
    parseInt? t = some n ↔ t.Spells n := by
  constructor
  · intro h
    unfold parseInt? at h
    split at h
    all_goals
      rcases Option.map_eq_some_iff.1 h with ⟨i, hDigits, rfl⟩
      rcases Option.bind_eq_some_iff.1 hDigits with ⟨m, hRead, hSame⟩
      rcases parseNat?_eq_some_iff.1 hRead with ⟨hNumeral, rfl⟩
      cases hSame
    · exact .positive hNumeral
    · exact .negative hNumeral
    · exact .unsigned hNumeral
  · intro h
    have hRead : ∀ digits : Text, digits.IsNumeral →
        parseNat? digits = some digits.numeralValue :=
      fun digits h => parseNat?_eq_some_iff.2 ⟨h, rfl⟩
    cases h with
    | positive h => rw [parseInt?, hRead _ h]; rfl
    | negative h => rw [parseInt?, hRead _ h]; rfl
    | unsigned h =>
        have hPlus : ∀ rest : Text, t ≠ '+' :: rest := by
          rintro rest rfl
          exact absurd (h.digits '+' List.mem_cons_self) (by decide)
        have hMinus : ∀ rest : Text, t ≠ '-' :: rest := by
          rintro rest rfl
          exact absurd (h.digits '-' List.mem_cons_self) (by decide)
        unfold parseInt?
        split
        · exact absurd rfl (hPlus _)
        · exact absurd rfl (hMinus _)
        · rw [hRead _ h]
          rfl

/- An integer of 64 bits is read from its spellings. -/
theorem parseInteger?_eq_some_iff
    {t : Text}
    {n : Int64} :
    parseInteger? t = some n ↔ t.Spells n.toInt := by
  rw [← parseInt?_eq_some_iff, parseInteger?]
  cases hRead : parseInt? t with
  | none => simp
  | some i =>
      dsimp only
      split
      · rename_i hRange
        have hSame : (Int64.ofInt i).toInt = i := by
          have hMin : Int64.minValue.toInt = -2 ^ 63 := by decide
          have hMax : Int64.maxValue.toInt = 2 ^ 63 - 1 := by decide
          apply Int64.toInt_ofInt_of_le <;> omega
        rw [Option.some_inj, Option.some_inj]
        constructor
        · rintro rfl
          exact hSame.symm
        · rintro rfl
          exact Int64.ofInt_toInt n
      · rename_i hRange
        constructor
        · rintro ⟨⟩
        · intro hEq
          rw [Option.some.inj hEq] at hRange
          exact absurd ⟨n.minValue_le_toInt, n.toInt_le⟩ hRange

------------------------------------------------------------
-- Writing Integers
------------------------------------------------------------

/- The decimal text of a number is a numeral of that value. -/
theorem isNumeral_toDigits (n : Nat) :
    IsNumeral (Nat.toDigits 10 n) where
  nonempty := Nat.toDigits_ne_nil
  digits := fun _ hMem =>
    Nat.isDigit_of_mem_toDigits (by decide) (by decide) hMem

theorem numeralValue_toDigits (n : Nat) :
    numeralValue (Nat.toDigits 10 n) = n :=
  Nat.ofDigitChars_ten_toDigits

/- The text of an integer spells it. -/
theorem spells_toString (n : Int) : Spells (toString n).toList n := by
  rw [Int.toString_eq_repr, Int.repr_eq_if]
  split
  · rename_i hSign
    have hSpells := Spells.unsigned (isNumeral_toDigits n.toNat)
    rw [numeralValue_toDigits, Int.toNat_of_nonneg hSign] at hSpells
    rw [Nat.toList_repr]
    exact hSpells
  · have hSpells := Spells.negative (isNumeral_toDigits (-n).toNat)
    rw [numeralValue_toDigits, Int.toNat_of_nonneg (by omega),
      Int.neg_neg] at hSpells
    rw [String.toList_append, Nat.toList_repr]
    exact hSpells

end Text

end Bibliography
