import Bibliography.Database.Scanner
import Bibliography.Proofs.Unicode.Ascii

/-
  Which token a text begins with.

  The first character decides the pattern, and the token is the
  longest run of its characters.  A token of a pattern is read
  as it stands when the text behind it cannot extend it.

  Key definitions include:
    * `Pattern.accepts`
    * `Pattern.StopsAt`
    * `Text.isBlank`

  Key statements include:
    * `Pattern.firstLexeme?_cons`
    * `Pattern.lexeme?_append`
    * `Pattern.search?_atSign`
-/

------------------------------------------------------------
-- Tokens of a Pattern
------------------------------------------------------------

namespace Bibliography

/- A text of white space alone. -/
def Text.isBlank (t : Text) : Bool :=
  t.all Character.isSpace

namespace Pattern

/- Whether a text is one token of the pattern. -/
def accepts
    (p : Pattern) : Text → Bool
  | [] => false
  | c :: rest => p.starts c && rest.all p.continues

/- A text that cannot extend a token of the pattern before it. -/
def StopsAt
    (p : Pattern)
    (t : Text) : Prop :=
  ∀ c ∈ t.head?, p.continues c = false

/- A token has a first character, which starts it. -/
theorem accepts_iff
    {p : Pattern}
    {t : Text} :
    p.accepts t = true ↔
      ∃ c rest, t = c :: rest ∧ p.starts c = true ∧
        ∀ d ∈ rest, p.continues d = true := by
  cases t with
  | nil => simp [accepts]
  | cons c rest =>
      simp only [accepts, Bool.and_eq_true, List.all_eq_true]
      constructor
      · intro h
        exact ⟨c, rest, rfl, h⟩
      · rintro ⟨_, _, hEq, h⟩
        cases hEq
        exact h

/- The first character of a token starts it. -/
theorem starts_of_accepts
    {p : Pattern}
    {t : Text}
    (h : p.accepts t = true) :
    ∀ c ∈ t.head?, p.starts c = true := by
  rcases accepts_iff.1 h with ⟨d, rest, rfl, hStart, _⟩
  intro c hHead
  cases hHead
  exact hStart

/- A token in front of a text that cannot extend it is read whole. -/
theorem lexeme?_append
    {p : Pattern}
    {token after : Text}
    (hToken : p.accepts token = true)
    (hStop : p.StopsAt after) :
    p.lexeme? (token ++ after) = some (token, after) := by
  rcases accepts_iff.1 hToken with ⟨c, rest, rfl, hStart, hRest⟩
  have hAfter :
      after.takeWhile p.continues = [] ∧
        after.dropWhile p.continues = after := by
    cases after with
    | nil => exact ⟨rfl, rfl⟩
    | cons d more =>
        have hNot : p.continues d = false := hStop d rfl
        simp [hNot]
  rw [List.cons_append, lexeme?, if_pos hStart,
    List.takeWhile_append_of_pos hRest,
    List.dropWhile_append_of_pos hRest, hAfter.1, hAfter.2,
    List.append_nil]

/- What is read as a token is a token. -/
theorem accepts_cons_takeWhile
    {p : Pattern}
    {c : Char}
    (hStart : p.starts c = true)
    (rest : Text) :
    p.accepts (c :: rest.takeWhile p.continues) = true := by
  rw [accepts, hStart, List.all_takeWhile, Bool.and_self]

/-
  Of some patterns the first that the first character starts is
  the one whose token is read.
-/
theorem firstLexeme?_cons
    (c : Char)
    (rest : Text)
    (patterns : List Pattern) :
    firstLexeme? (c :: rest) patterns =
      (patterns.find? (fun p => p.starts c)).map
        (fun p => (p, c :: rest.takeWhile p.continues,
          rest.dropWhile p.continues)) := by
  induction patterns with
  | nil => rfl
  | cons p more ih =>
      rw [firstLexeme?, lexeme?, List.find?_cons]
      cases hStart : p.starts c with
      | true => simp
      | false => simpa using ih

------------------------------------------------------------
-- White Space
------------------------------------------------------------

/- The code points that can be white space. -/
theorem isSpace_bounds
    {c : Char}
    (h : Character.isSpace c = true) :
    c.toNat ≤ 0x20 ∨ 0x85 ≤ c.toNat := by
  simp only [Character.isSpace, Bool.or_eq_true,
    Bool.and_eq_true, decide_eq_true_eq, beq_iff_eq] at h
  omega

/- The code points that can start a name. -/
theorem isNameStart_bounds
    {c : Char}
    (h : isNameStart c = true) :
    0x21 ≤ c.toNat ∧ c.toNat ≤ 0x7f := by
  rw [isNameStart, Bool.or_eq_true] at h
  rcases h with hAlpha | hSpecial
  · have hCase : (c.isUpper || c.isLower) = true := hAlpha
    have hA : 'A'.val.toNat = 65 := rfl
    have hZ : 'Z'.val.toNat = 90 := rfl
    have ha : 'a'.val.toNat = 97 := rfl
    have hz : 'z'.val.toNat = 122 := rfl
    simp only [Char.toNat]
    rw [Bool.or_eq_true] at hCase
    rcases hCase with hUpper | hLower
    · have hRange : 'A'.val ≤ c.val ∧ c.val ≤ 'Z'.val :=
        of_decide_eq_true hUpper
      rw [UInt32.le_iff_toNat_le, UInt32.le_iff_toNat_le] at hRange
      omega
    · have hRange : 'a'.val ≤ c.val ∧ c.val ≤ 'z'.val := by
        rcases Bool.and_eq_true_iff.1 hLower with ⟨hLow, hHigh⟩
        exact ⟨of_decide_eq_true hLow, of_decide_eq_true hHigh⟩
      rw [UInt32.le_iff_toNat_le, UInt32.le_iff_toNat_le] at hRange
      omega
  · have hBounds : ∀ d ∈ nameSpecials,
        0x21 ≤ d.toNat ∧ d.toNat ≤ 0x7f := by
      have hAll : nameSpecials.all (fun d =>
          decide (0x21 ≤ d.toNat ∧ d.toNat ≤ 0x7f)) = true := by
        decide
      intro d hMem
      exact of_decide_eq_true (List.all_eq_true.1 hAll d hMem)
    exact hBounds c (List.contains_iff_mem.1 hSpecial)

/- The code points of the digits. -/
theorem isDigit_bounds
    {c : Char}
    (h : c.isDigit = true) :
    0x30 ≤ c.toNat ∧ c.toNat ≤ 0x39 := by
  simp only [Char.isDigit, Bool.and_eq_true, decide_eq_true_eq,
    UInt32.le_iff_toNat_le, ge_iff_le] at h
  have h0 : '0'.val.toNat = 48 := rfl
  have h9 : '9'.val.toNat = 57 := rfl
  simp only [Char.toNat]
  omega

/- The code points that can stand in a name. -/
theorem isNameChar_bounds
    {c : Char}
    (h : isNameChar c = true) :
    0x21 ≤ c.toNat ∧ c.toNat ≤ 0x7f := by
  rw [isNameChar, Bool.or_eq_true] at h
  rcases h with hStart | hDigit
  · exact isNameStart_bounds hStart
  · have hBounds := isDigit_bounds hDigit
    omega

/- Names are written in ASCII. -/
theorem isAscii_of_isNameChar
    {c : Char}
    (h : isNameChar c = true) : Character.isAscii c = true := by
  have hBounds := isNameChar_bounds h
  have hCode : c.toNat < 0x80 := by omega
  exact decide_eq_true hCode

/- Characters that start a name can stand in it. -/
theorem isNameChar_of_isNameStart
    {c : Char}
    (h : isNameStart c = true) : isNameChar c = true := by
  rw [isNameChar, h, Bool.true_or]

/- Digits can stand in a name. -/
theorem isNameChar_of_isDigit
    {c : Char}
    (h : c.isDigit = true) : isNameChar c = true := by
  rw [isNameChar, h, Bool.or_true]

theorem isAscii_of_accepts_name
    {t : Text}
    (h : name.accepts t = true) : t.IsAscii := by
  rcases accepts_iff.1 h with ⟨c, rest, rfl, hStart, hRest⟩
  refine List.forall_mem_cons.2 ⟨?_, ?_⟩
  · exact isAscii_of_isNameChar (isNameChar_of_isNameStart hStart)
  · intro d hMem
    exact isAscii_of_isNameChar (hRest d hMem)

/- Lower case keeps the characters of names. -/
theorem isNameStart_lowerAscii
    {c : Char}
    (h : isNameStart c = true) :
    isNameStart (Character.lowerAscii c) = true :=
  Character.forall_ascii
    (P := fun c => isNameStart c = true →
      isNameStart (Character.lowerAscii c) = true)
    (by decide +kernel)
    (isAscii_of_isNameChar (isNameChar_of_isNameStart h)) h

theorem isNameChar_lowerAscii
    {c : Char}
    (h : isNameChar c = true) :
    isNameChar (Character.lowerAscii c) = true :=
  Character.forall_ascii
    (P := fun c => isNameChar c = true →
      isNameChar (Character.lowerAscii c) = true)
    (by decide +kernel)
    (isAscii_of_isNameChar h) h

/- A name in lower case is a name. -/
theorem accepts_name_lower
    {t : Text}
    (h : name.accepts t = true) : name.accepts t.lower = true := by
  rw [Text.lower_of_isAscii (isAscii_of_accepts_name h)]
  rcases accepts_iff.1 h with ⟨c, rest, rfl, hStart, hRest⟩
  refine accepts_iff.2
    ⟨_, _, rfl, isNameStart_lowerAscii hStart, ?_⟩
  intro d hMem
  rcases List.mem_map.1 hMem with ⟨e, hIn, rfl⟩
  exact isNameChar_lowerAscii (hRest e hIn)

/- The characters of punctuation marks are no white space. -/
theorem not_isSpace_of_literal?
    {p : Pattern}
    {c : Char}
    (h : p.literal? = some c) :
    Character.isSpace c = false := by
  cases p <;> cases h <;> decide

/- White space starts no token. -/
theorem not_isSpace_of_starts
    {p : Pattern}
    {c : Char}
    (h : p.starts c = true) :
    Character.isSpace c = false := by
  cases p with
  | name =>
      have hBounds := isNameStart_bounds h
      apply Bool.eq_false_iff.2
      intro hSpace
      have hOther := isSpace_bounds hSpace
      omega
  | key =>
      have hKey : (!Character.isSpace c &&
          !keyStops.contains c) = true := h
      rw [Bool.and_eq_true, Bool.not_eq_true'] at hKey
      exact hKey.1
  | number =>
      have hBounds := isDigit_bounds h
      apply Bool.eq_false_iff.2
      intro hSpace
      have hOther := isSpace_bounds hSpace
      omega
  | _ => exact not_isSpace_of_literal? (eq_of_beq h)

/- White space continues no token. -/
theorem not_continues_of_isSpace
    {c : Char}
    (hSpace : Character.isSpace c = true)
    (p : Pattern) : p.continues c = false := by
  apply Bool.eq_false_iff.2
  intro h
  have hOther := isSpace_bounds hSpace
  cases p with
  | name =>
      have hBounds := isNameChar_bounds h
      omega
  | key =>
      have hNot := @not_isSpace_of_starts .key c h
      rw [hSpace] at hNot
      cases hNot
  | number =>
      have hBounds := isDigit_bounds h
      omega
  | _ => cases h

/- A text that begins with no character of the pattern stops it. -/
theorem stopsAt_cons
    {p : Pattern}
    {c : Char}
    {rest : Text}
    (h : p.continues c = false) : p.StopsAt (c :: rest) := by
  intro d hHead
  cases hHead
  exact h

/- White space and then such a text stop it, too. -/
theorem stopsAt_append
    {p : Pattern}
    {gap t : Text}
    (hGap : gap.isBlank = true)
    (h : p.StopsAt t) : p.StopsAt (gap ++ t) := by
  cases gap with
  | nil => exact h
  | cons c rest =>
      have hSpace : Character.isSpace c = true :=
        List.all_eq_true.1 hGap c List.mem_cons_self
      exact stopsAt_cons (not_continues_of_isSpace hSpace p)

------------------------------------------------------------
-- At Signs
------------------------------------------------------------

/- Another character is no at sign. -/
theorem lexeme?_atSign_of_ne
    {c : Char}
    {rest : Text}
    (h : '@' ≠ c) : atSign.lexeme? (c :: rest) = none := by
  apply if_neg
  intro hStart
  have hEq : some '@' = some c := eq_of_beq hStart
  exact h (Option.some.inj hEq)

/- In a text without at signs none is found. -/
theorem search?_atSign_of_not_mem
    {t : Text}
    (h : '@' ∉ t) : atSign.search? t = none := by
  induction t with
  | nil => rfl
  | cons c rest ih =>
      rw [List.mem_cons, not_or] at h
      rw [search?, lexeme?_atSign_of_ne h.1]
      simp [ih h.2]

/- The first at sign is found behind a text without any. -/
theorem search?_atSign
    {junk after : Text}
    (h : '@' ∉ junk) :
    atSign.search? (junk ++ '@' :: after) =
      some (junk, ['@'], after) := by
  induction junk with
  | nil =>
      have hLexeme :
          atSign.lexeme? ('@' :: after) = some (['@'], after) :=
        @lexeme?_append .atSign ['@'] after (by decide)
          (fun _ _ => rfl)
      rw [List.nil_append, search?, hLexeme]
  | cons c rest ih =>
      rw [List.mem_cons, not_or] at h
      rw [List.cons_append, search?, lexeme?_atSign_of_ne h.1]
      simp [ih h.2]

end Pattern

end Bibliography
