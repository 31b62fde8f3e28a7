import Bibliography.Proofs.Person.Words
import Bibliography.Proofs.Text.Groups

/-
  Patterns of balanced text.

  In a balanced pattern each group ends where its own brace closes
  it, so a pattern behind it is read on its own.  What a group
  writes is put together from texts that are cut at depth zero:
  what stands before and after its letters, the separator that it
  gives, and words in full or abbreviated.

  Key statements include:
    * `Person.format_append`
    * `Person.isBalanced_formatGroup`
    * `Person.format_composes`
-/

------------------------------------------------------------
-- One Group after Another
------------------------------------------------------------

namespace Bibliography

namespace Person

variable {p : Person}

theorem format_cons
    {c : Char}
    (h : Text.isBrace c = false)
    (t : Text) : p.format (c :: t) = c :: p.format t := by
  have hOpen : c ≠ '{' := by
    rintro rfl
    cases h
  rw [format, if_neg hOpen]

theorem format_group
    {inner : Text}
    (h : inner.isBalanced = true)
    (after : Text) :
    p.format ('{' :: (inner ++ '}' :: after)) =
      p.formatGroup inner ++ p.format after := by
  rw [format, if_pos rfl, Text.closeGroup_append h]

/- A balanced pattern is laid out whatever follows it. -/
theorem format_append
    {a : Text}
    (h : a.isBalanced = true)
    (b : Text) : p.format (a ++ b) = p.format a ++ p.format b := by
  induction a, h using Text.isBalanced_induction with
  | nil =>
      rw [format]
      rfl
  | plain c t hBrace _ ih =>
      rw [List.cons_append, format_cons hBrace, ih,
        format_cons hBrace, List.cons_append]
  | group inner after hInner _ _ ih =>
      rw [List.cons_append, List.append_assoc, List.cons_append,
        format_group hInner, ih, format_group hInner,
        List.append_assoc]

------------------------------------------------------------
-- The Text of a Group
------------------------------------------------------------

/- Part letters are no braces. -/
theorem not_isBrace_of_ofLetter?
    {c : Char}
    {part : NamePart}
    (h : NamePart.ofLetter? c = some part) :
    Text.isBrace c = false := by
  refine Text.not_isBrace_of_ne ?_ ?_
  · rintro rfl
    cases h
  · rintro rfl
    cases h

/-
  A group is cut around a letter at depth zero, so both sides are
  balanced if the group is.
-/
theorem balancedFrom_of_cutLetter?
    {depth : Nat}
    {t before after : Text}
    {letter : Char}
    {part : NamePart}
    (h : cutLetter? depth t = some (before, letter, part, after))
    (hBalanced : Text.balancedFrom depth t = true) :
    Text.balancedFrom depth before = true ∧
      after.isBalanced = true ∧ Text.isBrace letter = false := by
  fun_induction cutLetter? depth t generalizing before with
  | case1 => cases h
  | case2 c rest part' hLetter =>
      have hBrace := not_isBrace_of_ofLetter? hLetter
      have hRest := (Text.balancedFrom_cons.1 hBalanced).2
      cases h
      rw [Text.nest_of_not_isBrace hBrace] at hRest
      exact ⟨rfl, hRest, hBrace⟩
  | case3 depth c rest hCut hOther ih =>
      rw [hCut] at h
      cases h
  | case4 depth c rest before' letter' part' after' hCut hOther ih =>
      rcases Text.balancedFrom_cons.1 hBalanced with ⟨hOpen, hRest⟩
      rw [hCut] at h
      cases h
      rcases ih hCut hRest with ⟨hBefore, hAfter, hLetter⟩
      exact ⟨Text.balancedFrom_cons.2 ⟨hOpen, hBefore⟩,
        hAfter, hLetter⟩

/- What stands behind the letters is balanced like the group. -/
theorem isBalanced_tail
    {letter : Char}
    {t : Text}
    (hLetter : Text.isBrace letter = false)
    (h : t.isBalanced = true) :
    Text.isBalanced
      (if t.head? == some letter then t.tail else t) = true := by
  cases t with
  | nil => rfl
  | cons c rest =>
      by_cases hSame : c = letter
      · rw [hSame] at h ⊢
        rw [List.head?_cons, beq_self_eq_true, if_pos rfl,
          List.tail_cons]
        exact (Text.isBalanced_cons_iff hLetter).1 h
      · have hDiffer : ((c :: rest).head? == some letter) = false := by
          simpa using hSame
        rw [hDiffer]
        exact h

/- A separator is a whole group. -/
theorem isBalanced_takeSeparator
    {t : Text}
    (h : t.isBalanced = true) :
    (∀ s ∈ (takeSeparator t).1, s.isBalanced = true) ∧
      (takeSeparator t).2.isBalanced = true := by
  cases t with
  | nil => simp [takeSeparator]
  | cons c rest =>
      rw [takeSeparator]
      by_cases hOpen : c = '{'
      · subst hOpen
        rcases Text.exists_group h with
          ⟨inner, after, rfl, hInner, hAfter⟩
        rw [if_pos rfl, Text.closeGroup_append hInner]
        exact ⟨by simpa using hInner, hAfter⟩
      · rw [if_neg hOpen]
        exact ⟨by simp, h⟩

theorem isBalanced_showWord
    {w : Text}
    (full : Bool)
    (h : w.isBalanced = true) :
    (showWord full w).isBalanced = true := by
  cases full with
  | true => exact h
  | false => exact Text.isBalanced_abbreviate h

theorem isBalanced_defaultGap
    (full : Bool)
    (shown : Text)
    (beforeFinal : Bool) :
    (defaultGap full shown beforeFinal).isBalanced = true := by
  by_cases hTie : (beforeFinal || decide (shown.length < 3)) = true
  · rw [defaultGap, if_pos hTie]
    cases full <;> decide
  · rw [defaultGap, if_neg hTie]
    cases full <;> decide

theorem joinWords_cons_cons
    (full : Bool)
    (separator : Option Text)
    (w u : Text)
    (more : List Text) :
    joinWords full separator (w :: u :: more) =
      showWord full w ++
        separator.getD
          (defaultGap full (showWord full w) more.isEmpty) ++
        joinWords full separator (u :: more) := by
  cases separator <;> rfl

/- Words are written with balanced texts between them. -/
theorem isBalanced_joinWords
    (full : Bool)
    {separator : Option Text}
    {ws : List Text}
    (hSeparator : ∀ s ∈ separator, s.isBalanced = true)
    (hWords : ∀ w ∈ ws, w.isBalanced = true) :
    (joinWords full separator ws).isBalanced = true := by
  induction ws with
  | nil => rfl
  | cons w rest ih =>
      rcases List.forall_mem_cons.1 hWords with ⟨hFirst, hRest⟩
      have hShown := isBalanced_showWord full hFirst
      cases rest with
      | nil => exact hShown
      | cons u more =>
          rw [joinWords_cons_cons]
          refine Text.isBalanced_append
            (Text.isBalanced_append hShown ?_) (ih hRest)
          cases separator with
          | none => exact isBalanced_defaultGap _ _ _
          | some s => exact hSeparator s rfl

/- The words of a part are words of the person. -/
theorem IsBalanced.wordsOf
    (h : p.IsBalanced)
    (part : NamePart) :
    ∀ w ∈ p.wordsOf part, w.isBalanced = true := by
  intro w hMem
  refine h w ?_
  rw [words, given, family]
  cases part with
  | given => exact List.mem_append_left _ (List.mem_append_left _ hMem)
  | von =>
      exact List.mem_append_left _ (List.mem_append_right _
        (List.mem_append_left _ hMem))
  | last =>
      exact List.mem_append_left _ (List.mem_append_right _
        (List.mem_append_right _ hMem))
  | lineage => exact List.mem_append_right _ hMem

/- A balanced group writes balanced text. -/
theorem isBalanced_formatGroup
    {group : Text}
    (hPerson : p.IsBalanced)
    (h : group.isBalanced = true) :
    (p.formatGroup group).isBalanced = true := by
  unfold formatGroup
  split
  · exact h
  · rename_i before letter part rest hCut
    rcases balancedFrom_of_cutLetter? hCut h with
      ⟨hBefore, hRest, hLetter⟩
    rcases isBalanced_takeSeparator (isBalanced_tail hLetter hRest)
      with ⟨hSeparator, hAfter⟩
    dsimp only
    split
    · rfl
    · exact Text.isBalanced_append
        (Text.isBalanced_append hBefore
          (isBalanced_joinWords _ hSeparator (hPerson.wordsOf part)))
        hAfter

/- A balanced pattern writes balanced text. -/
theorem isBalanced_format
    {pattern : Text}
    (hPerson : p.IsBalanced)
    (h : pattern.isBalanced = true) :
    (p.format pattern).isBalanced = true := by
  induction pattern, h using Text.isBalanced_induction with
  | nil =>
      rw [format]
      rfl
  | plain c t hBrace _ ih =>
      rw [format_cons hBrace]
      exact (Text.isBalanced_cons_iff hBrace).2 ih
  | group inner after hInner _ _ ih =>
      rw [format_group hInner]
      exact Text.isBalanced_append
        (isBalanced_formatGroup hPerson hInner) ih

/-
  A balanced pattern is laid out on its own, whatever pattern
  follows it, and a person of balanced words, such as any that is
  read from a balanced name, gives it a balanced text.
-/
theorem format_composes
    {a : Text}
    (h : a.isBalanced = true) :
    (∀ (p : Person) (b : Text),
      p.format (a ++ b) = p.format a ++ p.format b) ∧
      (∀ p : Person, p.IsBalanced →
        (p.format a).isBalanced = true) ∧
      ∀ (name : Text) (p : Person), name.isBalanced = true →
        parse name = .ok p → p.IsBalanced := by
  refine ⟨fun _ b => format_append h b,
    fun _ hPerson => isBalanced_format hPerson h, ?_⟩
  intro name p hName hParse
  exact (isWellFormed_of_parse hName hParse).isBalanced

/- A name whose given name begins with a group. -/
def groupedName : Text :=
  "von der R\x7b\\o\x7dmer, \x7b\\O\x7dle B.".toList

/- Short words with a separator, and the last name in full. -/
def familyPattern : Text :=
  "<\x7bv\x7b\x7b-\x7d\x7d. \x7d\x7bll\x7d".toList

/- Given names after a comma, and a group without a letter. -/
def givenPattern : Text :=
  "\x7b, f.\x7d\x7b!\x7d>".toList

theorem format_composes_groupedName :
    familyPattern.isBalanced = true ∧
      ∃ p, parse groupedName = .ok p ∧ p.IsBalanced ∧
        p.format (familyPattern ++ givenPattern) =
          p.format familyPattern ++ p.format givenPattern ∧
        (p.format familyPattern).isBalanced = true ∧
        p.format familyPattern =
          "<v\x7b-\x7dd. R\x7b\\o\x7dmer".toList ∧
        p.format givenPattern = ", \x7b\\O\x7d.~B.!>".toList := by
  have hPattern : familyPattern.isBalanced = true := by
    decide +kernel
  have hName : groupedName.isBalanced = true := by decide +kernel
  have hParse : parse groupedName = .ok (read groupedName) :=
    parse_eq_ok (by decide +kernel)
  rcases format_composes hPattern with
    ⟨hAppend, hBalanced, hPersons⟩
  have hPerson := hPersons groupedName _ hName hParse
  refine ⟨hPattern, read groupedName, hParse, hPerson,
    hAppend _ givenPattern, hBalanced _ hPerson, ?_, ?_⟩
  · decide +kernel
  · decide +kernel

end Person

end Bibliography
