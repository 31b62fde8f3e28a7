import Bibliography.Proofs.Style.Notation
import Bibliography.Proofs.Text.Spacing

/-
  The reader of instructions accepts their notation.

  Layout and single items are settled first, each in both
  directions.  A text is then read along its derivation.  For the
  converse, what the blocks that are open still demand of a text is
  a predicate on the stack, and it is shown along the reader's own
  steps.

  Key definitions include:
    * `Instruction.Completes`

  Key statements include:
    * `Text.Layout.skipLayout`
    * `Text.exists_layout`
    * `Instruction.Renders.readFrom`
    * `Instruction.completes_of_readFrom`
    * `Instruction.parse_eq_ok_iff_renders`
-/

------------------------------------------------------------
-- Layout
------------------------------------------------------------

namespace Bibliography

namespace Text

theorem skipLayoutFrom_comment
    {body : Text}
    (hBody : '\n' ∉ body)
    (t : Text) :
    skipLayoutFrom true (body ++ t) = skipLayoutFrom true t := by
  induction body with
  | nil => rfl
  | cons c rest ih =>
      rw [List.mem_cons, not_or] at hBody
      have hOther : (c != '\n') = true :=
        bne_iff_ne.2 (Ne.symm hBody.1)
      rw [List.cons_append, skipLayoutFrom, hOther, ih hBody.2]

/- A line break ends a comment, and is white space. -/
theorem skipLayoutFrom_of_endsLine
    {t : Text}
    (h : EndsLine t) :
    skipLayoutFrom true t = skipLayoutFrom false t := by
  cases t with
  | nil => rfl
  | cons c rest =>
      rw [h c rfl]
      rfl

/- Layout is skipped, whatever follows it. -/
theorem Layout.skipLayout
    {rest layout : Text}
    (h : Layout rest layout) :
    Text.skipLayout (layout ++ rest) = Text.skipLayout rest := by
  induction h with
  | nil => rfl
  | space hSpace _ ih =>
      rw [← ih, Text.skipLayout, List.cons_append, skipLayoutFrom,
        if_pos hSpace]
      rfl
  | comment hBody hEnd _ ih =>
      rw [← ih, Text.skipLayout, List.cons_append, List.cons_append,
        List.append_assoc, skipLayoutFrom, if_neg (by decide),
        if_pos rfl, skipLayoutFrom_comment hBody,
        skipLayoutFrom_of_endsLine hEnd]
      rfl

/-
  What is skipped is layout.  Within a comment it is the rest of
  that comment, and then layout.  Each of the two needs the other
  for a shorter text.
-/
theorem exists_layoutFrom (t : Text) :
    (∃ layout,
      t = layout ++ skipLayoutFrom false t ∧
        Layout (skipLayoutFrom false t) layout) ∧
    (∃ body layout,
      t = body ++ (layout ++ skipLayoutFrom true t) ∧
        '\n' ∉ body ∧
        EndsLine (layout ++ skipLayoutFrom true t) ∧
        Layout (skipLayoutFrom true t) layout) := by
  induction t with
  | nil =>
      refine ⟨⟨[], rfl, .nil⟩, [], [], rfl, List.not_mem_nil, ?_, .nil⟩
      rintro c ⟨⟩
  | cons c rest ih =>
      rcases ih with
        ⟨⟨layout, hRest, hLayout⟩,
          body, inner, hComment, hBody, hEnd, hInner⟩
      constructor
      · rw [skipLayoutFrom]
        split
        · rename_i hSpace
          exact ⟨c :: layout, congrArg _ hRest, .space hSpace hLayout⟩
        · split
          · rename_i hPercent
            refine ⟨'%' :: body ++ inner, ?_,
              .comment hBody hEnd hInner⟩
            rw [hPercent, List.append_assoc, List.cons_append,
              ← hComment]
          · exact ⟨[], rfl, .nil⟩
      · by_cases hBreak : c = '\n'
        · subst hBreak
          refine ⟨[], '\n' :: layout, ?_, List.not_mem_nil, ?_, ?_⟩
          · exact congrArg _ hRest
          · rintro c ⟨⟩
            rfl
          · exact .space (by decide) hLayout
        · rw [skipLayoutFrom, bne_iff_ne.2 hBreak]
          refine ⟨c :: body, inner, congrArg _ hComment, ?_, hEnd,
            hInner⟩
          rw [List.mem_cons, not_or]
          exact ⟨Ne.symm hBreak, hBody⟩

theorem exists_layout
    {t u : Text}
    (h : skipLayout t = u) :
    ∃ layout, t = layout ++ u ∧ Layout u layout := by
  rw [← h]
  exact (exists_layoutFrom t).1

/- Layout does not go on where an item begins. -/
theorem skipLayout_cons
    {c : Char}
    (hSpace : Character.isSpace c = false)
    (hPercent : c ≠ '%')
    (rest : Text) : skipLayout (c :: rest) = c :: rest := by
  rw [skipLayout, skipLayoutFrom, hSpace, if_neg Bool.false_ne_true,
    if_neg hPercent]

theorem begins_of_skipLayoutFrom
    {t rest : Text}
    {inComment : Bool}
    {c : Char}
    (h : skipLayoutFrom inComment t = c :: rest) :
    Character.isSpace c = false ∧ c ≠ '%' := by
  induction t generalizing inComment with
  | nil => rw [skipLayoutFrom] at h; cases h
  | cons d more ih =>
      cases inComment with
      | true =>
          rw [skipLayoutFrom] at h
          exact ih h
      | false =>
          rw [skipLayoutFrom] at h
          split at h
          · exact ih h
          · split at h
            · exact ih h
            · rename_i hSpace hPercent
              cases h
              exact ⟨Bool.not_eq_true _ ▸ hSpace, hPercent⟩

end Text

------------------------------------------------------------
-- Runs of Characters
------------------------------------------------------------

namespace Instruction

theorem takeWhile_append_of_ends
    {p : Char → Bool}
    {run rest : Text}
    (hRun : ∀ c ∈ run, p c = true)
    (hEnd : ∀ c ∈ rest.head?, p c = false) :
    (run ++ rest).takeWhile p = run := by
  rw [List.takeWhile_append_of_pos hRun]
  cases rest with
  | nil => simp
  | cons c more => simp [hEnd c rfl]

theorem dropWhile_append_of_ends
    {p : Char → Bool}
    {run rest : Text}
    (hRun : ∀ c ∈ run, p c = true)
    (hEnd : ∀ c ∈ rest.head?, p c = false) :
    (run ++ rest).dropWhile p = rest := by
  rw [List.dropWhile_append_of_pos hRun]
  cases rest with
  | nil => rfl
  | cons c more => simp [hEnd c rfl]

theorem isName_takeWhile
    {t : Text}
    (h : t.takeWhile isNameChar ≠ []) :
    IsName (t.takeWhile isNameChar) where
  nonempty := h
  chars := List.all_eq_true.1 List.all_takeWhile

theorem endsName_dropWhile (t : Text) :
    EndsName (t.dropWhile isNameChar) := by
  intro c hHead
  have hNot := List.head?_dropWhile_not isNameChar t
  rw [Option.mem_def.1 hHead] at hNot
  simpa using hNot

/- A text up to its first quote. -/
theorem eq_of_dropWhile_quote
    {t after : Text}
    {d : Char}
    (h : t.dropWhile (fun c => c != '"') = d :: after) :
    t = t.takeWhile (fun c => c != '"') ++ '"' :: after ∧
      '"' ∉ t.takeWhile (fun c => c != '"') := by
  have hParts :=
    @List.takeWhile_append_dropWhile _ (fun c => c != '"') t
  have hFirst := List.head?_dropWhile_not (fun c => c != '"') t
  rw [h] at hParts hFirst
  have hQuote : d = '"' := by simpa using hFirst
  rw [hQuote] at hParts
  refine ⟨hParts.symm, fun hMem => ?_⟩
  have hOther := List.all_eq_true.1
    (@List.all_takeWhile _ (fun c => c != '"') t) _ hMem
  cases hOther

------------------------------------------------------------
-- Items
------------------------------------------------------------

/- The first character of an item that is not a brace. -/
structure Begins (c : Char) : Prop where
  notSpace : Character.isSpace c = false
  notPercent : c ≠ '%'
  notOpener : c ≠ '{'
  notCloser : c ≠ '}'

theorem begins_of_isNameChar
    {c : Char}
    (h : isNameChar c = true) : Begins c ∧ c ≠ '"' := by
  simp only [isNameChar, Bool.and_eq_true, Bool.not_eq_true',
    bne_iff_ne] at h
  rcases h with ⟨⟨⟨⟨hSpace, hOpener⟩, hCloser⟩, hQuote⟩, hPercent⟩
  exact ⟨⟨hSpace, hPercent, hOpener, hCloser⟩, hQuote⟩

theorem isNameChar_of_begins
    {c : Char}
    (h : Begins c)
    (hQuote : c ≠ '"') : isNameChar c = true := by
  simp [isNameChar, h.notSpace, h.notPercent, h.notOpener,
    h.notCloser, hQuote]

theorem isNameChar_of_spells
    {literal : Text}
    {n : Int}
    (h : literal.Spells n) : ∀ c ∈ literal, isNameChar c = true := by
  intro c hMem
  refine isNameChar_of_not_mem_reserved (fun hReserved => ?_)
  have hOutside : ∀ n ∈ reserved,
      ¬ (48 ≤ n ∧ n ≤ 57) ∧ n ≠ '+'.toNat ∧ n ≠ '-'.toNat := by
    decide
  rcases hOutside _ hReserved with ⟨hNoDigit, hNoPlus, hNoMinus⟩
  rcases h.forall_mem c hMem with hDigit | rfl | rfl
  · rw [Char.isDigit, Bool.and_eq_true, decide_eq_true_eq,
      decide_eq_true_eq] at hDigit
    exact hNoDigit hDigit
  · exact hNoPlus rfl
  · exact hNoMinus rfl

/- An instruction that is written is read. -/
theorem Writes.nextItem
    {rest item : Text}
    {i : Instruction}
    (h : Writes rest i item) :
    ∃ c more, item = c :: more ∧ Begins c ∧
      Instruction.nextItem c (more ++ rest) = .ok (.leaf i, rest) := by
  cases h with
  | @string text hText =>
      refine ⟨'"', text ++ ['"'], rfl, by constructor <;> decide, ?_⟩
      have hRun : ∀ c ∈ text, (c != '"') = true := by
        intro c hMem
        exact bne_iff_ne.2 (fun hQuote => hText (hQuote ▸ hMem))
      have hEnd : ∀ c ∈ ('"' :: rest : Text).head?,
          (c != '"') = false := by
        rintro c ⟨⟩
        rfl
      rw [Instruction.nextItem, if_neg (by decide), if_neg (by decide),
        if_pos rfl, List.append_assoc, List.singleton_append,
        dropWhile_append_of_ends hRun hEnd,
        takeWhile_append_of_ends hRun hEnd]
  | @integer n literal hLiteral hEnd =>
      refine ⟨'#', literal, rfl, by constructor <;> decide, ?_⟩
      have hRun := isNameChar_of_spells hLiteral
      rw [Instruction.nextItem, if_neg (by decide), if_neg (by decide),
        if_neg (by decide), if_pos rfl,
        takeWhile_append_of_ends hRun hEnd,
        dropWhile_append_of_ends hRun hEnd,
        Text.parseInteger?_eq_some_iff.2 hLiteral]
  | @quoted name hName hEnd =>
      refine ⟨'\x27', name, rfl, by constructor <;> decide, ?_⟩
      have hFull : ¬ name.isEmpty = true := by
        rw [List.isEmpty_iff]
        exact hName.nonempty
      rw [Instruction.nextItem, if_neg (by decide), if_neg (by decide),
        if_neg (by decide), if_neg (by decide), if_pos rfl,
        takeWhile_append_of_ends hName.chars hEnd,
        dropWhile_append_of_ends hName.chars hEnd, if_neg hFull]
  | call hName hEnd =>
      cases item with
      | nil => exact absurd rfl hName.nonempty
      | cons c more =>
          rcases List.forall_mem_cons.1 hName.chars with
            ⟨hFirst, hMore⟩
          rcases begins_of_isNameChar hFirst with ⟨hBegins, hQuote⟩
          rcases hName.first c rfl with ⟨hHash, hApostrophe⟩
          refine ⟨c, more, rfl, hBegins, ?_⟩
          rw [Instruction.nextItem, if_neg hBegins.notOpener,
            if_neg hBegins.notCloser, if_neg hQuote, if_neg hHash,
            if_neg hApostrophe, takeWhile_append_of_ends hMore hEnd,
            dropWhile_append_of_ends hMore hEnd]

/- An instruction that is read is written. -/
theorem writes_of_nextItem
    {c : Char}
    {rest after : Text}
    {i : Instruction}
    (h : nextItem c rest = .ok (.leaf i, after))
    (hSpace : Character.isSpace c = false)
    (hPercent : c ≠ '%') :
    ∃ more, rest = more ++ after ∧ Writes after i (c :: more) := by
  have hName := @List.takeWhile_append_dropWhile _ isNameChar rest
  have hEnd := endsName_dropWhile rest
  -- one case for each first character, in the order of the reader
  rw [nextItem] at h
  split at h
  · cases h
  rename_i hOpener
  split at h
  · cases h
  rename_i hCloser
  have hBegins : Begins c := ⟨hSpace, hPercent, hOpener, hCloser⟩
  split at h
  · rename_i hQuote
    split at h
    · cases h
    · rename_i hDrop
      rcases eq_of_dropWhile_quote hDrop with ⟨hText, hNone⟩
      cases h
      refine ⟨rest.takeWhile (fun d => d != '"') ++ ['"'], ?_, ?_⟩
      · rw [List.append_assoc, List.singleton_append, ← hText]
      · rw [hQuote]
        exact .string hNone
  rename_i hQuote
  split at h
  · rename_i hHash
    split at h
    · cases h
    · rename_i n hLiteral
      cases h
      refine ⟨rest.takeWhile isNameChar, hName.symm, ?_⟩
      rw [hHash]
      exact .integer (Text.parseInteger?_eq_some_iff.1 hLiteral) hEnd
  rename_i hHash
  split at h
  · rename_i hApostrophe
    split at h
    · cases h
    · rename_i hFull
      cases h
      refine ⟨rest.takeWhile isNameChar, hName.symm, ?_⟩
      rw [hApostrophe]
      refine .quoted (isName_takeWhile (fun hEmpty => hFull ?_)) hEnd
      rw [hEmpty]
      rfl
  · rename_i hApostrophe
    cases h
    refine ⟨rest.takeWhile isNameChar, hName.symm, .call ?_ hEnd⟩
    refine ⟨⟨List.cons_ne_nil _ _, ?_⟩, ?_⟩
    · exact List.forall_mem_cons.2
        ⟨isNameChar_of_begins hBegins hQuote,
          List.all_eq_true.1 List.all_takeWhile⟩
    · rintro d ⟨⟩
      exact ⟨hHash, hApostrophe⟩

/- A brace that is read is the first character. -/
theorem eq_of_nextItem_opener
    {c : Char}
    {rest after : Text}
    (h : nextItem c rest = .ok (.opener, after)) :
    c = '{' ∧ rest = after := by
  rw [nextItem] at h
  split at h
  · rename_i hOpener
    cases h
    exact ⟨hOpener, rfl⟩
  · repeat' split at h
    all_goals cases h

theorem eq_of_nextItem_closer
    {c : Char}
    {rest after : Text}
    (h : nextItem c rest = .ok (.closer, after)) :
    c = '}' ∧ rest = after := by
  rw [nextItem] at h
  split at h
  · cases h
  split at h
  · rename_i hCloser
    cases h
    exact ⟨hCloser, rfl⟩
  · repeat' split at h
    all_goals cases h

------------------------------------------------------------
-- Steps of the Reader
------------------------------------------------------------

variable {stack : List OpenBlock}
variable {code : List Instruction}

theorem readFrom_nil
    {t : Text}
    (h : t.skipLayout = []) : readFrom [] code t = .ok code := by
  rw [readFrom]
  split
  · rfl
  · rename_i hSkip
    rw [h] at hSkip
    cases hSkip

/- Layout before the text that is read makes no difference. -/
theorem readFrom_congr
    {t u : Text}
    (h : t.skipLayout = u.skipLayout) :
    readFrom stack code t = readFrom stack code u := by
  rw [readFrom.eq_def _ _ t, readFrom.eq_def _ _ u, h]

theorem readFrom_item
    {t rest after : Text}
    {c : Char}
    {item : Item}
    (hSkip : t.skipLayout = c :: rest)
    (hItem : nextItem c rest = .ok (item, after)) :
    readFrom stack code t =
      match (item, stack) with
      | (.opener, _) => readFrom (⟨c :: rest, code⟩ :: stack) [] after
      | (.closer, []) => .error (.unopened (c :: rest))
      | (.closer, innermost :: outer) =>
          readFrom outer (innermost.before ++ [.block code]) after
      | (.leaf i, _) => readFrom stack (code ++ [i]) after := by
  rw [readFrom.eq_def stack code t]
  split
  · rename_i hOther
    rw [hSkip] at hOther
    cases hOther
  · rename_i hOther
    rw [hSkip] at hOther
    cases hOther
    split <;> (rename_i hRead; rw [hItem] at hRead; cases hRead)
    · rfl
    · cases stack <;> rfl
    · rfl

------------------------------------------------------------
-- Reading What Is Written
------------------------------------------------------------

theorem readFrom_layout
    {rest layout : Text}
    (h : Text.Layout rest layout) :
    readFrom stack code (layout ++ rest) = readFrom stack code rest :=
  readFrom_congr h.skipLayout

/- A rendering is read, and the reader goes on behind it. -/
theorem Renders.readFrom
    {rest t : Text}
    {body : List Instruction}
    (h : Renders rest body t) :
    Instruction.readFrom stack code (t ++ rest) =
      Instruction.readFrom stack (code ++ body) rest := by
  induction h generalizing stack code with
  | done hLayout => rw [readFrom_layout hLayout, List.append_nil]
  | @leaf rest layout item more i code' hLayout hItem _ ih =>
      rcases hItem.nextItem with ⟨c, tail, rfl, hBegins, hRead⟩
      have hSkip := Text.skipLayout_cons hBegins.notSpace
        hBegins.notPercent
      calc Instruction.readFrom stack code
            (layout ++ (c :: tail ++ more) ++ rest)
          = Instruction.readFrom stack code
              (c :: (tail ++ (more ++ rest))) := by
            rw [List.append_assoc, List.append_assoc]
            exact readFrom_layout hLayout
        _ = Instruction.readFrom stack (code ++ [i]) (more ++ rest) :=
            readFrom_item (hSkip _) hRead
        _ = Instruction.readFrom stack (code ++ i :: code') rest := by
            rw [ih, List.append_assoc, List.singleton_append]
  | @block rest layout inner more body code' hLayout _ _ ihBody
      ihMore =>
      have hOpener : ∀ t, nextItem '{' t = .ok (.opener, t) :=
        fun _ => rfl
      have hCloser : ∀ t, nextItem '}' t = .ok (.closer, t) :=
        fun _ => rfl
      have hSkip : ∀ t, Text.skipLayout ('{' :: t) = '{' :: t :=
        Text.skipLayout_cons (by decide) (by decide)
      have hEnd : ∀ t, Text.skipLayout ('}' :: t) = '}' :: t :=
        Text.skipLayout_cons (by decide) (by decide)
      calc Instruction.readFrom stack code
            (layout ++ ('{' :: inner ++ '}' :: more) ++ rest)
          = Instruction.readFrom stack code
              ('{' :: (inner ++ '}' :: (more ++ rest))) := by
            rw [List.append_assoc, List.append_assoc,
              List.cons_append, List.cons_append]
            exact readFrom_layout hLayout
        _ = Instruction.readFrom (⟨_, code⟩ :: stack) []
              (inner ++ '}' :: (more ++ rest)) :=
            readFrom_item (hSkip _) (hOpener _)
        _ = Instruction.readFrom (⟨_, code⟩ :: stack) ([] ++ body)
              ('}' :: (more ++ rest)) := ihBody
        _ = Instruction.readFrom stack (code ++ [.block body])
              (more ++ rest) :=
            readFrom_item (hEnd _) (hCloser _)
        _ = Instruction.readFrom stack (code ++ .block body :: code')
              rest := by
            rw [ihMore, List.append_assoc, List.singleton_append]

------------------------------------------------------------
-- Writing What Is Read
------------------------------------------------------------

/-
  What open blocks demand of the text that is left, if `result` is
  to come out: the rest of the innermost block, its brace, and what
  the blocks around it demand.
-/
def Completes
    (result : List Instruction) :
    List OpenBlock → List Instruction → Text → Prop
  | [], code, t =>
      ∃ more, result = code ++ more ∧ Renders [] more t
  | innermost :: outer, code, t =>
      ∃ body inner after,
        t = inner ++ '}' :: after ∧
          Renders ('}' :: after) body inner ∧
          Completes result outer
            (innermost.before ++ [.block (code ++ body)]) after

/- One instruction more, in front of what is left. -/
theorem Completes.prepend
    {result : List Instruction}
    {i : Instruction}
    {after : Text}
    (written : Text)
    (h : Completes result stack (code ++ [i]) after)
    (hWritten : ∀ rest more body,
      after = more ++ rest → Renders rest body more →
        Renders rest (i :: body) (written ++ more)) :
    Completes result stack code (written ++ after) := by
  cases stack with
  | nil =>
      rcases h with ⟨more, rfl, hMore⟩
      refine ⟨i :: more, by simp, ?_⟩
      exact hWritten [] after more (List.append_nil _).symm hMore
  | cons innermost outer =>
      rcases h with ⟨body, inner, rest, rfl, hBody, hOuter⟩
      refine ⟨i :: body, written ++ inner, rest, ?_, ?_, ?_⟩
      · rw [List.append_assoc]
      · exact hWritten _ inner body rfl hBody
      · simpa using hOuter

/- What the reader accepts is what its stack demands. -/
theorem completes_of_readFrom
    {result : List Instruction}
    {t : Text}
    (h : readFrom stack code t = .ok result) :
    Completes result stack code t := by
  fun_induction readFrom stack code t with
  | case1 code t hSkip =>
      cases h
      rcases Text.exists_layout hSkip with ⟨layout, rfl, hLayout⟩
      refine ⟨[], (List.append_nil _).symm, ?_⟩
      rw [List.append_nil]
      exact .done hLayout
  | case2 => cases h
  | case3 => cases h
  | case4 stack code t c rest hSkip after hItem ih =>
      rcases Text.exists_layout hSkip with ⟨layout, rfl, hLayout⟩
      rcases eq_of_nextItem_opener hItem with ⟨rfl, rfl⟩
      rcases ih h with ⟨body, inner, after, rfl, hBody, hOuter⟩
      have hAfter :=
        hOuter.prepend (layout ++ ('{' :: inner ++ ['}'])) ?_
      · simpa using hAfter
      · rintro rest more code' rfl hMore
        simpa using Renders.block hLayout hBody hMore
  | case5 => cases h
  | case6 code t c rest hSkip after hItem innermost outer ih =>
      rcases Text.exists_layout hSkip with ⟨layout, rfl, hLayout⟩
      rcases eq_of_nextItem_closer hItem with ⟨rfl, rfl⟩
      refine ⟨[], layout, rest, rfl, .done hLayout, ?_⟩
      rw [List.append_nil]
      exact ih h
  | case7 stack code t c rest hSkip i after hItem ih =>
      rcases Text.exists_layout hSkip with ⟨layout, rfl, hLayout⟩
      rcases Text.begins_of_skipLayoutFrom hSkip with
        ⟨hSpace, hPercent⟩
      rcases writes_of_nextItem hItem hSpace hPercent with
        ⟨tail, rfl, hWrites⟩
      have hAfter := (ih h).prepend (layout ++ c :: tail) ?_
      · simpa using hAfter
      · rintro rest more code' rfl hMore
        simpa using Renders.leaf hLayout hWrites hMore

------------------------------------------------------------
-- The Accepted Texts
------------------------------------------------------------

theorem parse_eq_ok_iff
    {source : Text} :
    parse source = .ok code ↔ readFrom [] [] source = .ok code := by
  rw [parse]
  cases readFrom [] [] source with
  | error fault =>
      constructor
      · rintro ⟨⟩
      · rintro ⟨⟩
  | ok result =>
      constructor
      · rintro ⟨⟩
        rfl
      · rintro ⟨⟩
        rfl

theorem readFrom_eq_ok_iff
    {source : Text} :
    readFrom [] [] source = .ok code ↔ Renders [] code source := by
  constructor
  · intro h
    rcases completes_of_readFrom h with ⟨more, hResult, hRenders⟩
    rw [hResult]
    exact hRenders
  · intro h
    have hRead : readFrom [] [] (source ++ []) = readFrom [] code [] :=
      h.readFrom
    rw [List.append_nil] at hRead
    rw [hRead]
    exact readFrom_nil rfl

/- The blank before a body is all that sets it apart from code. -/
theorem renderBody_cons
    (i : Instruction)
    (rest : List Instruction) :
    renderBody (i :: rest) = ' ' :: renderAll (i :: rest) := by
  induction rest generalizing i with
  | nil => simp [renderBody, renderAll, Text.unwords]
  | cons j more ih =>
      rw [renderBody, ih]
      simp only [renderAll, Text.unwords, List.map_cons,
        Text.join_cons_cons]
      rfl

theorem skipLayout_renderBody (code : List Instruction) :
    (renderBody code).skipLayout = (renderAll code).skipLayout := by
  cases code with
  | nil => rfl
  | cons i rest =>
      rw [renderBody_cons]
      rfl

/- A block and a call, and a string. -/
def sample : List Instruction :=
  [.block [.integer 7, .quoted "skip$".toList],
    .call "write$".toList, .string "a".toList]

/- They are written with a comment and little white space. -/
def sampleSource : Text :=
  "\x7b #+07 \x27Skip$\x7d% go\nWrite$\"a\"".toList

/-
  The reader accepts the renderings of instructions, and no other
  text.  What it accepts is read again from its own text.
-/
theorem parse_eq_ok_iff_renders
    (source : Text)
    (code : List Instruction) :
    (parse source = .ok code ↔ Renders [] code source) ∧
      (parse source = .ok code →
        parse (renderAll code) = .ok code) := by
  refine ⟨parse_eq_ok_iff.trans readFrom_eq_ok_iff, fun h => ?_⟩
  have hRenders := readFrom_eq_ok_iff.1 (parse_eq_ok_iff.1 h)
  have hBody : Renders [] code (renderBody code ++ []) :=
    hRenders.renderBody .nil (by rintro c ⟨⟩)
  rw [List.append_nil] at hBody
  rw [parse_eq_ok_iff, ← readFrom_congr (skipLayout_renderBody code)]
  exact readFrom_eq_ok_iff.2 hBody

theorem parse_eq_ok_iff_renders_sample :
    parse sampleSource = .ok sample ∧
      parse (renderAll sample) = .ok sample := by
  have hResult : (parse sampleSource).toOption = some sample := by
    decide +kernel
  have hParse : parse sampleSource = .ok sample := by
    cases hRead : parse sampleSource with
    | error e =>
        rw [hRead] at hResult
        cases hResult
    | ok code =>
        rw [hRead] at hResult
        exact congrArg Except.ok (Option.some.inj hResult)
  exact ⟨hParse, (parse_eq_ok_iff_renders _ _).2 hParse⟩

end Instruction

end Bibliography
