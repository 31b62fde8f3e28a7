import Bibliography.Database.Record
import Bibliography.Proofs.Database.Token

/-
  What the reading steps do to the text that is still to be read.

  A step is described by the value that it ends with and by the
  text that it leaves; where the text stands in its source shows
  in locations only.

  Key definitions include:
    * `Scanned.Reads`
    * `Scanned.Ensures`
    * `Token.Is`
    * `Scanner.Faces`

  Key statements include:
    * `Scanner.nextToken_cons`
    * `Scanner.reads_require`
    * `Scanner.readParts_eq`
    * `Scanner.readFields_eq`
-/

------------------------------------------------------------
-- Outcomes of Steps
------------------------------------------------------------

namespace Bibliography

namespace Scanned

variable {α β : Type}

/- A step ends with a value of a class and leaves a text. -/
def Reads
    (step : Scanned α)
    (P : α → Prop)
    (rest : Text) : Prop :=
  ∃ a s, step = (.ok a, s) ∧ P a ∧ s.rest = rest

theorem andThen_ok
    (a : α)
    (s : Scanner)
    (next : α → Scanner → Scanned β) :
    andThen (.ok a, s) next = next a s := rfl

/- One step after another. -/
theorem Reads.andThen
    {step : Scanned α}
    {next : α → Scanner → Scanned β}
    {P : α → Prop}
    {Q : β → Prop}
    {middle rest : Text}
    (hStep : step.Reads P middle)
    (hNext : ∀ a s, P a → s.rest = middle →
      (next a s).Reads Q rest) :
    (step.andThen next).Reads Q rest := by
  rcases hStep with ⟨a, s, rfl, hValue, hRest⟩
  exact hNext a s hValue hRest

/- A step that ends at once. -/
theorem reads_ok
    {P : α → Prop}
    {a : α}
    {s : Scanner}
    {rest : Text}
    (hValue : P a)
    (hRest : s.rest = rest) :
    Reads (.ok a, s) P rest :=
  ⟨a, s, rfl, hValue, hRest⟩

/- If a step succeeds, its value is of a class. -/
def Ensures
    (step : Scanned α)
    (P : α → Prop) : Prop :=
  ∀ a, step.1 = .ok a → P a

/- What the second step ensures after any value of the first. -/
theorem Ensures.andThen
    {step : Scanned α}
    {next : α → Scanner → Scanned β}
    {P : α → Prop}
    {Q : β → Prop}
    (hStep : step.Ensures P)
    (hNext : ∀ a s, P a → (next a s).Ensures Q) :
    (step.andThen next).Ensures Q := by
  rcases step with ⟨result, s⟩
  cases result with
  | error e =>
      intro b hOk
      cases hOk
  | ok a => exact hNext a s (hStep a rfl)

theorem ensures_ok
    {P : α → Prop}
    {a : α}
    (s : Scanner)
    (h : P a) : Ensures (.ok a, s) P := by
  intro b hOk
  cases hOk
  exact h

theorem ensures_error
    (P : α → Prop)
    (e : Error)
    (s : Scanner) : Ensures (.error e, s) P := by
  intro b hOk
  cases hOk

end Scanned

namespace Token

/- The token has a pattern and a text, wherever it stands. -/
def Is
    (p : Pattern)
    (text : Text)
    (t : Token) : Prop :=
  t.pattern = p ∧ t.text = text

end Token

------------------------------------------------------------
-- Tokens
------------------------------------------------------------

namespace Scanner

/- What is behind a run is the text without it. -/
theorem drop_length_takeWhile
    (p : Char → Bool)
    (t : Text) :
    t.drop (t.takeWhile p).length = t.dropWhile p := by
  have hParts := @List.takeWhile_append_dropWhile _ p t
  calc t.drop (t.takeWhile p).length
      = (t.takeWhile p ++ t.dropWhile p).drop
          (t.takeWhile p).length := by rw [hParts]
    _ = t.dropWhile p := List.drop_left

/- The rest without the white space in front of it. -/
theorem rest_skipSpace (s : Scanner) :
    s.skipSpace.rest = s.rest.dropWhile Character.isSpace :=
  drop_length_takeWhile Character.isSpace s.rest

/- The rest is a text up to white space in front of the two. -/
def Faces
    (s : Scanner)
    (t : Text) : Prop :=
  s.rest.dropWhile Character.isSpace =
    t.dropWhile Character.isSpace

theorem faces_of_rest
    {s : Scanner}
    {t : Text}
    (h : s.rest = t) : s.Faces t :=
  congrArg _ h

/- White space may be put in front. -/
theorem Faces.append
    {s : Scanner}
    {gap t : Text}
    (hGap : gap.isBlank = true)
    (h : s.Faces t) : s.Faces (gap ++ t) := by
  rw [Faces, List.dropWhile_append_of_pos (List.all_eq_true.1 hGap)]
  exact h

/- White space in front of a token is skipped. -/
theorem rest_skipSpace_of_faces
    {s : Scanner}
    {gap : Text}
    {c : Char}
    {rest : Text}
    (hFaces : s.Faces (gap ++ c :: rest))
    (hGap : gap.isBlank = true)
    (hSpace : Character.isSpace c = false) :
    s.skipSpace.rest = c :: rest := by
  rw [rest_skipSpace, hFaces,
    List.dropWhile_append_of_pos (List.all_eq_true.1 hGap),
    List.dropWhile_cons_of_neg (by simp [hSpace])]

/- At the end of the text there is no token. -/
theorem nextToken_nil
    {s : Scanner}
    (hRest : s.skipSpace.rest = [])
    (patterns : List Pattern) :
    s.nextToken patterns =
      (.error (.of (.prematureEnd s.skipSpace.location)),
        s.skipSpace) := by
  simp [nextToken, atEnd, hRest]

/- The next character decides whether there is a token. -/
theorem nextToken_cons
    {s : Scanner}
    {c : Char}
    {rest : Text}
    (hRest : s.skipSpace.rest = c :: rest)
    (patterns : List Pattern) :
    s.nextToken patterns =
      match patterns.find? (fun p => p.starts c) with
      | none => (.ok none, s.skipSpace)
      | some p =>
          (.ok (some (s.skipSpace.token
              ((rest.takeWhile p.continues).length + 1) p)),
            s.skipSpace.read
              ((rest.takeWhile p.continues).length + 1)) := by
  have hEnd : s.skipSpace.atEnd = false := by
    rw [atEnd, hRest]
    rfl
  rw [nextToken]
  simp only [hEnd, Bool.false_eq_true, if_false, hRest,
    Pattern.firstLexeme?_cons]
  cases patterns.find? (fun p => p.starts c) with
  | none => rfl
  | some p => rfl

/- A token of the first pattern that its first character starts. -/
theorem reads_nextToken
    {s : Scanner}
    {patterns : List Pattern}
    {p : Pattern}
    {gap token after : Text}
    (hFaces : s.Faces (gap ++ (token ++ after)))
    (hGap : gap.isBlank = true)
    (hToken : p.accepts token = true)
    (hStop : p.StopsAt after)
    (hFirst : ∀ c ∈ token.head?,
      patterns.find? (fun q => q.starts c) = some p) :
    (s.nextToken patterns).Reads
      (fun found => ∃ t, found = some t ∧ t.Is p token)
      after := by
  rcases Pattern.accepts_iff.1 hToken with
    ⟨c, more, rfl, hStart, hMore⟩
  have hSkip : s.skipSpace.rest = c :: (more ++ after) :=
    rest_skipSpace_of_faces hFaces hGap
      (Pattern.not_isSpace_of_starts hStart)
  have hTake : (more ++ after).takeWhile p.continues = more := by
    have hLexeme := Pattern.lexeme?_append hToken hStop
    rw [List.cons_append, Pattern.lexeme?, if_pos hStart] at hLexeme
    simp only [Option.some.injEq, Prod.mk.injEq,
      List.cons.injEq] at hLexeme
    exact hLexeme.1.2
  rw [nextToken_cons hSkip, hFirst c rfl]
  simp only [hTake]
  refine Scanned.reads_ok ⟨_, rfl, rfl, ?_⟩ ?_
  · simp [Scanner.token, hSkip]
  · simp [Scanner.read, hSkip]

/- No pattern fits, and only white space is read. -/
theorem reads_nextToken_none
    {s : Scanner}
    {patterns : List Pattern}
    {gap : Text}
    {c : Char}
    {rest : Text}
    (hFaces : s.Faces (gap ++ c :: rest))
    (hGap : gap.isBlank = true)
    (hSpace : Character.isSpace c = false)
    (hNone : patterns.find? (fun q => q.starts c) = none) :
    (s.nextToken patterns).Reads (fun found => found = none)
      (c :: rest) := by
  have hSkip := rest_skipSpace_of_faces hFaces hGap hSpace
  rw [nextToken_cons hSkip, hNone]
  exact Scanned.reads_ok rfl hSkip

/- A punctuation mark that is there. -/
theorem reads_nextToken_mark
    {s : Scanner}
    {patterns : List Pattern}
    {p : Pattern}
    {gap : Text}
    {c : Char}
    {after : Text}
    (hFaces : s.Faces (gap ++ c :: after))
    (hGap : gap.isBlank = true)
    (hMark : p.literal? = some c)
    (hFirst :
      patterns.find? (fun q => q.starts c) = some p) :
    (s.nextToken patterns).Reads
      (fun found => ∃ t, found = some t ∧ t.Is p [c]) after := by
  have hMarks :
      p.accepts [c] = true ∧ ∀ d, p.continues d = false := by
    cases p <;> cases hMark <;> exact ⟨by decide, fun _ => rfl⟩
  refine @reads_nextToken s patterns p gap [c] after hFaces hGap
    hMarks.1 (fun d _ => hMarks.2 d) ?_
  intro d hHead
  cases hHead
  exact hFirst

/- A token that is read is one of an acceptable pattern. -/
theorem ensures_nextToken
    (s : Scanner)
    (patterns : List Pattern) :
    (s.nextToken patterns).Ensures (fun found =>
      ∀ t ∈ found, t.pattern ∈ patterns ∧
        t.pattern.accepts t.text = true) := by
  cases hSkip : s.skipSpace.rest with
  | nil =>
      rw [nextToken_nil hSkip]
      exact Scanned.ensures_error _ _ _
  | cons c rest =>
      rw [nextToken_cons hSkip]
      cases hFind : patterns.find? (fun p => p.starts c) with
      | none => exact Scanned.ensures_ok _ (by simp)
      | some p =>
          refine Scanned.ensures_ok _ ?_
          intro t hFound
          cases hFound
          have hStart : p.starts c = true :=
            @List.find?_some Pattern (fun q => q.starts c) _ _ hFind
          have hText : List.take
              ((rest.takeWhile p.continues).length + 1) (c :: rest) =
                c :: rest.takeWhile p.continues := by
            rw [List.take_succ_cons]
            exact congrArg (List.cons c)
              (List.prefix_iff_eq_take.1
                (List.takeWhile_prefix _)).symm
          constructor
          · exact List.mem_of_find?_eq_some hFind
          · rw [token, hSkip, hText]
            exact Pattern.accepts_cons_takeWhile hStart rest

theorem ensures_require
    (s : Scanner)
    (patterns : List Pattern) :
    (s.require patterns).Ensures (fun t =>
      t.pattern ∈ patterns ∧ t.pattern.accepts t.text = true) := by
  have hToken := ensures_nextToken s patterns
  unfold require
  split
  · exact Scanned.ensures_error _ _ _
  · rename_i t s' hNext
    rw [hNext] at hToken
    exact Scanned.ensures_ok _ (hToken _ rfl t rfl)
  · exact Scanned.ensures_error _ _ _

/- A required token of the only pattern that is acceptable. -/
theorem ensures_require_one
    (s : Scanner)
    (p : Pattern) :
    (s.require [p]).Ensures (fun t => p.accepts t.text = true) := by
  intro t hOk
  have hToken := ensures_require s [p] t hOk
  rw [← List.mem_singleton.1 hToken.1]
  exact hToken.2

/- A required token is read as the next one. -/
theorem reads_require_of_nextToken
    {s : Scanner}
    {patterns : List Pattern}
    {p : Pattern}
    {token after : Text}
    (h : (s.nextToken patterns).Reads
      (fun found => ∃ t, found = some t ∧ t.Is p token) after) :
    (s.require patterns).Reads (fun t => t.Is p token) after := by
  rcases h with ⟨found, s', hNext, ⟨t, rfl, hToken⟩, hAfter⟩
  rw [require, hNext]
  exact Scanned.reads_ok hToken hAfter

/- A required token that is there. -/
theorem reads_require
    {s : Scanner}
    {patterns : List Pattern}
    {p : Pattern}
    {gap token after : Text}
    (hFaces : s.Faces (gap ++ (token ++ after)))
    (hGap : gap.isBlank = true)
    (hToken : p.accepts token = true)
    (hStop : p.StopsAt after)
    (hFirst : ∀ c ∈ token.head?,
      patterns.find? (fun q => q.starts c) = some p) :
    (s.require patterns).Reads (fun t => t.Is p token) after :=
  reads_require_of_nextToken
    (reads_nextToken hFaces hGap hToken hStop hFirst)

/- A token of the only pattern that is acceptable. -/
theorem reads_nextToken_one
    {s : Scanner}
    {p : Pattern}
    {gap token after : Text}
    (hFaces : s.Faces (gap ++ (token ++ after)))
    (hGap : gap.isBlank = true)
    (hToken : p.accepts token = true)
    (hStop : p.StopsAt after) :
    (s.nextToken [p]).Reads
      (fun found => ∃ t, found = some t ∧ t.Is p token)
      after := by
  apply reads_nextToken hFaces hGap hToken hStop
  intro c hHead
  simp [Pattern.starts_of_accepts hToken c hHead]

theorem reads_require_one
    {s : Scanner}
    {p : Pattern}
    {gap token after : Text}
    (hFaces : s.Faces (gap ++ (token ++ after)))
    (hGap : gap.isBlank = true)
    (hToken : p.accepts token = true)
    (hStop : p.StopsAt after) :
    (s.require [p]).Reads (fun t => t.Is p token) after :=
  reads_require_of_nextToken
    (reads_nextToken_one hFaces hGap hToken hStop)

/- A required punctuation mark. -/
theorem reads_require_mark
    {s : Scanner}
    {patterns : List Pattern}
    {p : Pattern}
    {gap : Text}
    {c : Char}
    {after : Text}
    (hFaces : s.Faces (gap ++ c :: after))
    (hGap : gap.isBlank = true)
    (hMark : p.literal? = some c)
    (hFirst :
      patterns.find? (fun q => q.starts c) = some p) :
    (s.require patterns).Reads (fun t => t.Is p [c]) after :=
  reads_require_of_nextToken
    (reads_nextToken_mark hFaces hGap hMark hFirst)

/- The search for the next record stops behind an at sign. -/
theorem skipTo_atSign
    {s : Scanner}
    {junk after : Text}
    (hRest : s.rest = junk ++ '@' :: after)
    (hJunk : '@' ∉ junk) :
    ∃ t s', s.skipTo [.atSign] = some (t, s') ∧
      s'.rest = after := by
  have hReach :
      Pattern.atSign.reach? s.rest = some (junk.length + 1) := by
    rw [Pattern.reach?, hRest, Pattern.search?_atSign hJunk]
    rfl
  refine ⟨s.token (junk.length + 1) .atSign,
    s.read (junk.length + 1), ?_, ?_⟩
  · rw [skipTo, Pattern.nearest?, Pattern.nearest?, hReach]
  · simp [Scanner.read, hRest]

/- Without an at sign there is no next record. -/
theorem skipTo_atSign_of_not_mem
    {s : Scanner}
    (hRest : '@' ∉ s.rest) : s.skipTo [.atSign] = none := by
  rw [skipTo, Pattern.nearest?, Pattern.nearest?, Pattern.reach?,
    Pattern.search?_atSign_of_not_mem hRest]
  rfl

------------------------------------------------------------
-- Loops as Sequences of Steps
------------------------------------------------------------

/- The parts of a value: one part, and after a `#` the others. -/
theorem readParts_eq
    (macros : MacroTable)
    (s : Scanner) :
    s.readParts macros =
      (s.readPart macros).andThen fun part s =>
        (s.nextToken [.hash]).andThen fun found s =>
          match found with
          | none => (.ok part, s)
          | some _ =>
              (s.readParts macros).andThen fun more s =>
                (.ok (part ++ more), s) := by
  rw [readParts]
  cases hPart : s.readPart macros with
  | mk result s₁ =>
      cases result with
      | error e => rfl
      | ok part =>
          simp only [Scanned.andThen]
          cases hNext : s₁.nextToken [.hash] with
          | mk result s₂ =>
              cases result with
              | error e => rfl
              | ok found =>
                  cases found with
                  | none => rfl
                  | some t =>
                      cases hMore : s₂.readParts macros with
                      | mk result s₃ => cases result <;> simp [hMore]

/-
  The fields of an entry: a separator, and after a comma an
  assignment, if there is one, and the other fields.
-/
theorem readFields_eq
    (config : ParserConfig)
    (macros : MacroTable)
    (close : Pattern)
    (d : Draft)
    (s : Scanner) :
    s.readFields config macros close d =
      (s.require [.comma, close]).andThen fun separator s =>
        if separator.pattern ≠ .comma then (.ok d, s)
        else
          (s.nextToken [.name]).andThen fun found s =>
            match found with
            | none => s.readFields config macros close d
            | some name =>
                (s.readAssigned macros).andThen fun value s =>
                  match
                    d.addField config name.text.lower value
                  with
                  | .error e => (.error e, s)
                  | .ok d' =>
                      s.readFields config macros close d' := by
  rw [readFields]
  cases hRequire : s.require [.comma, close] with
  | mk result s₁ =>
      cases result with
      | error e => rfl
      | ok separator =>
          simp only [Scanned.andThen]
          by_cases hComma : separator.pattern ≠ .comma
          · rw [if_pos hComma, if_pos hComma]
          · rw [if_neg hComma, if_neg hComma]
            cases hNext : s₁.nextToken [.name] with
            | mk result s₂ =>
                cases result with
                | error e => rfl
                | ok found =>
                    cases found with
                    | none => rfl
                    | some name =>
                        simp only
                        cases hValue : s₂.readAssigned macros with
                        | mk result s₃ => cases result <;> rfl

end Scanner

end Bibliography
