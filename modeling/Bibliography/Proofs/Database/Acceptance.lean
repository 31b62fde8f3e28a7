import Bibliography.Proofs.Database.Grammar

/-
  Values and fields are read with their meaning.

  Each production of the grammar is read as a whole, whatever
  follows it, up to the white space behind it.  The productions
  with lists are read by induction on the lists.  Behind some
  fields the reader is where it would be with their draft.

  Key definitions include:
    * `Grammar.EndsValue`
    * `Grammar.Expression.EndsBefore`
    * `Draft.takeAll`

  Key statements include:
    * `Scanner.readParts_eq_nextToken`
    * `Scanner.reads_readValue`
    * `Scanner.readFields_of_slots`
    * `Scanner.reads_readFields`
-/

------------------------------------------------------------
-- Values
------------------------------------------------------------

namespace Bibliography

namespace Grammar

/- The characters that can stand behind a value. -/
def EndsValue (c : Char) : Prop :=
  c = ',' ∨ c = '}' ∨ c = ')'

/- They are no white space and belong to no other token. -/
theorem EndsValue.stops
    {c : Char}
    (h : EndsValue c) :
    Character.isSpace c = false ∧
      Pattern.name.continues c = false ∧
      Pattern.number.continues c = false ∧
      Pattern.hash.starts c = false ∧
      Pattern.name.starts c = false ∧
      Pattern.key.continues c = false := by
  rcases h with rfl | rfl | rfl <;> decide

/- No longer token than the part is there in front of a text. -/
def Part.StopsBefore (after : Text) : Part → Prop
  | .number _ => Pattern.number.StopsAt after
  | .abbreviation _ => Pattern.name.StopsAt after
  | _ => True

/- What ends a name ends every part. -/
theorem Part.stopsBefore_of_stopsAt
    {after : Text}
    (h : Pattern.name.StopsAt after)
    (part : Part) : part.StopsBefore after := by
  cases part with
  | quoted body => trivial
  | braced body => trivial
  | number digits =>
      intro c hHead
      have hNot : Pattern.isNameChar c = false := h c hHead
      cases hDigit : c.isDigit with
      | false => exact hDigit
      | true =>
          rw [Pattern.isNameChar_of_isDigit hDigit] at hNot
          cases hNot
  | abbreviation name => exact h

/- The part at the end of a value. -/
def Expression.last : Expression → Part
  | .single _ part => part
  | .joined _ _ _ rest => rest.last

/- The value is a whole one in front of a text. -/
def Expression.EndsBefore
    (e : Expression)
    (after : Text) : Prop :=
  e.last.StopsBefore after ∧
    ∀ c ∈ (after.dropWhile Character.isSpace).head?, c ≠ '#'

/- A comma or a closing delimiter ends every value. -/
theorem Expression.endsBefore_of_endsValue
    {gap : Text}
    {stop : Char}
    (hGap : gap.isBlank = true)
    (hStop : EndsValue stop)
    (e : Expression)
    (more : Text) : e.EndsBefore (gap ++ stop :: more) := by
  rcases hStop.stops with ⟨hSpace, hName, _, hHash, _⟩
  refine ⟨Part.stopsBefore_of_stopsAt (Pattern.stopsAt_append hGap
    (Pattern.stopsAt_cons hName)) e.last, ?_⟩
  rw [List.dropWhile_append_of_pos (List.all_eq_true.1 hGap),
    List.dropWhile_cons_of_neg (by simp [hSpace])]
  intro c hHead
  cases hHead
  rintro rfl
  cases hHash

theorem endsValue_closing (delimiter : Delimiter) :
    EndsValue delimiter.closing := by
  cases delimiter with
  | braces => exact Or.inr (Or.inl rfl)
  | parens => exact Or.inr (Or.inr rfl)

end Grammar

namespace Scanner

open Grammar

variable {config : ParserConfig}
variable {macros : MacroTable}

/- The patterns with which a part of a value can begin. -/
def partPatterns : List Pattern :=
  [.quote, .openBrace, .number, .name]

/- A digit begins a number. -/
theorem find?_partPatterns_of_isDigit
    {c : Char}
    (h : c.isDigit = true) :
    partPatterns.find? (fun q => q.starts c) = some .number := by
  have hAscii := Pattern.isAscii_of_isNameChar
    (Pattern.isNameChar_of_isDigit h)
  exact Character.forall_ascii
    (P := fun c => c.isDigit = true →
      partPatterns.find? (fun q => q.starts c) = some .number)
    (by decide) hAscii h

/- A character that starts a name begins a name. -/
theorem find?_partPatterns_of_isNameStart
    {c : Char}
    (h : Pattern.isNameStart c = true) :
    partPatterns.find? (fun q => q.starts c) = some .name := by
  have hAscii := Pattern.isAscii_of_isNameChar
    (Pattern.isNameChar_of_isNameStart h)
  exact Character.forall_ascii
    (P := fun c => Pattern.isNameStart c = true →
      partPatterns.find? (fun q => q.starts c) = some .name)
    (by decide) hAscii h

/- One part of a value is read, if no longer token is there. -/
theorem reads_readPart
    {s : Scanner}
    {gap : Text}
    {part : Part}
    {after : Text}
    (hFaces : s.Faces (gap ++ (part.text ++ after)))
    (hGap : gap.isBlank = true)
    (hPart : part.isWellFormed = true)
    (hDefined : part.isDefined macros = true)
    (hStop : part.StopsBefore after) :
    (s.readPart macros).Reads
      (fun text => text = part.meaning macros) after := by
  cases part with
  | quoted body =>
      have hMark : s.Faces (gap ++ '"' :: (body ++ '"' :: after)) := by
        simpa [Part.text] using hFaces
      apply (reads_require_mark hMark hGap rfl rfl).andThen
      intro t s' hToken hRest
      simp only [hToken.1]
      exact reads_readBody hPart hRest
  | braced body =>
      have hMark : s.Faces (gap ++ '{' :: (body ++ '}' :: after)) := by
        simpa [Part.text] using hFaces
      apply (reads_require_mark hMark hGap rfl rfl).andThen
      intro t s' hToken hRest
      simp only [hToken.1]
      exact reads_readBody hPart hRest
  | number digits =>
      have hFirst : ∀ c ∈ digits.head?,
          partPatterns.find? (fun q => q.starts c) =
            some .number := by
        intro c hHead
        exact find?_partPatterns_of_isDigit
          (Pattern.starts_of_accepts hPart c hHead)
      refine (reads_require hFaces hGap hPart hStop hFirst).andThen
        ?_
      intro t s' hToken hRest
      simp only [hToken.1]
      exact Scanned.reads_ok hToken.2 hRest
  | abbreviation name =>
      have hFirst : ∀ c ∈ name.head?,
          partPatterns.find? (fun q => q.starts c) =
            some .name := by
        intro c hHead
        exact find?_partPatterns_of_isNameStart
          (Pattern.starts_of_accepts hPart c hHead)
      rcases Option.isSome_iff_exists.1 hDefined with
        ⟨text, hText⟩
      refine (reads_require hFaces hGap hPart hStop hFirst).andThen
        ?_
      intro t s' hToken hRest
      have hGet : macros.get? t.text = some text := by
        rw [hToken.2]
        exact hText
      have hMeaning :
          text = (Part.abbreviation name).meaning macros := by
        rw [Part.meaning, MacroTable.get?, hText]
        rfl
      simp only [hToken.1, hGet]
      exact Scanned.reads_ok hMeaning hRest

/- Behind a value there is no `#`. -/
theorem reads_nextToken_hash_none
    {s : Scanner}
    {gap : Text}
    {stop : Char}
    {more : Text}
    (hFaces : s.Faces (gap ++ stop :: more))
    (hGap : gap.isBlank = true)
    (hStop : EndsValue stop) :
    (s.nextToken [.hash]).Reads (fun found => found = none)
      (stop :: more) := by
  have hStops := hStop.stops
  apply reads_nextToken_none hFaces hGap hStops.1
  rw [List.find?_cons, hStops.2.2.2.1]
  rfl

/- A `#` that is not there is not found. -/
theorem ensures_nextToken_hash
    {s : Scanner}
    (h : ∀ c ∈ (s.rest.dropWhile Character.isSpace).head?,
      c ≠ '#') :
    (s.nextToken [.hash]).Ensures (fun found => found = none) := by
  rw [← rest_skipSpace] at h
  cases hSkip : s.skipSpace.rest with
  | nil =>
      rw [nextToken_nil hSkip]
      exact Scanned.ensures_error _ _ _
  | cons c rest =>
      rw [hSkip] at h
      have hNot : Pattern.hash.starts c = false := by
        refine Bool.eq_false_iff.2 (fun hStart => h c rfl ?_)
        exact (Option.some.inj (eq_of_beq hStart)).symm
      rw [nextToken_cons hSkip, List.find?_cons, hNot]
      exact Scanned.ensures_ok _ rfl

/- The parts of a value are read, and then the place for a `#`. -/
theorem readParts_eq_nextToken
    {s : Scanner}
    {e : Expression}
    {after : Text}
    (hFaces : s.Faces (e.text ++ after))
    (hEnds : e.EndsBefore after)
    (hWellFormed : e.isWellFormed = true)
    (hDefined : e.isDefined macros = true) :
    ∃ s₁ : Scanner, s₁.rest = after ∧
      s.readParts macros =
        (s₁.nextToken [.hash]).andThen fun _ s =>
          (.ok (e.expansion macros), s) := by
  induction e generalizing s with
  | single first part =>
      rw [Expression.isWellFormed, Bool.and_eq_true] at hWellFormed
      rcases hWellFormed with ⟨hFirst, hPart⟩
      rw [Expression.text, List.append_assoc] at hFaces
      rcases reads_readPart hFaces hFirst hPart hDefined hEnds.1 with
        ⟨text, s₁, hRead, rfl, hRest₁⟩
      have hNone := @ensures_nextToken_hash s₁
        (by rw [hRest₁]; exact hEnds.2)
      refine ⟨s₁, hRest₁, ?_⟩
      rw [readParts_eq, hRead]
      dsimp only [Scanned.andThen]
      cases hNext : s₁.nextToken [.hash] with
      | mk result s₂ =>
          cases result with
          | error err => rfl
          | ok found =>
              have hFound := hNone found (by rw [hNext])
              rw [hFound]
              rfl
  | joined first part gapHash rest ih =>
      rw [Expression.isWellFormed, Bool.and_eq_true,
        Bool.and_eq_true, Bool.and_eq_true] at hWellFormed
      rcases hWellFormed with ⟨⟨⟨hFirst, hPart⟩, hHash⟩, hRest⟩
      rw [Expression.isDefined, Bool.and_eq_true] at hDefined
      have hPartFaces : s.Faces (first ++ (part.text ++
          (gapHash ++ '#' :: (rest.text ++ after)))) := by
        simpa [Expression.text] using hFaces
      have hStop := Part.stopsBefore_of_stopsAt
        (Pattern.stopsAt_append hHash (@Pattern.stopsAt_cons
          .name '#' (rest.text ++ after) rfl)) part
      rcases reads_readPart hPartFaces hFirst hPart hDefined.1 hStop
        with ⟨text, s₁, hRead, rfl, hRest₁⟩
      rcases @reads_nextToken_mark s₁ [.hash] .hash gapHash '#' _
        (faces_of_rest hRest₁) hHash rfl rfl with
        ⟨found, s₂, hNext, ⟨t, rfl, _⟩, hRest₂⟩
      rcases ih (faces_of_rest hRest₂) hEnds hRest hDefined.2 with
        ⟨s₃, hRest₃, hMore⟩
      refine ⟨s₃, hRest₃, ?_⟩
      rw [readParts_eq, hRead]
      dsimp only [Scanned.andThen]
      rw [hNext]
      dsimp only
      rw [hMore]
      cases s₃.nextToken [.hash] with
      | mk result s₄ => cases result <;> rfl

/-
  The parts of a value are read up to the comma or the delimiter
  behind them.
-/
theorem reads_readParts
    {s : Scanner}
    {e : Expression}
    {gap : Text}
    {stop : Char}
    {more : Text}
    (hFaces : s.Faces (e.text ++ (gap ++ stop :: more)))
    (hGap : gap.isBlank = true)
    (hStop : EndsValue stop)
    (hWellFormed : e.isWellFormed = true)
    (hDefined : e.isDefined macros = true) :
    (s.readParts macros).Reads
      (fun text => text = e.expansion macros)
      (stop :: more) := by
  rcases readParts_eq_nextToken hFaces
    (e.endsBefore_of_endsValue hGap hStop more) hWellFormed
    hDefined with ⟨s₁, hRest₁, hRead⟩
  rw [hRead]
  apply (reads_nextToken_hash_none (faces_of_rest hRest₁) hGap
    hStop).andThen
  intro found s₂ _ hRest₂
  exact Scanned.reads_ok rfl hRest₂

/- A value is read with its meaning. -/
theorem reads_readValue
    {s : Scanner}
    {e : Expression}
    {gap : Text}
    {stop : Char}
    {more : Text}
    (hFaces : s.Faces (e.text ++ (gap ++ stop :: more)))
    (hGap : gap.isBlank = true)
    (hStop : EndsValue stop)
    (hWellFormed : e.isWellFormed = true)
    (hDefined : e.isDefined macros = true) :
    (s.readValue macros).Reads
      (fun text => text = e.meaning macros)
      (stop :: more) := by
  refine (reads_readParts hFaces hGap hStop hWellFormed
    hDefined).andThen ?_
  intro text s' hText hRest
  refine Scanned.reads_ok ?_ hRest
  rw [hText, Expression.meaning]

/- An equals sign is read, and the value is next. -/
theorem readAssigned_eq_readValue
    {s : Scanner}
    {gapEquals after : Text}
    (hFaces : s.Faces (gapEquals ++ '=' :: after))
    (hEquals : gapEquals.isBlank = true) :
    ∃ s₁ : Scanner, s₁.rest = after ∧
      s.readAssigned macros = s₁.readValue macros := by
  rcases @reads_require_mark s [.equals] .equals gapEquals '=' after
    hFaces hEquals rfl rfl with ⟨t, s₁, hRead, _, hRest₁⟩
  refine ⟨s₁, hRest₁, ?_⟩
  rw [readAssigned, hRead, Scanned.andThen_ok]

end Scanner

------------------------------------------------------------
-- Fields
------------------------------------------------------------

namespace Draft

/- The draft after an assignment to a name in lower case. -/
def assign
    (config : ParserConfig)
    (d : Draft)
    (a : Text × Text) : Draft :=
  (d.addField config a.1 a.2).toOption.getD d

/- Names of two commas at most are taken in as persons. -/
theorem addPersons_eq_ok
    {role : Text}
    {names : List Text}
    (h : ∀ name ∈ names, name.commas ≤ 2)
    (e : Entry) :
    addPersons role names e =
      .ok (names.foldl
        (fun e name => e.addPerson role (Person.read name)) e) := by
  induction names generalizing e with
  | nil => rfl
  | cons name rest ih =>
      rcases List.forall_mem_cons.1 h with ⟨hFirst, hRest⟩
      rw [addPersons, Person.parse_eq_ok hFirst]
      exact ih hRest _

/- An assignment with readable names is taken in. -/
theorem addField_eq_ok
    {config : ParserConfig}
    {field value : Text}
    (h : config.isPersonField field = true →
      ∀ name ∈ value.splitNames, name.commas ≤ 2)
    (d : Draft) :
    d.addField config field value =
      .ok (d.assign config (field, value)) := by
  have hOk : ∃ d', d.addField config field value = .ok d' := by
    unfold addField
    split
    · exact ⟨_, rfl⟩
    · split
      · rename_i hPerson
        rw [addPersons_eq_ok (h hPerson)]
        exact ⟨_, rfl⟩
      · exact ⟨_, rfl⟩
  rcases hOk with ⟨d', hAdd⟩
  simp [assign, hAdd, Except.toOption]

/- The draft after some assignments, if all are taken in. -/
def takeAll
    (config : ParserConfig)
    (d : Draft) : List (Text × Text) → Except Error Draft
  | [] => .ok d
  | a :: rest =>
      match d.addField config a.1 a.2 with
      | .error e => .error e
      | .ok d' => d'.takeAll config rest

theorem takeAll_eq_ok
    {config : ParserConfig}
    {assignments : List (Text × Text)}
    (h : ∀ a ∈ assignments, config.isPersonField a.1 = true →
      ∀ name ∈ a.2.splitNames, name.commas ≤ 2)
    (d : Draft) :
    d.takeAll config assignments =
      .ok (assignments.foldl (assign config) d) := by
  induction assignments generalizing d with
  | nil => rfl
  | cons a rest ih =>
      rcases List.forall_mem_cons.1 h with ⟨hFirst, hRest⟩
      rw [takeAll, addField_eq_ok hFirst]
      exact ih hRest _

end Draft

namespace Scanner

open Grammar

variable {config : ParserConfig}
variable {macros : MacroTable}

/- The text of the fields of an entry and its closing delimiter. -/
def fieldsText
    (slots : List Slot)
    (gapClose : Text)
    (delimiter : Delimiter)
    (more : Text) : Text :=
  slots.flatMap Slot.text ++
    (gapClose ++ delimiter.closing :: more)

/- Fields go on with a comma or with what is behind them. -/
theorem exists_slotsText
    {slots : List Slot}
    {gap : Text}
    {stop : Char}
    (hGap : gap.isBlank = true)
    (hStop : EndsValue stop)
    (hSlots : slots.all Slot.isWellFormed = true)
    (after : Text) :
    ∃ (lead : Text) (c : Char) (more : Text),
      slots.flatMap Slot.text ++ (gap ++ stop :: after) =
        lead ++ c :: more ∧
      lead.isBlank = true ∧ EndsValue c := by
  cases slots with
  | nil => exact ⟨gap, stop, after, rfl, hGap, hStop⟩
  | cons slot rest =>
      rw [List.all_cons, Bool.and_eq_true, Slot.isWellFormed,
        Bool.and_eq_true] at hSlots
      refine ⟨slot.gap, ',', ?_, ?_, hSlots.1.1, Or.inl rfl⟩
      · exact (slot.assignment.map Assignment.text).getD [] ++
          (rest.flatMap Slot.text ++ (gap ++ stop :: after))
      · simp [Slot.text]

/- None of it goes on with a key in front of it. -/
theorem stopsAt_slotsText
    {slots : List Slot}
    {gap : Text}
    {stop : Char}
    (hGap : gap.isBlank = true)
    (hStop : EndsValue stop)
    (hSlots : slots.all Slot.isWellFormed = true)
    (after : Text) :
    Pattern.key.StopsAt
      (slots.flatMap Slot.text ++ (gap ++ stop :: after)) := by
  rcases exists_slotsText hGap hStop hSlots after with
    ⟨lead, c, more, hText, hBlank, hNext⟩
  rw [hText]
  exact Pattern.stopsAt_append hBlank
    (Pattern.stopsAt_cons hNext.stops.2.2.2.2.2)

/- The names in a person field have two commas at most. -/
theorem commas_le_of_hasReadableNames
    {a : Assignment}
    (h : a.hasReadableNames config macros = true)
    (hPerson : config.isPersonField a.name.lower = true) :
    ∀ name ∈ (a.value.meaning macros).splitNames,
      name.commas ≤ 2 := by
  rw [Assignment.hasReadableNames, hPerson, Bool.not_true,
    Bool.false_or, List.all_eq_true] at h
  intro name hMem
  exact of_decide_eq_true (h name hMem)

/- The closing delimiter ends the fields. -/
theorem reads_readFields_of_closed
    {s : Scanner}
    {gapClose : Text}
    {delimiter : Delimiter}
    {more : Text}
    {d : Draft}
    (hFaces : s.Faces (gapClose ++ delimiter.closing :: more))
    (hClose : gapClose.isBlank = true) :
    (s.readFields config macros delimiter.closer d).Reads
      (fun d' => d' = d) more := by
  have hMark : delimiter.closer.literal? =
      some delimiter.closing := by cases delimiter <;> rfl
  have hFirst : [Pattern.comma, delimiter.closer].find?
      (fun q => q.starts delimiter.closing) =
        some delimiter.closer := by cases delimiter <;> rfl
  have hComma : delimiter.closer ≠ .comma := by
    cases delimiter <;> decide
  rw [readFields_eq]
  apply (reads_require_mark hFaces hClose hMark hFirst).andThen
  intro separator s₁ hToken hRest
  rw [if_pos (by rw [hToken.1]; exact hComma)]
  exact Scanned.reads_ok rfl hRest

section Separated

variable {s : Scanner}
variable {gap : Text}
variable {stop : Char}
variable {after : Text}
variable {close : Pattern}

/- A comma stands in front of a field, or of nothing. -/
theorem readFields_of_comma
    {comma : Token}
    {s₁ : Scanner}
    (hRequire : s.require [.comma, close] = (.ok comma, s₁))
    (hComma : comma.pattern = .comma)
    (d : Draft) :
    s.readFields config macros close d =
      (s₁.nextToken [.name]).andThen fun found s =>
        match found with
        | none => s.readFields config macros close d
        | some name =>
            (s.readAssigned macros).andThen fun value s =>
              match d.addField config name.text.lower value with
              | .error e => (.error e, s)
              | .ok d' => s.readFields config macros close d' := by
  rw [readFields_eq, hRequire, Scanned.andThen_ok]
  exact if_neg (by rw [hComma]; simp)

/- A comma alone leaves the fields behind it to the same draft. -/
theorem readFields_of_bare
    {gapComma : Text}
    (hFaces : s.Faces (gapComma ++ ',' :: (gap ++ stop :: after)))
    (hComma : gapComma.isBlank = true)
    (hGap : gap.isBlank = true)
    (hStop : EndsValue stop)
    (d : Draft) :
    ∃ s' : Scanner, s'.rest = stop :: after ∧
      s.readFields config macros close d =
        s'.readFields config macros close d := by
  rcases @reads_require_mark s [.comma, close] .comma gapComma ',' _
    hFaces hComma rfl rfl with ⟨t, s₁, hSeparator, hToken, hRest₁⟩
  have hNone : [Pattern.name].find? (fun q => q.starts stop) = none := by
    rw [List.find?_cons, hStop.stops.2.2.2.2.1]
    rfl
  rcases reads_nextToken_none (faces_of_rest hRest₁) hGap
    hStop.stops.1 hNone with ⟨found, s₂, hFound, rfl, hRest₂⟩
  refine ⟨s₂, hRest₂, ?_⟩
  rw [readFields_of_comma hSeparator hToken.1, hFound,
    Scanned.andThen_ok]

/- A comma and a name with an equals sign are read up to a value. -/
theorem readFields_eq_readValue
    {gapComma gapName name gapEquals : Text}
    (hFaces : s.Faces (gapComma ++ ',' ::
      (gapName ++ (name ++ (gapEquals ++ '=' :: after)))))
    (hComma : gapComma.isBlank = true)
    (hGap : gapName.isBlank = true)
    (hName : Pattern.name.accepts name = true)
    (hEquals : gapEquals.isBlank = true)
    (d : Draft) :
    ∃ s₁ : Scanner, s₁.rest = after ∧
      s.readFields config macros close d =
        (s₁.readValue macros).andThen fun value s =>
          match d.addField config name.lower value with
          | .error e => (.error e, s)
          | .ok d' => s.readFields config macros close d' := by
  rcases @reads_require_mark s [.comma, close] .comma gapComma ',' _
    hFaces hComma rfl rfl with ⟨t, s₁, hSeparator, hToken, hRest₁⟩
  rcases reads_nextToken_one (faces_of_rest hRest₁) hGap hName
    (Pattern.stopsAt_append hEquals (Pattern.stopsAt_cons rfl)) with
    ⟨found, s₂, hFound, ⟨t₂, rfl, hNameToken⟩, hRest₂⟩
  rcases @readAssigned_eq_readValue macros s₂ gapEquals after
    (faces_of_rest hRest₂) hEquals with ⟨s₃, hRest₃, hValue⟩
  refine ⟨s₃, hRest₃, ?_⟩
  rw [readFields_of_comma hSeparator hToken.1, hFound,
    Scanned.andThen_ok]
  dsimp only
  rw [hNameToken.2]
  exact congrArg (fun step => Scanned.andThen step _) hValue

/-
  A comma and an assignment leave the fields behind them to the
  draft with the assignment.
-/
theorem readFields_of_assigned
    {gapComma : Text}
    {a : Assignment}
    {d d' : Draft}
    (hFaces : s.Faces
      (gapComma ++ ',' :: (a.text ++ (gap ++ stop :: after))))
    (hComma : gapComma.isBlank = true)
    (hGap : gap.isBlank = true)
    (hStop : EndsValue stop)
    (hWellFormed : a.isWellFormed = true)
    (hDefined : a.value.isDefined macros = true)
    (hAdd : d.addField config (a.meaning macros).1
      (a.meaning macros).2 = .ok d') :
    ∃ s' : Scanner, s'.rest = stop :: after ∧
      s.readFields config macros close d =
        s'.readFields config macros close d' := by
  rw [Assignment.isWellFormed, Bool.and_eq_true,
    Bool.and_eq_true, Bool.and_eq_true] at hWellFormed
  rcases hWellFormed with ⟨⟨⟨hLead, hName⟩, hEquals⟩, hValue⟩
  have hText : gapComma ++ ',' :: (a.text ++ (gap ++ stop :: after)) =
      gapComma ++ ',' :: (a.gap ++ (a.name ++ (a.gapEquals ++
        '=' :: (a.value.text ++ (gap ++ stop :: after))))) := by
    simp [Assignment.text]
  rw [hText] at hFaces
  rcases @readFields_eq_readValue config macros s _ close _ _ _ _
    hFaces hComma hLead hName hEquals d with ⟨s₁, hRest₁, hRead⟩
  rcases reads_readValue (faces_of_rest hRest₁) hGap hStop hValue
    hDefined with ⟨value, s₂, hFound, hMeaning, hRest₂⟩
  refine ⟨s₂, hRest₂, ?_⟩
  rw [hRead, hFound, Scanned.andThen_ok, hMeaning]
  rw [Assignment.meaning] at hAdd
  rw [hAdd]

/- Fields are read up to what is behind some slots. -/
theorem readFields_of_slots
    {slots : List Slot}
    {d d' : Draft}
    (hFaces : s.Faces
      (slots.flatMap Slot.text ++ (gap ++ stop :: after)))
    (hGap : gap.isBlank = true)
    (hStop : EndsValue stop)
    (hSlots : slots.all Slot.isWellFormed = true)
    (hDefined : ∀ a ∈ assignmentsOf slots,
      a.value.isDefined macros = true)
    (hTake : d.takeAll config
      ((assignmentsOf slots).map (Assignment.meaning macros)) =
        .ok d') :
    ∃ s' : Scanner, s'.Faces (gap ++ stop :: after) ∧
      s.readFields config macros close d =
        s'.readFields config macros close d' := by
  induction slots generalizing s d with
  | nil =>
      cases hTake
      exact ⟨s, hFaces, rfl⟩
  | cons slot rest ih =>
      rw [List.all_cons, Bool.and_eq_true, Slot.isWellFormed,
        Bool.and_eq_true] at hSlots
      rcases hSlots with ⟨⟨hLead, hAssignment⟩, hRestSlots⟩
      -- The white space in front of what comes next is read with
      -- this slot.
      rcases exists_slotsText hGap hStop hRestSlots after with
        ⟨lead, c, more, hMore, hBlank, hNext⟩
      have hLater : ∀ {s' : Scanner}, s'.rest = c :: more →
          s'.Faces
            (rest.flatMap Slot.text ++ (gap ++ stop :: after)) := by
        intro s' hRest
        rw [hMore]
        exact (faces_of_rest hRest).append hBlank
      rw [List.flatMap_cons, Slot.text, List.append_assoc,
        List.append_assoc, List.cons_append, hMore] at hFaces
      cases hSlot : slot.assignment with
      | none =>
          rw [assignmentsOf_cons, hSlot] at hDefined hTake
          rw [hSlot] at hFaces
          rcases @readFields_of_bare config macros s _ _ _ close _
            hFaces hLead hBlank hNext d with ⟨s₁, hRest₁, hRead⟩
          rw [hRead]
          exact ih (hLater hRest₁) hRestSlots hDefined hTake
      | some a =>
          rw [assignmentsOf_cons, hSlot] at hDefined hTake
          rw [hSlot] at hFaces hAssignment
          rcases List.forall_mem_cons.1 hDefined with
            ⟨hValue, hDefinedRest⟩
          rw [Option.toList_some, List.singleton_append,
            List.map_cons, Draft.takeAll] at hTake
          split at hTake
          · cases hTake
          · rename_i d₁ hAdd
            rcases @readFields_of_assigned config macros s _ _ _ close
              _ _ _ _ hFaces hLead hBlank hNext hAssignment hValue hAdd
              with ⟨s₁, hRest₁, hRead⟩
            rw [hRead]
            exact ih (hLater hRest₁) hRestSlots hDefinedRest hTake

end Separated

/- Fields are read up to the closing delimiter. -/
theorem reads_readFields
    {s : Scanner}
    {slots : List Slot}
    {gapClose : Text}
    {delimiter : Delimiter}
    {more : Text}
    {d : Draft}
    (hFaces : s.Faces (fieldsText slots gapClose delimiter more))
    (hClose : gapClose.isBlank = true)
    (hSlots : slots.all Slot.isWellFormed = true)
    (hDefined : ∀ a ∈ assignmentsOf slots,
      a.value.isDefined macros = true)
    (hNames : ∀ a ∈ assignmentsOf slots,
      a.hasReadableNames config macros = true) :
    (s.readFields config macros delimiter.closer d).Reads
      (fun d' => d' =
        ((assignmentsOf slots).map
          (Assignment.meaning macros)).foldl
            (Draft.assign config) d)
      more := by
  have hTake := @Draft.takeAll_eq_ok config
    ((assignmentsOf slots).map (Assignment.meaning macros)) ?_ d
  · rcases readFields_of_slots hFaces hClose
      (endsValue_closing delimiter) hSlots hDefined hTake with
      ⟨s₁, hFaces₁, hRead⟩
    rw [hRead]
    exact reads_readFields_of_closed hFaces₁ hClose
  · intro pair hMem hPerson
    rcases List.mem_map.1 hMem with ⟨a, hIn, rfl⟩
    exact commas_le_of_hasReadableNames (hNames a hIn) hPerson

end Scanner

end Bibliography
