import Bibliography.Proofs.Database.Documents
import Bibliography.Proofs.Database.Openings
import Bibliography.Proofs.Database.Runs
import Bibliography.Proofs.Text.Junction

/-
  Macros are substituted for their names.

  The parts of the value that defines a macro can stand where the
  macro is used.  The text with them is read in the same way, up
  to places.  A macro has its text with the white space at the
  ends taken off, so this must not have parted words there, and
  quotes and braces that come into the text must not end a body
  that has none before.

  Key definitions include:
    * `Grammar.Expression.substitute`
    * `Grammar.Expression.keepsBlanks`
    * `Grammar.Use`
    * `Grammar.Use.IsRead`

  Key statements include:
    * `Grammar.Expression.normalizeSpace_substitute`
    * `Scanner.agree_readValue_of_meaning`
    * `Database.parse_substitute`
    * `Database.substitute_blankEnds`
-/

------------------------------------------------------------
-- Substitution
------------------------------------------------------------

namespace Bibliography

namespace MacroTable

/- A name that is defined anew has its new text, and no other. -/
theorem get?_define
    (m : MacroTable)
    (name text other : Text) :
    (m.define name text).get? other =
      if other.lower = name.lower then some text else m.get? other :=
  SortedMap.get?_insert ..

end MacroTable

namespace Grammar

namespace Part

/- The part is a macro of a name, in any letter case. -/
def refersTo
    (name : Text) : Part → Bool
  | .abbreviation other => other.lower == name.lower
  | _ => false

/- The part is written between delimiters. -/
def isDelimited : Part → Bool
  | .quoted _ => true
  | .braced _ => true
  | _ => false

end Part

namespace Expression

/- Whether one of the parts is a macro of a name. -/
def mentions
    (name : Text) : Expression → Bool
  | .single _ part => part.refersTo name
  | .joined _ part _ rest => part.refersTo name || rest.mentions name

/- Whether one of the parts is written between delimiters. -/
def isDelimited : Expression → Bool
  | .single _ part => part.isDelimited
  | .joined _ part _ rest => part.isDelimited || rest.isDelimited

/- The value with more white space in front. -/
def behind
    (gap : Text) : Expression → Expression
  | .single first part => .single (gap ++ first) part
  | .joined first part gapHash rest =>
      .joined (gap ++ first) part gapHash rest

/- The parts of two values joined by `#`. -/
def append
    (gapHash : Text)
    (e : Expression) : Expression → Expression
  | .single first part => .joined first part gapHash e
  | .joined first part gap rest =>
      .joined first part gap (append gapHash e rest)

/- The value with the parts of another one for a macro. -/
def substitute : Expression → Text → Expression → Expression
  | .single gap part, name, v =>
      if part.refersTo name then v.behind gap else .single gap part
  | .joined gap part gapHash rest, name, v =>
      if part.refersTo name then
        append gapHash (rest.substitute name v) (v.behind gap)
      else .joined gap part gapHash (rest.substitute name v)

variable {macros : MacroTable}

@[simp]
theorem text_behind (gap : Text) (e : Expression) :
    (e.behind gap).text = gap ++ e.text := by
  cases e <;> simp [behind, text]

@[simp]
theorem text_append (gapHash : Text) (e f : Expression) :
    (append gapHash e f).text = f.text ++ gapHash ++ '#' :: e.text := by
  induction f with
  | single first part => simp [append, text]
  | joined first part gap rest ih => simp [append, text, ih]

@[simp]
theorem expansion_behind (gap : Text) (e : Expression) :
    (e.behind gap).expansion macros = e.expansion macros := by
  cases e <;> rfl

@[simp]
theorem expansion_append (gapHash : Text) (e f : Expression) :
    (append gapHash e f).expansion macros =
      f.expansion macros ++ e.expansion macros := by
  induction f with
  | single first part => rfl
  | joined first part gap rest ih => simp [append, expansion, ih]

@[simp]
theorem isDefined_behind (gap : Text) (e : Expression) :
    (e.behind gap).isDefined macros = e.isDefined macros := by
  cases e <;> rfl

@[simp]
theorem isDefined_append (gapHash : Text) (e f : Expression) :
    (append gapHash e f).isDefined macros =
      (f.isDefined macros && e.isDefined macros) := by
  induction f with
  | single first part => rfl
  | joined first part gap rest ih =>
      simp [append, isDefined, ih, Bool.and_assoc]

@[simp]
theorem last_behind (gap : Text) (e : Expression) :
    (e.behind gap).last = e.last := by
  cases e <;> rfl

@[simp]
theorem last_append (gapHash : Text) (e f : Expression) :
    (append gapHash e f).last = e.last := by
  induction f with
  | single first part => rfl
  | joined first part gap rest ih => exact ih

theorem isWellFormed_behind
    {gap : Text}
    {e : Expression}
    (hGap : gap.isBlank = true)
    (h : e.isWellFormed = true) : (e.behind gap).isWellFormed = true := by
  have hBlank : ∀ t : Text, (gap ++ t).isBlank = t.isBlank := by
    intro t
    have hAll : gap.all Character.isSpace = true := hGap
    rw [Text.isBlank, List.all_append, hAll, Bool.true_and]
    rfl
  cases e <;> simpa [behind, isWellFormed, hBlank] using h

theorem isWellFormed_append
    {gapHash : Text}
    {e f : Expression}
    (hGap : gapHash.isBlank = true)
    (he : e.isWellFormed = true)
    (hf : f.isWellFormed = true) :
    (append gapHash e f).isWellFormed = true := by
  induction f with
  | single first part =>
      rw [isWellFormed, Bool.and_eq_true] at hf
      simp [append, isWellFormed, hf, hGap, he]
  | joined first part gap rest ih =>
      simp only [isWellFormed, Bool.and_eq_true] at hf
      simp [append, isWellFormed, hf, ih hf.2]

variable {name : Text}
variable {v : Expression}

theorem isWellFormed_substitute
    {e : Expression}
    (hv : v.isWellFormed = true)
    (h : e.isWellFormed = true) :
    (e.substitute name v).isWellFormed = true := by
  induction e with
  | single gap part =>
      rw [substitute]
      split
      · rw [isWellFormed, Bool.and_eq_true] at h
        exact isWellFormed_behind h.1 hv
      · exact h
  | joined gap part gapHash rest ih =>
      rw [isWellFormed, Bool.and_eq_true, Bool.and_eq_true,
        Bool.and_eq_true] at h
      rcases h with ⟨⟨⟨hGap, hPart⟩, hHash⟩, hRest⟩
      rw [substitute]
      split
      · exact isWellFormed_append hHash (ih hRest)
          (isWellFormed_behind hGap hv)
      · simp [isWellFormed, hGap, hPart, hHash, ih hRest]

theorem isDefined_substitute
    {e : Expression}
    (hv : v.isDefined macros = true)
    (h : e.isDefined macros = true) :
    (e.substitute name v).isDefined macros = true := by
  induction e with
  | single gap part =>
      rw [substitute]
      split
      · simpa using hv
      · exact h
  | joined gap part gapHash rest ih =>
      rw [isDefined, Bool.and_eq_true] at h
      rw [substitute]
      split
      · simp [hv, ih h.2]
      · simp [isDefined, h.1, ih h.2]

/- The end of a value that ends with a name is a place to end. -/
theorem endsBefore_substitute
    {e : Expression}
    {after : Text}
    (h : e.EndsBefore after) :
    (e.substitute name v).EndsBefore after := by
  refine ⟨?_, h.2⟩
  have hLast := h.1
  clear h
  induction e with
  | single gap part =>
      rw [substitute]
      split
      · rename_i hRefers
        rw [last_behind]
        cases part with
        | abbreviation other =>
            exact Part.stopsBefore_of_stopsAt hLast _
        | _ => cases hRefers
      · exact hLast
  | joined gap part gapHash rest ih =>
      rw [substitute]
      split
      · rw [last_append]
        exact ih hLast
      · exact ih hLast

------------------------------------------------------------
-- Braces and Quotes
------------------------------------------------------------

/- White space holds no braces and no quotes. -/
theorem filter_isMark_of_isBlank
    {t : Text}
    (h : t.isBlank = true) : t.filter Text.isMark = [] := by
  rw [List.filter_eq_nil_iff]
  intro c hMem hMark
  have hSpace := List.all_eq_true.1 h c hMem
  rw [Text.isMark, Text.isBrace, Bool.or_eq_true, Bool.or_eq_true,
    beq_iff_eq, beq_iff_eq, beq_iff_eq] at hMark
  rcases hMark with (rfl | rfl) | rfl
  · cases hSpace
  · cases hSpace
  · cases hSpace

/- Nor do the characters of names. -/
theorem not_isMark_of_isNameChar
    {c : Char}
    (h : Pattern.isNameChar c = true) : Text.isMark c = false := by
  refine Bool.eq_false_iff.2 (fun hMark => ?_)
  rw [Text.isMark, Text.isBrace, Bool.or_eq_true, Bool.or_eq_true,
    beq_iff_eq, beq_iff_eq, beq_iff_eq] at hMark
  rcases hMark with (rfl | rfl) | rfl <;> cases h

/- A part without delimiters has neither braces nor quotes. -/
theorem filter_isMark_of_not_isDelimited
    {part : Part}
    (hPart : part.isWellFormed = true)
    (h : part.isDelimited = false) :
    part.text.filter Text.isMark = [] := by
  rw [List.filter_eq_nil_iff]
  intro c hMem
  rw [Bool.not_eq_true]
  apply not_isMark_of_isNameChar
  cases part with
  | quoted body => cases h
  | braced body => cases h
  | number digits =>
      rcases Pattern.accepts_iff.1 hPart with
        ⟨d, rest, rfl, hStart, hRest⟩
      rcases List.mem_cons.1 hMem with rfl | hIn
      · exact Pattern.isNameChar_of_isDigit hStart
      · exact Pattern.isNameChar_of_isDigit (hRest c hIn)
  | abbreviation other =>
      rcases Pattern.accepts_iff.1 hPart with
        ⟨d, rest, rfl, hStart, hRest⟩
      rcases List.mem_cons.1 hMem with rfl | hIn
      · exact Pattern.isNameChar_of_isNameStart hStart
      · exact hRest c hIn

/- Nor has a value without delimiters. -/
theorem filter_isMark_text
    {e : Expression}
    (h : e.isWellFormed = true)
    (hDelimited : e.isDelimited = false) :
    e.text.filter Text.isMark = [] := by
  induction e with
  | single gap part =>
      rw [isWellFormed, Bool.and_eq_true] at h
      rw [text, List.filter_append, filter_isMark_of_isBlank h.1,
        filter_isMark_of_not_isDelimited h.2 hDelimited]
      rfl
  | joined gap part gapHash rest ih =>
      rw [isWellFormed, Bool.and_eq_true, Bool.and_eq_true,
        Bool.and_eq_true] at h
      rcases h with ⟨⟨⟨hGap, hPart⟩, hHash⟩, hRest⟩
      rw [isDelimited, Bool.or_eq_false_iff] at hDelimited
      have hSeparator : Text.isMark '#' = false := by decide
      rw [text, List.filter_append, List.filter_append,
        List.filter_append, filter_isMark_of_isBlank hGap,
        filter_isMark_of_not_isDelimited hPart hDelimited.1,
        filter_isMark_of_isBlank hHash,
        List.filter_cons_of_neg (by simp [hSeparator]),
        ih hRest hDelimited.2]
      rfl

/- Parts without delimiters bring in no braces and no quotes. -/
theorem filter_isMark_substitute
    {e : Expression}
    (hv : v.isWellFormed = true)
    (hDelimited : v.isDelimited = false)
    (h : e.isWellFormed = true) :
    (e.substitute name v).text.filter Text.isMark =
      e.text.filter Text.isMark := by
  have hNone := filter_isMark_text hv hDelimited
  have hName : ∀ {part : Part}, part.isWellFormed = true →
      part.refersTo name = true →
        part.text.filter Text.isMark = [] := by
    intro part hPart hRefers
    cases part with
    | abbreviation other =>
        exact filter_isMark_of_not_isDelimited hPart rfl
    | _ => cases hRefers
  induction e with
  | single gap part =>
      rw [isWellFormed, Bool.and_eq_true] at h
      rw [substitute]
      split
      · rename_i hRefers
        rw [text_behind, text, List.filter_append,
          List.filter_append, hNone, hName h.2 hRefers]
      · rfl
  | joined gap part gapHash rest ih =>
      rw [isWellFormed, Bool.and_eq_true, Bool.and_eq_true,
        Bool.and_eq_true] at h
      rcases h with ⟨⟨⟨_, hPart⟩, _⟩, hRest⟩
      rw [substitute]
      split
      · rename_i hRefers
        simp only [text_append, text_behind, text,
          List.filter_append, List.filter_cons, hNone,
          hName hPart hRefers, ih hRest]
      · simp only [text, List.filter_append, List.filter_cons,
          ih hRest]

------------------------------------------------------------
-- Meaning
------------------------------------------------------------

/-
  At each reference the text of the macro can stand without its
  white space at the ends, behind what comes before it.
-/
def keepsBlanks
    (macros : MacroTable) :
    Expression → Text → Expression → Text → Bool
  | .single _ part, name, v, before =>
      !part.refersTo name ||
        Text.fitsBetween before (v.expansion macros) []
  | .joined _ part _ rest, name, v, before =>
      if part.refersTo name then
        Text.fitsBetween before (v.expansion macros)
            (rest.expansion macros) &&
          rest.keepsBlanks macros name v (before ++ v.expansion macros)
      else
        rest.keepsBlanks macros name v (before ++ part.meaning macros)

/- A part that refers to a macro stands for its text. -/
theorem meaning_of_refersTo
    {part : Part}
    {text : Text}
    (hText : macros.get? name = some text)
    (h : part.refersTo name = true) : part.meaning macros = text := by
  cases part with
  | abbreviation other =>
      have hLower : other.lower = name.lower := eq_of_beq h
      rw [Part.meaning, MacroTable.get?, hLower, ← MacroTable.get?,
        hText]
      rfl
  | _ => cases h

/-
  Substituted parts leave a value as it is, behind any text, if
  the white space at their ends has parted no words.
-/
theorem normalizeSpace_substitute
    {e : Expression}
    {before : Text}
    (hText : macros.get? name = some (v.meaning macros))
    (h : e.keepsBlanks macros name v before = true) :
    (before ++ e.expansion macros).normalizeSpace =
      (before ++
        (e.substitute name v).expansion macros).normalizeSpace := by
  induction e generalizing before with
  | single gap part =>
      rw [substitute]
      split
      · rename_i hRefers
        rw [keepsBlanks, hRefers, Bool.not_true, Bool.false_or] at h
        have hFits := Text.normalizeSpace_between h
        rw [List.append_nil, List.append_nil] at hFits
        rw [expansion, meaning_of_refersTo hText hRefers,
          expansion_behind]
        exact hFits
      · rfl
  | joined gap part gapHash rest ih =>
      rw [keepsBlanks] at h
      rw [substitute, expansion]
      split at h
      · rename_i hRefers
        rw [Bool.and_eq_true] at h
        have hFits := Text.normalizeSpace_between h.1
        have hRest := ih h.2
        rw [List.append_assoc, List.append_assoc] at hRest
        rw [if_pos hRefers, meaning_of_refersTo hText hRefers,
          expansion_append, expansion_behind, ← hRest]
        exact hFits
      · rename_i hOther
        have hRest := ih h
        rw [List.append_assoc, List.append_assoc] at hRest
        rw [if_neg hOther, expansion]
        exact hRest

/- A macro that is not mentioned does not matter to a value. -/
theorem expansion_define
    {e : Expression}
    {other : Text}
    (h : e.mentions other = false)
    (text : Text) :
    e.expansion (macros.define other text) = e.expansion macros ∧
      e.isDefined (macros.define other text) =
        e.isDefined macros := by
  have hPart : ∀ {part : Part}, part.refersTo other = false →
      part.meaning (macros.define other text) = part.meaning macros ∧
        part.isDefined (macros.define other text) =
          part.isDefined macros := by
    intro part hNot
    cases part with
    | abbreviation used =>
        have hLower : ¬ used.lower = other.lower := by
          intro hEq
          rw [Part.refersTo, hEq, beq_self_eq_true] at hNot
          cases hNot
        have hGet := MacroTable.get?_define macros other text used
        rw [if_neg hLower] at hGet
        refine ⟨?_, ?_⟩
        · rw [Part.meaning, Part.meaning, hGet]
        · exact congrArg Option.isSome hGet
    | _ => exact ⟨rfl, rfl⟩
  induction e with
  | single gap part => exact hPart h
  | joined gap part gapHash rest ih =>
      rw [mentions, Bool.or_eq_false_iff] at h
      have hFirst := hPart h.1
      have hRest := ih h.2
      rw [expansion, expansion, isDefined, isDefined, hFirst.1,
        hFirst.2, hRest.1, hRest.2]
      exact ⟨rfl, rfl⟩

end Expression

end Grammar

------------------------------------------------------------
-- Reading Values of One Meaning
------------------------------------------------------------

namespace Scanner

open Grammar

/- Values of one meaning in front of one text are read alike. -/
theorem agree_readValue_of_meaning
    {macros : MacroTable}
    {s s' : Scanner}
    {e e' : Expression}
    {after : Text}
    (hRest : s.rest = e.text ++ after)
    (hRest' : s'.rest = e'.text ++ after)
    (hWellFormed : e.isWellFormed = true)
    (hWellFormed' : e'.isWellFormed = true)
    (hDefined : e.isDefined macros = true)
    (hDefined' : e'.isDefined macros = true)
    (hEnds : e.EndsBefore after)
    (hEnds' : e'.EndsBefore after)
    (hMeaning : e.meaning macros = e'.meaning macros) :
    Scanned.Agree [] [] Eq
      (s.readValue macros) (s'.readValue macros) := by
  rcases readParts_eq_nextToken (faces_of_rest hRest) hEnds
    hWellFormed hDefined with ⟨s₁, hRest₁, hParts⟩
  rcases readParts_eq_nextToken (faces_of_rest hRest') hEnds'
    hWellFormed' hDefined' with ⟨s₁', hRest₁', hParts'⟩
  have hParted : s₁.Parted [] [] s₁' :=
    parted_nil_iff.2 (hRest₁'.trans hRest₁.symm)
  have hNext := @agree_nextToken [] [] _ _ hParted Text.meet_nil
    [.hash] (Or.inl (by decide))
  have hAfter : ∀ (e : Expression) (step : Scanned (Option Token)),
      (step.andThen fun _ s =>
        ((.ok (e.expansion macros), s) : Scanned Text)).andThen
          (fun text s => ((.ok text.normalizeSpace, s) :
            Scanned Text)) =
        step.andThen fun _ s => (.ok (e.meaning macros), s) := by
    rintro e ⟨result, s⟩
    cases result <;> rfl
  rw [readValue, readValue, hParts, hParts', hAfter, hAfter]
  apply hNext.andThen (fun _ _ => Nat.le_refl _)
  intro found found' s₂ s₂' _ _ h₂
  exact .value hMeaning h₂

/- What is behind a value does not add to the rest. -/
theorem length_rest_resume
    (config : ParserConfig)
    (macros : MacroTable)
    (o : Opening)
    (value : Text)
    (s : Scanner) :
    (o.resume config macros value s).2.rest.length ≤
      s.rest.length := by
  unfold Opening.resume Lead.resume
  cases o.lead with
  | definition gap name gapEquals =>
      exact length_rest_require_andThen s _ _
  | preamble => exact length_rest_require_andThen s _ _
  | field gap key slots gapComma gapName name gapEquals =>
      dsimp only
      split
      · exact Nat.le_refl _
      · rename_i d _
        exact length_rest_andThen_le
          (length_rest_readFields config macros _ d s)
          (fun _ _ => Nat.le_refl _)

/- Records with values of one meaning are read alike. -/
theorem agree_readRecord_of_meaning
    {config : ParserConfig}
    {macros : MacroTable}
    {s s' : Scanner}
    {o : Opening}
    {e e' : Expression}
    {after : Text}
    (hRest : '@' :: s.rest = o.text ++ (e.text ++ after))
    (hRest' : '@' :: s'.rest = o.text ++ (e'.text ++ after))
    (hRead : o.isRead config macros = true)
    (hWellFormed : e.isWellFormed = true)
    (hWellFormed' : e'.isWellFormed = true)
    (hDefined : e.isDefined macros = true)
    (hDefined' : e'.isDefined macros = true)
    (hEnds : e.EndsBefore after)
    (hEnds' : e'.EndsBefore after)
    (hMeaning : e.meaning macros = e'.meaning macros) :
    Scanned.Agree [] [] Eq
      (s.readRecord config macros) (s'.readRecord config macros) := by
  rcases readRecord_eq_readValue hRest hRead with
    ⟨s₁, hRest₁, hRecord⟩
  rcases readRecord_eq_readValue hRest' hRead with
    ⟨s₁', hRest₁', hRecord'⟩
  rw [hRecord, hRecord']
  apply (agree_readValue_of_meaning hRest₁ hRest₁' hWellFormed
    hWellFormed' hDefined hDefined' hEnds hEnds' hMeaning).andThen
    (length_rest_resume config macros o)
  rintro value _ s₂ s₂' _ rfl h₂
  exact agree_resume h₂ o value

end Scanner

------------------------------------------------------------
-- Uses of Macros
------------------------------------------------------------

namespace Grammar

/- A text around a value, with a definition in front. -/
structure Use where
  before : Text
  definition : Block
  between : Text
  opening : Opening
  after : Text
  deriving DecidableEq

namespace Use

/- What begins with the record that has the value. -/
def fromOpening (u : Use) (e : Expression) : Text :=
  u.opening.text ++ (e.text ++ u.after)

/- What begins behind the definition. -/
def fromBetween (u : Use) (e : Expression) : Text :=
  u.between ++ u.fromOpening e

def text (u : Use) (e : Expression) : Text :=
  u.before ++ (u.definition.text ++ u.fromBetween e)

/-
  A record may end too early in front of the value only if the
  definition is written without quotes and braces.
-/
def permits
    (v : Expression) : Except Error Record → Bool
  | .error e => !(v.isDelimited && e.isPrematureEnd)
  | .ok _ => true

/- The record defines neither the macro nor one that it uses. -/
def spares
    (a : Assignment) : Except Error Record → Bool
  | .ok (.definition name _) =>
      name.lower != a.name.lower && !a.value.mentions name
  | _ => true

/-
  The reader comes to the definition and takes it in, and from
  there to the value, in front of which the definition still
  holds.
-/
structure IsRead
    (config : ParserConfig)
    (u : Use)
    (a : Assignment)
    (e : Expression)
    (known db : Database) : Prop where
  isDefinition : u.definition.content = .definition a
  wellFormed : u.definition.isWellFormed = true
  defined : a.value.isDefined known.macros = true
  noSelf : a.value.mentions a.name = false
  toDefinition :
    Database.Arrives config (permits a.value)
      (.initial config) (.ofText (u.text e)) known
      (u.definition.text ++ u.fromBetween e)
  toOpening :
    Database.Arrives config
      (fun outcome => permits a.value outcome && spares a outcome)
      (known.addRecord
        (.definition a.name (a.value.meaning known.macros)))
      (.ofText (u.fromBetween e)) db (u.fromOpening e)
  openingRead : u.opening.isRead config db.macros = true
  valueWellFormed : e.isWellFormed = true
  valueDefined : e.isDefined db.macros = true
  valueEnds : e.EndsBefore u.after

variable {config : ParserConfig}
variable {u : Use}
variable {a : Assignment}
variable {e : Expression}
variable {known db : Database}

/- The definition holds where a macro table has what it says. -/
def Holds
    (a : Assignment)
    (text : Text)
    (macros : MacroTable) : Prop :=
  macros.get? a.name = some text ∧
    a.value.meaning macros = text ∧
    a.value.isDefined macros = true

/- The definition holds when it has been taken in. -/
theorem IsRead.holds_after
    (h : u.IsRead config a e known db) :
    Holds a (a.value.meaning known.macros)
      (known.addRecord (.definition a.name
        (a.value.meaning known.macros))).macros := by
  have hSame := @Expression.expansion_define known.macros a.value
    a.name h.noSelf (a.value.meaning known.macros)
  refine ⟨?_, ?_, ?_⟩
  · exact (MacroTable.get?_define _ _ _ _).trans (if_pos rfl)
  · exact congrArg Text.normalizeSpace hSame.1
  · exact hSame.2.trans h.defined

/- A record that spares it leaves it as it is. -/
theorem holds_add
    {text : Text}
    {outcome : Except Error Record}
    (hSpares : spares a outcome = true)
    (hHolds : Holds a text db.macros) :
    Holds a text (db.add outcome).macros := by
  cases outcome with
  | error err => exact hHolds
  | ok record =>
      rw [Database.add, Database.macros_addRecord]
      cases record with
      | definition name value =>
          rw [spares, Bool.and_eq_true, bne_iff_ne,
            Bool.not_eq_true'] at hSpares
          have hSame := @Expression.expansion_define db.macros a.value
            name hSpares.2 value
          have hGet := MacroTable.get?_define db.macros name value
            a.name
          rw [if_neg hSpares.1.symm] at hGet
          refine ⟨hGet.trans hHolds.1, ?_, ?_⟩
          · exact (congrArg Text.normalizeSpace hSame.1).trans
              hHolds.2.1
          · exact hSame.2.trans hHolds.2.2
      | _ => exact hHolds

/- The definition holds in front of the value. -/
theorem IsRead.holds
    (h : u.IsRead config a e known db) :
    Holds a (a.value.meaning known.macros) db.macros := by
  rcases h.toOpening with ⟨s₂, junk, hReaches, _⟩
  apply hReaches.preserves ?_ h.holds_after
  intro db outcome hAllowed hHolds
  rw [Bool.and_eq_true] at hAllowed
  exact holds_add hAllowed.2 hHolds

/- The texts from the value on, and where they can be told apart. -/
theorem meet_fromOpening (u : Use) (e e' : Expression) :
    Text.Meet (u.fromOpening e) (u.fromOpening e') :=
  ⟨Text.beginsRecord_cons _, Text.beginsRecord_cons _,
    fun hEmpty => by cases hEmpty⟩

/- The value in the definition is well formed. -/
theorem IsRead.isWellFormed_value
    (h : u.IsRead config a e known db) :
    a.value.isWellFormed = true := by
  have hBlock := h.wellFormed
  rw [Block.isWellFormed, h.isDefinition] at hBlock
  simp only [Bool.and_eq_true, Content.isWellFormed,
    Assignment.isWellFormed] at hBlock
  exact hBlock.1.2.2

/- A record that ends too early does not tell them apart. -/
theorem IsRead.endsInTime
    (h : u.IsRead config a e known db) :
    Database.EndsInTime (permits a.value) (u.fromOpening e)
      (u.fromOpening (e.substitute a.name a.value)) := by
  intro hDiffers err hPermits
  rw [permits, Bool.not_eq_true', Bool.and_eq_false_iff] at hPermits
  rcases hPermits with hBare | hInTime
  · rcases hDiffers with ⟨hEmpty, _⟩ | hMarks
    · cases hEmpty
    · refine absurd ?_ hMarks
      rw [fromOpening, fromOpening, List.filter_append,
        List.filter_append, List.filter_append, List.filter_append,
        Expression.filter_isMark_substitute h.isWellFormed_value hBare
          h.valueWellFormed]
  · exact hInTime

end Use

end Grammar

------------------------------------------------------------
-- Databases with Substituted Macros
------------------------------------------------------------

namespace Database

open Grammar

variable {config : ParserConfig}

/- The loop takes in a definition that it has come to. -/
theorem readRecords_definition
    {db : Database}
    {s : Scanner}
    {junk more : Text}
    {b : Block}
    {a : Assignment}
    (hRest : s.rest = junk ++ (b.text ++ more))
    (hJunk : '@' ∉ junk)
    (hContent : b.content = .definition a)
    (hWellFormed : b.isWellFormed = true)
    (hDefined : a.value.isDefined db.macros = true) :
    ∃ s' : Scanner, s'.rest = more ∧
      readRecords config db s =
        readRecords config
          (db.addRecord (.definition a.name
            (a.value.meaning db.macros))) s' := by
  have hMeaning : b.meaning config db.macros =
      .definition a.name (a.value.meaning db.macros) := by
    rw [Block.meaning, hContent]
    rfl
  rw [← hMeaning]
  apply readRecords_block hRest hJunk hWellFormed
  · rw [hContent, Content.values, List.all_cons, hDefined]
    rfl
  · rw [hContent]
    rfl

/- Records with values of one meaning leave the same. -/
theorem unlocated_readRecords_of_meaning
    {db db' : Database}
    {s s' : Scanner}
    {junk after : Text}
    {o : Opening}
    {e e' : Expression}
    (hRest : s.rest = junk ++ (o.text ++ (e.text ++ after)))
    (hRest' : s'.rest = junk ++ (o.text ++ (e'.text ++ after)))
    (hJunk : '@' ∉ junk)
    (hSame : db.unlocated = db'.unlocated)
    (hAgree : ∀ s₁ s₁' : Scanner,
      '@' :: s₁.rest = o.text ++ (e.text ++ after) →
      '@' :: s₁'.rest = o.text ++ (e'.text ++ after) →
        Scanned.Agree [] [] Eq (s₁.readRecord config db.macros)
          (s₁'.readRecord config db.macros)) :
    (readRecords config db s).unlocated =
      (readRecords config db' s').unlocated := by
  have hOpening : ∃ inner, o.text = '@' :: inner := ⟨_, rfl⟩
  rcases hOpening with ⟨inner, hInner⟩
  rw [hInner, List.cons_append] at hRest hRest'
  rcases Scanner.skipTo_atSign hRest hJunk with
    ⟨t, s₁, hSkip, hRest₁⟩
  rcases Scanner.skipTo_atSign hRest' hJunk with
    ⟨t', s₁', hSkip', hRest₁'⟩
  have hStep := hAgree s₁ s₁'
    (by rw [hRest₁, hInner, List.cons_append])
    (by rw [hRest₁', hInner, List.cons_append])
  rcases add_of_agree_nil hStep hSame with ⟨hAdd, hAfter⟩
  rw [readRecords.eq_def config db, hSkip,
    readRecords.eq_def config db', hSkip']
  dsimp only
  rw [macros_of_unlocated hSame]
  exact unlocated_readRecords_of_junk List.not_mem_nil hAfter hAdd

variable {u : Use}
variable {a : Assignment}
variable {e : Expression}
variable {known db : Database}

/- Both loops come to the definition and take it in. -/
theorem take_in_definition
    (hRead : u.IsRead config a e known db) :
    ∃ db' s', (parse config (u.text e)).unlocated =
        (readRecords config (known.addRecord (.definition a.name
          (a.value.meaning known.macros)))
            (.ofText (u.fromBetween e))).unlocated ∧
      parse config (u.text (e.substitute a.name a.value)) =
        readRecords config db' s' ∧
      s'.rest = u.fromBetween (e.substitute a.name a.value) ∧
      (known.addRecord (.definition a.name
        (a.value.meaning known.macros))).unlocated =
          db'.unlocated := by
  have hMeet := u.meet_fromOpening e (e.substitute a.name a.value)
  have hParted : (Scanner.ofText (u.text e)).Parted
      (u.fromOpening e) (u.fromOpening (e.substitute a.name a.value))
      (.ofText (u.text (e.substitute a.name a.value))) := by
    refine ⟨u.before ++ (u.definition.text ++ u.between), ?_, ?_⟩
    · simp [Scanner.ofText, Use.text, Use.fromBetween]
    · simp [Scanner.ofText, Use.text, Use.fromBetween]
  have hArrives := hRead.toDefinition
  rw [Use.fromBetween, ← List.append_assoc] at hArrives
  rcases hArrives.parted hMeet hRead.endsInTime hParted rfl with
    ⟨known', s₀, s₀', junk, hRun, hRun', hRest, hRest', hJunk, hSame⟩
  rw [List.append_assoc] at hRest hRest'
  have hMacros : known'.macros = known.macros :=
    macros_of_unlocated hSame
  have hDefined' : a.value.isDefined known'.macros = true := by
    rw [hMacros]
    exact hRead.defined
  rcases @readRecords_definition config known s₀ _ _ _ _ hRest hJunk
    hRead.isDefinition hRead.wellFormed hRead.defined with
    ⟨s₁, hRest₁, hStep⟩
  rcases @readRecords_definition config known' s₀' _ _ _ _ hRest'
    hJunk hRead.isDefinition hRead.wellFormed hDefined' with
    ⟨s₁', hRest₁', hStep'⟩
  rw [hMacros] at hStep'
  refine ⟨_, s₁', ?_, hRun'.trans hStep', hRest₁', ?_⟩
  · rw [parse, hRun, hStep]
    exact (unlocated_readRecords_of_junk List.not_mem_nil hRest₁
      rfl).symm
  · rw [unlocated_addRecord known, unlocated_addRecord known', hSame]

/- The value and the one with the parts for the macro mean the same. -/
theorem meaning_substitute
    (hRead : u.IsRead config a e known db)
    (hBlanks : e.keepsBlanks db.macros a.name a.value [] = true) :
    e.meaning db.macros =
      (e.substitute a.name a.value).meaning db.macros := by
  have hHolds := hRead.holds
  have hText : db.macros.get? a.name =
      some (a.value.meaning db.macros) := by
    rw [hHolds.1, hHolds.2.1]
  exact Expression.normalizeSpace_substitute hText hBlanks

/-
  Where a macro is used that an earlier record of the text has
  defined, the parts of its value can be written instead.  The
  text is read in the same way, up to places, if the macro and
  those in its value have not been defined anew, the white space
  at the ends of its text has parted no words, and no record in
  front of the value has ended too early.
-/
theorem parse_substitute
    (config : ParserConfig)
    {u : Use}
    {a : Assignment}
    {e : Expression}
    {known db : Database}
    (hRead : u.IsRead config a e known db)
    (hBlanks : e.keepsBlanks db.macros a.name a.value [] = true) :
    (parse config (u.text e)).unlocated =
      (parse config
        (u.text (e.substitute a.name a.value))).unlocated := by
  rcases take_in_definition hRead with
    ⟨db₁', s₁', hRun, hRun', hRest₁', hSame₁⟩
  -- From the definition both loops come to the value.
  have hMeet := u.meet_fromOpening e (e.substitute a.name a.value)
  have hEnds : EndsInTime
      (fun outcome => Use.permits a.value outcome &&
        Use.spares a outcome) (u.fromOpening e)
      (u.fromOpening (e.substitute a.name a.value)) := by
    intro hDiffers err hAllowed
    exact hRead.endsInTime hDiffers err
      (Bool.and_eq_true_iff.1 hAllowed).1
  have hParted : (Scanner.ofText (u.fromBetween e)).Parted
      (u.fromOpening e) (u.fromOpening (e.substitute a.name a.value))
      s₁' := ⟨u.between, rfl, hRest₁'⟩
  rcases @Arrives.parted config _ _ db _ _ _ _ s₁' [] hRead.toOpening
    hMeet hEnds hParted hSame₁ with
    ⟨db₂', s₂, s₂', junk, hMore, hMore', hRest₂, hRest₂', hJunk, hSame⟩
  rw [hRun, hMore, hRun', hMore']
  -- Their records are read alike, because the values mean the same.
  refine unlocated_readRecords_of_meaning hRest₂ hRest₂' hJunk hSame ?_
  intro s₃ s₃' hRest₃ hRest₃'
  exact Scanner.agree_readRecord_of_meaning hRest₃ hRest₃'
    hRead.openingRead hRead.valueWellFormed
    (Expression.isWellFormed_substitute hRead.isWellFormed_value
      hRead.valueWellFormed)
    hRead.valueDefined
    (Expression.isDefined_substitute hRead.holds.2.2
      hRead.valueDefined)
    hRead.valueEnds (Expression.endsBefore_substitute hRead.valueEnds)
    (meaning_substitute hRead hBlanks)

end Database

------------------------------------------------------------
-- Samples
------------------------------------------------------------

namespace Grammar

namespace Use

/- A definition of a macro at the beginning of a text. -/
def definitionOf (a : Assignment) : Block where
  gapKind := []
  kind := "string".toList
  gapOpen := []
  delimiter := .braces
  content := .definition a
  gapClose := []

/- A field of an entry without other fields in front. -/
def openingOf (name : Text) : Opening where
  gapKind := []
  kind := "misc".toList
  gapOpen := []
  delimiter := .braces
  lead := .field [] "k".toList [] [] " ".toList name " ".toList

/- A macro of two parts, and a record that fails in front of it. -/
def sampleMacro : Assignment where
  gap := []
  name := "m".toList
  gapEquals := " ".toList
  value := .joined " ".toList (.braced "x y ".toList) " ".toList
    (.single " ".toList (.abbreviation "jan".toList))

def sample : Use where
  before := "@misc\x7ba, t = n\x7d".toList
  definition := definitionOf sampleMacro
  between := "\n".toList
  opening := openingOf "note".toList
  after := ", t = m\x7d".toList

/- It is used twice, in different letter case. -/
def sampleValue : Expression :=
  .joined " ".toList (.abbreviation "M".toList) " ".toList
    (.joined " ".toList (.quoted " and".toList) []
      (.single [] (.abbreviation "m".toList)))

/- A macro with white space at the ends, between two letters. -/
def blankMacro : Assignment where
  gap := []
  name := "m".toList
  gapEquals := " ".toList
  value := .single " ".toList (.quoted " a ".toList)

def blankEnds : Use where
  before := []
  definition := definitionOf blankMacro
  between := []
  opening := openingOf "note".toList
  after := "\x7d".toList

def blankValue : Expression :=
  .joined " ".toList (.quoted "x".toList) " ".toList
    (.joined " ".toList (.abbreviation "m".toList) " ".toList
      (.single " ".toList (.quoted "y".toList)))

/- A record that fails at the end of the text, in front of the use. -/
def bracedMacro : Assignment where
  gap := []
  name := "m".toList
  gapEquals := " ".toList
  value := .single " ".toList (.braced "x".toList)

def openBody : Use where
  before := []
  definition := definitionOf bracedMacro
  between := "@misc\x7ba, t = \x7bb ".toList
  opening := { openingOf "f".toList with delimiter := .parens }
  after := ")".toList

def bareValue : Expression :=
  .single " ".toList (.abbreviation "m".toList)

end Use

end Grammar

namespace Database

open Grammar

theorem parse_substitute_sample :
    ∃ known db : Database,
      Use.sample.IsRead .standard Use.sampleMacro Use.sampleValue
        known db ∧
      Use.sampleValue.keepsBlanks db.macros Use.sampleMacro.name
        Use.sampleMacro.value [] = true ∧
      (parse .standard (Use.sample.text Use.sampleValue)).unlocated =
        (parse .standard (Use.sample.text
          (Use.sampleValue.substitute Use.sampleMacro.name
            Use.sampleMacro.value))).unlocated := by
  let s : Scanner := .ofText (Use.sample.text Use.sampleValue)
  let step := (s.read 1).readRecord .standard
    (initial .standard).macros
  let known := (initial .standard).add step.1
  let db := known.addRecord (.definition Use.sampleMacro.name
    (Use.sampleMacro.value.meaning known.macros))
  have hSkip : s.skipTo [.atSign] =
      some (s.token 1 .atSign, s.read 1) := by decide +kernel
  have hRead : Use.sample.IsRead .standard Use.sampleMacro
      Use.sampleValue known db := {
    isDefinition := rfl
    wellFormed := by decide +kernel
    defined := by decide +kernel
    noSelf := by decide +kernel
    toDefinition := by
      refine ⟨step.2, "\x7d".toList,
        .record hSkip (by decide +kernel) (.here known step.2),
        by decide +kernel, by decide⟩
    toOpening :=
      ⟨_, "\n".toList, .here db _, rfl, by decide⟩
    openingRead := by decide +kernel
    valueWellFormed := by decide +kernel
    valueDefined := by decide +kernel
    valueEnds := by
      refine ⟨?_, ?_⟩
      · intro c hHead
        cases hHead
        rfl
      · intro c hHead
        cases hHead
        decide }
  have hBlanks : Use.sampleValue.keepsBlanks db.macros
      Use.sampleMacro.name Use.sampleMacro.value [] = true := by
    decide +kernel
  exact ⟨known, db, hRead, hBlanks,
    parse_substitute .standard hRead hBlanks⟩

/- A macro has lost the white space that its parts have. -/
theorem substitute_blankEnds :
    (∃ known db : Database,
      Use.blankEnds.IsRead .standard Use.blankMacro Use.blankValue
        known db) ∧
      (parse .standard (Use.blankEnds.text Use.blankValue)).table ≠
        (parse .standard (Use.blankEnds.text
          (Use.blankValue.substitute Use.blankMacro.name
            Use.blankMacro.value))).table := by
  constructor
  · refine ⟨initial .standard, _, {
      isDefinition := rfl
      wellFormed := by decide +kernel
      defined := by decide +kernel
      noSelf := by decide +kernel
      toDefinition := ⟨_, [], .here _ _, rfl, List.not_mem_nil⟩
      toOpening := ⟨_, [], .here _ _, rfl, List.not_mem_nil⟩
      openingRead := by decide +kernel
      valueWellFormed := by decide +kernel
      valueDefined := by decide +kernel
      valueEnds := by
        refine ⟨trivial, ?_⟩
        intro c hHead
        cases hHead
        decide }⟩
  · decide +kernel

/-
  A body that does not end is passed over up to the last brace, so
  a brace of the macro hides the record that uses it.
-/
example :
    (parse .standard (Use.openBody.text Use.bareValue)).table.keys =
        ["k".toList] ∧
      (parse .standard (Use.openBody.text
        (Use.bareValue.substitute "m".toList
          Use.bracedMacro.value))).table.keys = [] := by
  decide +kernel

end Database

end Bibliography
