import Bibliography.Proofs.Database.Agreement
import Bibliography.Proofs.Database.Documents

/-
  Records up to one of their values.

  What stands in front of a value in a record is an opening.  If
  all of it can be read, the value is read next, whatever it is,
  and the rest of the record depends on the value that has been
  read and on the text behind it.

  Key definitions include:
    * `Grammar.Opening`
    * `Grammar.Opening.isRead`
    * `Grammar.Opening.resume`

  Key statements include:
    * `Scanner.readRecord_eq_readValue`
    * `Scanner.agree_resume`
-/

------------------------------------------------------------
-- Openings
------------------------------------------------------------

namespace Bibliography

namespace Grammar

/- What stands between an opening delimiter and a value. -/
inductive Lead where
  | definition (gap name gapEquals : Text)
  | preamble
  | field (gap key : Text) (slots : List Slot)
      (gapComma gapName name gapEquals : Text)
  deriving DecidableEq

namespace Lead

/- The text of an assignment up to its value. -/
def target (gap name gapEquals : Text) : Text :=
  gap ++ (name ++ (gapEquals ++ ['=']))

def text : Lead → Text
  | .definition gap name gapEquals => target gap name gapEquals
  | .preamble => []
  | .field gap key slots gapComma gapName name gapEquals =>
      gap ++ (key ++ (slots.flatMap Slot.text ++
        (gapComma ++ ',' :: target gapName name gapEquals)))

/- Whether white space and tokens are what they have to be. -/
def isWellFormed : Lead → Bool
  | .definition gap name gapEquals =>
      gap.isBlank && Pattern.name.accepts name && gapEquals.isBlank
  | .preamble => true
  | .field gap key slots gapComma gapName name gapEquals =>
      gap.isBlank && Pattern.key.accepts key &&
        slots.all Slot.isWellFormed && gapComma.isBlank &&
        (gapName.isBlank && Pattern.name.accepts name &&
          gapEquals.isBlank)

/- Whether a record of a kind, in lower case, begins like this. -/
def fits
    (kind : Text) : Lead → Bool
  | .definition .. => kind == "string".toList
  | .preamble => kind == "preamble".toList
  | .field .. =>
      kind != "string".toList && kind != "preamble".toList &&
        kind != "comment".toList

/- The draft that the fields in some slots make, if all are read. -/
def draft
    (config : ParserConfig)
    (macros : MacroTable)
    (kind : Text)
    (slots : List Slot) : Except Error Draft :=
  (Draft.ofType kind).takeAll config
    ((assignmentsOf slots).map (Assignment.meaning macros))

/- Whether the fields in front can be read. -/
def isRead
    (config : ParserConfig)
    (macros : MacroTable)
    (kind : Text) : Lead → Bool
  | .field _ _ slots _ _ _ _ =>
      (assignmentsOf slots).all (fun a => a.value.isDefined macros) &&
        (draft config macros kind slots).isOk
  | _ => true

/- The rest of the record behind the value. -/
def resume
    (config : ParserConfig)
    (macros : MacroTable)
    (kind : Text)
    (close : Pattern)
    (value : Text)
    (s : Scanner) : Lead → Scanned Record
  | .definition _ name _ =>
      (s.require [close]).andThen fun _ s =>
        (.ok (.definition name value), s)
  | .preamble =>
      (s.require [close]).andThen fun _ s =>
        (.ok (.preamble value), s)
  | .field _ key slots _ _ name _ =>
      match (draft config macros kind slots).bind
        (fun d => d.addField config name.lower value) with
      | .error e => (.error e, s)
      | .ok d =>
          (s.readFields config macros close d).andThen fun d s =>
            (.ok (.entry key d.entry d.repeated), s)

end Lead

/- A record up to one of its values. -/
structure Opening where
  gapKind : Text
  kind : Text
  gapOpen : Text
  delimiter : Delimiter
  lead : Lead
  deriving DecidableEq

namespace Opening

def text (o : Opening) : Text :=
  '@' :: (o.gapKind ++ (o.kind ++
    (o.gapOpen ++ o.delimiter.opening :: o.lead.text)))

/- Whether a reader that knows some macros gets to the value. -/
def isRead
    (config : ParserConfig)
    (macros : MacroTable)
    (o : Opening) : Bool :=
  o.gapKind.isBlank && Pattern.name.accepts o.kind &&
    o.gapOpen.isBlank && o.lead.fits o.kind.lower &&
    o.lead.isWellFormed && o.lead.isRead config macros o.kind.lower

/- The rest of the record behind a value that has been read. -/
def resume
    (config : ParserConfig)
    (macros : MacroTable)
    (o : Opening)
    (value : Text)
    (s : Scanner) : Scanned Record :=
  o.lead.resume config macros o.kind.lower o.delimiter.closer value s

end Opening

end Grammar

------------------------------------------------------------
-- Reading up to a Value
------------------------------------------------------------

namespace Scanner

open Grammar

variable {config : ParserConfig}
variable {macros : MacroTable}
variable {s : Scanner}
variable {after : Text}

/- What stands between the delimiters is read up to a value. -/
theorem readContent_eq_readValue
    {lead : Lead}
    {kind : Text}
    (hRest : s.rest = lead.text ++ after)
    (hFits : lead.fits kind = true)
    (hWellFormed : lead.isWellFormed = true)
    (hRead : lead.isRead config macros kind = true)
    (close : Pattern) :
    ∃ s₁ : Scanner, s₁.rest = after ∧
      s.readContent config macros kind close =
        (s₁.readValue macros).andThen fun value s =>
          lead.resume config macros kind close value s := by
  cases lead with
  | definition gap name gapEquals =>
      have hString : kind = "string".toList := eq_of_beq hFits
      rw [Lead.isWellFormed, Bool.and_eq_true, Bool.and_eq_true]
        at hWellFormed
      rcases hWellFormed with ⟨⟨hGap, hName⟩, hEquals⟩
      rw [readContent, if_pos hString]
      apply readDefinition_eq_readValue ?_ hGap hName hEquals close
      apply faces_of_rest
      rw [hRest]
      simp [Lead.text, Lead.target]
  | preamble =>
      have hPreamble : kind = "preamble".toList := eq_of_beq hFits
      have hString : ¬ kind = "string".toList := by
        rw [hPreamble]
        decide
      rw [readContent, if_neg hString, if_pos hPreamble]
      exact ⟨s, hRest, rfl⟩
  | field gap key slots gapComma gapName name gapEquals =>
      rw [Lead.fits, Bool.and_eq_true, Bool.and_eq_true,
        bne_iff_ne, bne_iff_ne, bne_iff_ne] at hFits
      rw [Lead.isWellFormed] at hWellFormed
      simp only [Bool.and_eq_true] at hWellFormed
      rcases hWellFormed with
        ⟨⟨⟨⟨hGap, hKey⟩, hSlots⟩, hComma⟩, ⟨hLead, hName⟩, hEquals⟩
      rw [Lead.isRead, Bool.and_eq_true, List.all_eq_true] at hRead
      rcases hRead with ⟨hDefined, hOk⟩
      cases hDraft : Lead.draft config macros kind slots with
      | error e =>
          rw [hDraft] at hOk
          cases hOk
      | ok d =>
          have hFields : s.rest = gap ++ (key ++
              (slots.flatMap Slot.text ++ (gapComma ++ ',' ::
                (gapName ++ (name ++ (gapEquals ++ '=' ::
                  after)))))) := by
            rw [hRest]
            simp [Lead.text, Lead.target]
          rcases reads_require_one (faces_of_rest hFields) hGap hKey
            (stopsAt_slotsText hComma (Or.inl rfl) hSlots _) with
            ⟨t, s₁, hToken, hIs, hRest₁⟩
          rcases @readFields_of_slots config macros s₁ _ _ _ close _ _
            _ (faces_of_rest hRest₁) hComma (Or.inl rfl) hSlots
            hDefined hDraft with ⟨s₂, hFaces₂, hSlotsRead⟩
          rcases @readFields_eq_readValue config macros s₂ _ close _ _
            _ _ hFaces₂ hComma hLead hName hEquals d with
            ⟨s₃, hRest₃, hValue⟩
          refine ⟨s₃, hRest₃, ?_⟩
          rw [readContent, if_neg hFits.1.1, if_neg hFits.1.2,
            if_neg hFits.2, readEntry, hToken, Scanned.andThen_ok,
            hSlotsRead, hValue]
          cases s₃.readValue macros with
          | mk result s₄ =>
              cases result with
              | error e => rfl
              | ok value =>
                  rw [Scanned.andThen_ok, Scanned.andThen_ok,
                    Lead.resume, hDraft, hIs.2]
                  dsimp only [Except.bind]
                  cases d.addField config name.lower value with
                  | error e => rfl
                  | ok d' => rfl

/-
  A record is read up to a value, and the rest of it behind the
  value.
-/
theorem readRecord_eq_readValue
    {o : Opening}
    (hRest : '@' :: s.rest = o.text ++ after)
    (hRead : o.isRead config macros = true) :
    ∃ s₁ : Scanner, s₁.rest = after ∧
      s.readRecord config macros =
        (s₁.readValue macros).andThen (o.resume config macros) := by
  rw [Opening.isRead] at hRead
  simp only [Bool.and_eq_true] at hRead
  rcases hRead with
    ⟨⟨⟨⟨⟨hGap, hName⟩, hOpen⟩, hFits⟩, hWellFormed⟩, hLead⟩
  have hText : o.text ++ after = '@' :: (o.gapKind ++ (o.kind ++
      (o.gapOpen ++ o.delimiter.opening ::
        (o.lead.text ++ after)))) := by
    simp [Opening.text]
  rcases @readRecord_eq_readContent config macros s _ _ _ _ _
    (faces_of_rest (List.cons.inj (hRest.trans hText)).2) hGap hName
    hOpen with ⟨s₁, hRest₁, hRecord⟩
  rcases readContent_eq_readValue hRest₁ hFits hWellFormed hLead
    o.delimiter.closer with ⟨s₂, hRest₂, hContent⟩
  exact ⟨s₂, hRest₂, hRecord.trans hContent⟩

/- Behind a value the rest of the record depends on the text. -/
theorem agree_resume
    {s' : Scanner}
    (h : s.Parted [] [] s')
    (o : Opening)
    (value : Text) :
    Scanned.Agree [] [] Eq
      (o.resume config macros value s)
      (o.resume config macros value s') := by
  have hClose : o.delimiter.closer ≠ .key := by
    cases o.delimiter <;> decide
  unfold Opening.resume Lead.resume
  cases o.lead with
  | definition gap name gapEquals =>
      exact agree_require_closer h Text.meet_nil hClose _
  | preamble =>
      exact agree_require_closer h Text.meet_nil hClose _
  | field gap key slots gapComma gapName name gapEquals =>
      dsimp only
      split
      · exact .failure rfl h
      · rename_i d _
        apply (agree_readFields h Text.meet_nil config macros hClose
          d).andThen (fun _ _ => Nat.le_refl _)
        rintro d' _ s₁ s₁' _ rfl h₁
        exact .value rfl h₁

end Scanner

end Bibliography
