import Bibliography.Proofs.Database.Recovery

/-
  Runs of the reader up to a place in its text.

  The loop over the records gets to a text if that is what is left
  behind some of the records, white space and other text between
  records aside.  Another loop over a text with the same beginning
  gets to the same place, unless a record before it ends too early
  where this can depend on what is behind the place.

  Key definitions include:
    * `Database.Reaches`
    * `Database.Arrives`

  Key statements include:
    * `Database.Reaches.preserves`
    * `Database.Reaches.parted`
    * `Database.Arrives.parted`
-/

------------------------------------------------------------
-- Runs
------------------------------------------------------------

namespace Bibliography

namespace Database

/-
  The loop gets from one place to another one, and the outcomes of
  the records in between are of a class.
-/
inductive Reaches
    (config : ParserConfig)
    (allowed : Except Error Record → Bool) :
    Database → Scanner → Database → Scanner → Prop
  | here
      (db : Database)
      (s : Scanner) :
      Reaches config allowed db s db s
  | record
      {db db₂ : Database}
      {s s₁ s₂ : Scanner}
      {t : Token}
      (hSkip : s.skipTo [.atSign] = some (t, s₁))
      (hAllowed :
        allowed (s₁.readRecord config db.macros).1 = true)
      (hMore : Reaches config allowed
        (db.add (s₁.readRecord config db.macros).1)
        (s₁.readRecord config db.macros).2 db₂ s₂) :
      Reaches config allowed db s db₂ s₂

variable {config : ParserConfig}
variable {allowed : Except Error Record → Bool}
variable {db db₂ : Database}
variable {s s₂ : Scanner}

/- The loop goes on from a place that it reaches. -/
theorem Reaches.readRecords_eq
    (h : Reaches config allowed db s db₂ s₂) :
    readRecords config db s = readRecords config db₂ s₂ := by
  induction h with
  | here db s => rfl
  | record hSkip hAllowed hMore ih =>
      rw [readRecords, hSkip]
      exact ih

/- The loop does not go back. -/
theorem Reaches.length_rest_le
    (h : Reaches config allowed db s db₂ s₂) :
    s₂.rest.length ≤ s.rest.length := by
  induction h with
  | here db s => exact Nat.le_refl _
  | @record db db₂ s s₁ s₂ t hSkip hAllowed hMore ih =>
      exact Nat.le_trans ih
        (Nat.le_trans
          (Scanner.length_rest_readRecord config db.macros s₁)
          (Nat.le_of_lt (Scanner.length_rest_skipTo hSkip)))

/- What the outcomes of the class preserve holds at the end. -/
theorem Reaches.preserves
    {P : Database → Prop}
    (h : Reaches config allowed db s db₂ s₂)
    (hStep : ∀ db outcome, allowed outcome = true →
      P db → P (db.add outcome))
    (hStart : P db) : P db₂ := by
  induction h with
  | here db s => exact hStart
  | record hSkip hAllowed hMore ih =>
      exact ih (hStep _ _ hAllowed hStart)

------------------------------------------------------------
-- Runs on Texts with the Same Beginning
------------------------------------------------------------

variable {tail tail' : Text}

/-
  The outcomes of a class do not end too early where this can tell
  two tails apart.
-/
def EndsInTime
    (allowed : Except Error Record → Bool)
    (tail tail' : Text) : Prop :=
  Text.EndDiffers tail tail' →
    ∀ e : Error, allowed (.error e) = true → e.isPrematureEnd = false

/-
  If the first loop reaches a place in front of its tail, then the
  second loop gets to the place in front of its own.
-/
theorem Reaches.parted
    {db' : Database}
    {s' : Scanner}
    (h : Reaches config allowed db s db₂ s₂)
    (hMeet : Text.Meet tail tail')
    (hEnds : EndsInTime allowed tail tail')
    (hPlace : tail.length ≤ s₂.rest.length)
    (hParted : s.Parted tail tail' s')
    (hSame : db.unlocated = db'.unlocated) :
    ∃ db₂' s₂', readRecords config db' s' =
        readRecords config db₂' s₂' ∧
      s₂.Parted tail tail' s₂' ∧
      db₂.unlocated = db₂'.unlocated := by
  induction h generalizing db' s' with
  | here db s => exact ⟨db', s', rfl, hParted, hSame⟩
  | @record db db₂ s s₁ s₂ t hSkip hAllowed hMore ih =>
      -- The first loop has not read into its tail.
      have hAfter := Nat.le_trans hPlace hMore.length_rest_le
      have hBefore := Nat.le_trans hAfter
        (Scanner.length_rest_readRecord config db.macros s₁)
      rcases hParted.skipTo_atSign hSkip with
        hPast | ⟨t', s₁', hSkip', h₁⟩
      · exact absurd hBefore (Nat.not_le_of_lt hPast)
      have hAgree :=
        Scanner.agree_readRecord h₁ hMeet config db.macros
      rw [readRecords.eq_def config db', hSkip']
      dsimp only
      rw [macros_of_unlocated hSame]
      rcases add_of_agree hAgree hSame with
        hPast | ⟨hDiffers, e, hError, hEarly⟩ | ⟨hAdd, hNext⟩
      · exact absurd hAfter (Nat.not_le_of_lt hPast)
      · rw [hError] at hAllowed
        rw [hEnds hDiffers e hAllowed] at hEarly
        cases hEarly
      · exact ih hPlace hNext hAdd

------------------------------------------------------------
-- Places in a Text
------------------------------------------------------------

/- The loop gets to a text, up to what stands between records. -/
def Arrives
    (config : ParserConfig)
    (allowed : Except Error Record → Bool)
    (db : Database)
    (s : Scanner)
    (db₂ : Database)
    (t : Text) : Prop :=
  ∃ s₂ junk, Reaches config allowed db s db₂ s₂ ∧
    s₂.rest = junk ++ t ∧ '@' ∉ junk

/- A loop over a text with another tail gets to the same place. -/
theorem Arrives.parted
    {db' : Database}
    {s' : Scanner}
    {front : Text}
    (h : Arrives config allowed db s db₂ (front ++ tail))
    (hMeet : Text.Meet tail tail')
    (hEnds : EndsInTime allowed tail tail')
    (hParted : s.Parted tail tail' s')
    (hSame : db.unlocated = db'.unlocated) :
    ∃ db₂' s₂' s₂'' junk,
      readRecords config db s = readRecords config db₂ s₂' ∧
        readRecords config db' s' = readRecords config db₂' s₂'' ∧
        s₂'.rest = junk ++ (front ++ tail) ∧
        s₂''.rest = junk ++ (front ++ tail') ∧
        '@' ∉ junk ∧
        db₂.unlocated = db₂'.unlocated := by
  rcases h with ⟨s₂, junk, hReaches, hRest, hJunk⟩
  have hPlace : tail.length ≤ s₂.rest.length := by
    rw [hRest, List.length_append, List.length_append]
    omega
  rcases hReaches.parted hMeet hEnds hPlace hParted hSame with
    ⟨db₂', s₂', hRun', ⟨ahead, hAhead, hAhead'⟩, hSame₂⟩
  have hFront : ahead = junk ++ front := by
    rw [hRest, ← List.append_assoc] at hAhead
    exact (List.append_cancel_right hAhead).symm
  rw [hFront, List.append_assoc] at hAhead'
  exact ⟨db₂', s₂, s₂', junk, hReaches.readRecords_eq, hRun', hRest,
    hAhead', hJunk, hSame₂⟩

end Database

end Bibliography
