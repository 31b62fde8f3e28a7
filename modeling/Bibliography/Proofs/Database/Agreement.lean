import Bibliography.Proofs.Database.Body

/-
  Reading two texts with the same beginning.

  Two scanners are compared that face the same text and then tails
  of their own.  A tail is a record or nothing, so no token but a
  key can run into it.  The scanners go through the same steps, up
  to the locations in their errors, unless the first reads into
  its tail, or comes to the end of its text too early where this
  can depend on the tail.  A key can run into a tail that the
  first text does not have, but then the first scanner has come to
  its end behind the key.

  Key definitions include:
    * `Error.unlocated`
    * `Text.Meet`
    * `Text.EndDiffers`
    * `Scanner.Parted`
    * `Scanned.Agree`

  Key statements include:
    * `Scanned.Agree.andThen`
    * `Scanner.agree_nextToken`
    * `Scanner.agree_readBody`
    * `Scanner.agree_readValue`
    * `Scanner.agree_readFields`
    * `Scanner.agree_readRecord`
-/

------------------------------------------------------------
-- Errors without Locations
------------------------------------------------------------

namespace Bibliography

/- The place that stands for any place. -/
def Location.anywhere : Location :=
  ⟨0, 0, []⟩

/- The cause without its place. -/
def ErrorKind.unlocated : ErrorKind → ErrorKind
  | .tokenRequired expected _ => .tokenRequired expected .anywhere
  | .prematureEnd _ => .prematureEnd .anywhere
  | .unbalancedBrace _ => .unbalancedBrace .anywhere
  | kind => kind

namespace Error

/- The error without its place. -/
def unlocated (e : Error) : Error :=
  { e with kind := e.kind.unlocated }

/- The text ended too early. -/
def isPrematureEnd (e : Error) : Bool :=
  match e.kind with
  | .prematureEnd _ => true
  | _ => false

end Error

------------------------------------------------------------
-- Tails
------------------------------------------------------------

namespace Text

/- A text with which a step does not go on: a record or nothing. -/
def BeginsRecord (t : Text) : Prop :=
  ∀ c ∈ t.head?, c = '@'

theorem beginsRecord_nil : BeginsRecord [] := by
  intro c hHead
  cases hHead

theorem beginsRecord_cons (t : Text) : BeginsRecord ('@' :: t) := by
  intro c hHead
  cases hHead
  rfl

/- Records or nothing, and only the first may be missing alone. -/
structure Meet (tail tail' : Text) : Prop where
  left : tail.BeginsRecord
  right : tail'.BeginsRecord
  ends : tail' = [] → tail = []

theorem meet_nil : Meet [] [] :=
  ⟨beginsRecord_nil, beginsRecord_nil, fun _ => rfl⟩

/- The characters that decide where a body ends. -/
def isMark (c : Char) : Bool :=
  isBrace c || c == '"'

/-
  A body that does not end in one of the texts may end in the
  other one, or the other one may go on where this one ends.
-/
def EndDiffers (tail tail' : Text) : Prop :=
  (tail = [] ∧ tail' ≠ []) ∨
    tail.filter isMark ≠ tail'.filter isMark

theorem not_endDiffers_self (t : Text) : ¬ EndDiffers t t := by
  rintro (⟨hEmpty, hNonempty⟩ | hMarks)
  · exact hNonempty hEmpty
  · exact hMarks rfl

end Text

------------------------------------------------------------
-- Agreement
------------------------------------------------------------

/- The scanners face the same text and then their tails. -/
def Scanner.Parted
    (tail tail' : Text)
    (s s' : Scanner) : Prop :=
  ∃ ahead : Text, s.rest = ahead ++ tail ∧ s'.rest = ahead ++ tail'

/- The two tokens differ in their places at most. -/
def Token.Same (t t' : Token) : Prop :=
  t.text = t'.text ∧ t.pattern = t'.pattern

namespace Scanned

variable {α β γ δ : Type}

/-
  Of two steps the first reads into its tail or ends too early, or
  both fail in the same way, or both have corresponding values.
-/
inductive Agree
    (tail tail' : Text)
    (R : α → β → Prop) : Scanned α → Scanned β → Prop
  | past
      {step : Scanned α}
      {other : Scanned β}
      (hPast : step.2.rest.length < tail.length) :
      Agree tail tail' R step other
  | early
      {e : Error}
      {s : Scanner}
      {other : Scanned β}
      (hDiffers : Text.EndDiffers tail tail')
      (hEarly : e.isPrematureEnd = true) :
      Agree tail tail' R (.error e, s) other
  | failure
      {e e' : Error}
      {s s' : Scanner}
      (hError : e.unlocated = e'.unlocated)
      (hRest : s.Parted tail tail' s') :
      Agree tail tail' R (.error e, s) (.error e', s')
  | value
      {a : α}
      {b : β}
      {s s' : Scanner}
      (hValue : R a b)
      (hRest : s.Parted tail tail' s') :
      Agree tail tail' R (.ok a, s) (.ok b, s')

variable {tail tail' : Text}

/-
  Steps after steps agree if they do after every value.  What has
  been read of the tail is not given back.
-/
theorem Agree.andThen
    {R : α → β → Prop}
    {Q : γ → δ → Prop}
    {step : Scanned α}
    {step' : Scanned β}
    {next : α → Scanner → Scanned γ}
    {next' : β → Scanner → Scanned δ}
    (hStep : Agree tail tail' R step step')
    (hLess : ∀ a s, (next a s).2.rest.length ≤ s.rest.length)
    (hNext : ∀ a b s s', step = (.ok a, s) → R a b →
      s.Parted tail tail' s' →
        Agree tail tail' Q (next a s) (next' b s')) :
    Agree tail tail' Q (step.andThen next) (step'.andThen next') := by
  cases hStep with
  | past hPast =>
      apply Agree.past
      rcases step with ⟨result, s⟩
      cases result with
      | error e => exact hPast
      | ok a => exact Nat.lt_of_le_of_lt (hLess a s) hPast
  | early hDiffers hEarly => exact .early hDiffers hEarly
  | failure hError hRest => exact .failure hError hRest
  | value hValue hRest => exact hNext _ _ _ _ rfl hValue hRest

end Scanned

------------------------------------------------------------
-- Tokens
------------------------------------------------------------

namespace Pattern

/- A record does not continue a token, unless this is a key. -/
theorem stopsAt_of_beginsRecord
    {p : Pattern}
    {tail : Text}
    (hTail : tail.BeginsRecord)
    (hKey : p ≠ .key) : p.StopsAt tail := by
  intro c hHead
  rw [hTail c hHead]
  cases p with
  | key => exact absurd rfl hKey
  | _ => decide

theorem stopsAt_nil (p : Pattern) : p.StopsAt [] := by
  intro c hHead
  cases hHead

/- A run that ends in front of a tail does so in both texts. -/
theorem takeWhile_append_of_stopsAt
    {p : Pattern}
    {t tail : Text}
    (h : t.dropWhile p.continues ≠ [] ∨ p.StopsAt tail) :
    (t ++ tail).takeWhile p.continues =
        t.takeWhile p.continues ∧
      (t ++ tail).dropWhile p.continues =
        t.dropWhile p.continues ++ tail := by
  induction t with
  | nil =>
      have hStop : p.StopsAt tail := by
        rcases h with hNonempty | hStop
        · exact absurd rfl hNonempty
        · exact hStop
      cases tail with
      | nil => exact ⟨rfl, rfl⟩
      | cons c rest =>
          have hNot : p.continues c = false := hStop c rfl
          simp [hNot]
  | cons c rest ih =>
      cases hContinues : p.continues c with
      | false => simp [hContinues]
      | true =>
          rw [List.dropWhile_cons_of_pos hContinues] at h
          have hRest := ih h
          simp [hContinues, hRest]

end Pattern

namespace Scanner

variable {tail tail' : Text}
variable {s s' : Scanner}

/- Two texts behind each other are the same in front. -/
theorem parted_of_rest
    {ahead : Text}
    (hRest : s.rest = ahead ++ tail)
    (hRest' : s'.rest = ahead ++ tail') : s.Parted tail tail' s' :=
  ⟨ahead, hRest, hRest'⟩

/- Scanners that face the same text are parted at its end. -/
theorem parted_nil_iff :
    s.Parted [] [] s' ↔ s'.rest = s.rest := by
  constructor
  · rintro ⟨ahead, hRest, hRest'⟩
    rw [hRest, hRest']
  · intro h
    exact ⟨s.rest, (List.append_nil _).symm,
      h.trans (List.append_nil _).symm⟩

/- Reading within what is common. -/
theorem parted_read
    {ahead : Text}
    (hRest : s.rest = ahead ++ tail)
    (hRest' : s'.rest = ahead ++ tail')
    {n : Nat}
    (hn : n ≤ ahead.length) :
    (s.read n).Parted tail tail' (s'.read n) := by
  refine ⟨ahead.drop n, ?_, ?_⟩
  · rw [Scanner.read, hRest, List.drop_append_of_le_length hn]
  · rw [Scanner.read, hRest', List.drop_append_of_le_length hn]

/- White space in front is skipped, if something is behind it. -/
theorem rest_skipSpace_append
    {ahead : Text}
    {c : Char}
    {rest : Text}
    (hRest : s.rest = ahead ++ tail)
    (hAhead : ahead.dropWhile Character.isSpace = c :: rest) :
    s.skipSpace.rest = c :: (rest ++ tail) := by
  rw [Scanner.rest_skipSpace, hRest, List.dropWhile_append, hAhead]
  rfl

/- If only white space is in front, the tail is left. -/
theorem rest_skipSpace_of_blank
    {ahead : Text}
    (hRest : s.rest = ahead ++ tail)
    (hAhead : ahead.dropWhile Character.isSpace = [])
    (hTail : tail.BeginsRecord) : s.skipSpace.rest = tail := by
  have hStop : tail.dropWhile Character.isSpace = tail := by
    cases tail with
    | nil => rfl
    | cons c rest =>
        rw [hTail c rfl]
        rfl
  rw [Scanner.rest_skipSpace, hRest, List.dropWhile_append, hAhead]
  exact hStop

/- The tokens that found tokens correspond to, or none. -/
def SameFound (found found' : Option Token) : Prop :=
  (found = none ∧ found' = none) ∨
    ∃ t t', found = some t ∧ found' = some t' ∧ t.Same t'

/- Tokens of one length within what is common agree. -/
theorem agree_token
    {ahead : Text}
    (hRest : s.rest = ahead ++ tail)
    (hRest' : s'.rest = ahead ++ tail')
    {n : Nat}
    (hn : n ≤ ahead.length)
    (p : Pattern) :
    Scanned.Agree tail tail' SameFound
      (.ok (some (s.token n p)), s.read n)
      (.ok (some (s'.token n p)), s'.read n) := by
  refine .value (Or.inr ⟨_, _, rfl, rfl, ?_, rfl⟩)
    (parted_read hRest hRest' hn)
  rw [token, token, hRest, hRest', List.take_append_of_le_length hn,
    List.take_append_of_le_length hn]

/-
  If only white space is in front, a token is read from the tail,
  or both scanners find none.
-/
theorem agree_nextToken_of_blank
    {ahead : Text}
    (hRest : s.rest = ahead ++ tail)
    (hRest' : s'.rest = ahead ++ tail')
    (hAhead : ahead.dropWhile Character.isSpace = [])
    (hMeet : Text.Meet tail tail')
    (patterns : List Pattern) :
    Scanned.Agree tail tail' SameFound
      (s.nextToken patterns) (s'.nextToken patterns) := by
  have hSkip := rest_skipSpace_of_blank hRest hAhead hMeet.left
  have hSkip' := rest_skipSpace_of_blank hRest' hAhead hMeet.right
  have hParted : s.skipSpace.Parted tail tail' s'.skipSpace :=
    @parted_of_rest _ _ _ _ [] hSkip hSkip'
  cases tail with
  | nil =>
      rw [nextToken_nil hSkip]
      by_cases hEmpty : tail' = []
      · rw [hEmpty] at hSkip'
        rw [nextToken_nil hSkip']
        exact .failure rfl hParted
      · exact .early (Or.inl ⟨rfl, hEmpty⟩) rfl
  | cons c more =>
      have hAt : c = '@' := hMeet.left c rfl
      subst hAt
      cases tail' with
      | nil => cases hMeet.ends rfl
      | cons c' more' =>
          have hAt' : c' = '@' := hMeet.right c' rfl
          subst hAt'
          rw [nextToken_cons hSkip, nextToken_cons hSkip']
          cases patterns.find? (fun p => p.starts '@') with
          | none => exact .value (Or.inl ⟨rfl, rfl⟩) hParted
          | some p =>
              apply Scanned.Agree.past
              rw [length_rest_read, hSkip, List.length_cons]
              omega

/- Only a key runs into a tail. -/
theorem eq_key_of_not_stopsAt
    {p : Pattern}
    (hMeet : Text.Meet tail tail')
    (hStop : ¬ (p.StopsAt tail ∧ p.StopsAt tail')) : p = .key := by
  refine Decidable.byContradiction (fun hNot => hStop ?_)
  exact ⟨Pattern.stopsAt_of_beginsRecord hMeet.left hNot,
    Pattern.stopsAt_of_beginsRecord hMeet.right hNot⟩

/-
  A token that reaches the end of the first text runs into a tail
  that it has, unless that text must not end there.
-/
theorem tail_ne_nil_of_runOver
    {p : Pattern}
    {rest : Text}
    {patterns : List Pattern}
    (hMem : p ∈ patterns)
    (hRun : rest.dropWhile p.continues = [])
    (hStop : ¬ (p.StopsAt tail ∧ p.StopsAt tail'))
    (hMeet : Text.Meet tail tail')
    (hKey : .key ∉ patterns ∨ tail ≠ [] ∨ tail' = [] ∨
      (rest ++ tail).dropWhile p.continues ≠ []) : tail ≠ [] := by
  rintro rfl
  rcases hKey with hNot | hNonempty | rfl | hLeft
  · rw [eq_key_of_not_stopsAt hMeet hStop] at hMem
    exact hNot hMem
  · exact hNonempty rfl
  · exact hStop ⟨p.stopsAt_nil, p.stopsAt_nil⟩
  · rw [List.append_nil] at hLeft
    exact hLeft hRun

/- A token that runs into the tail is a key of the first text. -/
theorem length_dropWhile_lt
    {p : Pattern}
    {rest : Text}
    (hRun : rest.dropWhile p.continues = [])
    (hStop : ¬ (p.StopsAt tail ∧ p.StopsAt tail'))
    (hMeet : Text.Meet tail tail')
    (hTail : tail ≠ []) :
    ((rest ++ tail).dropWhile p.continues).length < tail.length := by
  have hKey := eq_key_of_not_stopsAt hMeet hStop
  subst hKey
  rw [List.dropWhile_append, hRun]
  cases tail with
  | nil => exact absurd rfl hTail
  | cons c more =>
      have hAt : c = '@' := hMeet.left c rfl
      subst hAt
      have hLe :=
        (@List.dropWhile_suffix _ more Pattern.key.continues).length_le
      exact Nat.lt_succ_of_le hLe

/-
  The next tokens agree.  Where a key is acceptable it must end
  within the first text, if that has no tail.
-/
theorem agree_nextToken
    (h : s.Parted tail tail' s')
    (hMeet : Text.Meet tail tail')
    {patterns : List Pattern}
    (hKey : .key ∉ patterns ∨ tail ≠ [] ∨ tail' = [] ∨
      (s.nextToken patterns).2.rest ≠ []) :
    Scanned.Agree tail tail' SameFound
      (s.nextToken patterns) (s'.nextToken patterns) := by
  rcases h with ⟨ahead, hRest, hRest'⟩
  cases hAhead : ahead.dropWhile Character.isSpace with
  | nil =>
      exact agree_nextToken_of_blank hRest hRest' hAhead hMeet patterns
  | cons c rest =>
      have hSkip := rest_skipSpace_append hRest hAhead
      have hSkip' := rest_skipSpace_append hRest' hAhead
      rw [nextToken_cons hSkip] at hKey ⊢
      rw [nextToken_cons hSkip']
      cases hFind : patterns.find? (fun p => p.starts c) with
      | none =>
          exact .value (Or.inl ⟨rfl, rfl⟩)
            ⟨c :: rest, hSkip, hSkip'⟩
      | some p =>
          rw [hFind] at hKey
          dsimp only at hKey ⊢
          by_cases hRun : rest.dropWhile p.continues ≠ [] ∨
              (p.StopsAt tail ∧ p.StopsAt tail')
          · -- The run of the token ends in front of the tails.
            have hTake := Pattern.takeWhile_append_of_stopsAt
              (hRun.imp_right And.left)
            have hTake' := Pattern.takeWhile_append_of_stopsAt
              (hRun.imp_right And.right)
            have hPrefix :=
              (@List.takeWhile_prefix _ rest p.continues).length_le
            rw [hTake.1, hTake'.1]
            exact @agree_token _ _ _ _ (c :: rest) hSkip hSkip' _
              (by rw [List.length_cons]; omega) p
          · -- The run of the token reaches the tail.
            rw [not_or, Decidable.not_not] at hRun
            rw [Scanner.read, hSkip, List.drop_succ_cons] at hKey
            dsimp only at hKey
            rw [drop_length_takeWhile] at hKey
            have hTail := tail_ne_nil_of_runOver
              (List.mem_of_find?_eq_some hFind) hRun.1 hRun.2 hMeet
              hKey
            apply Scanned.Agree.past
            rw [Scanner.read, hSkip, List.drop_succ_cons]
            dsimp only
            rw [drop_length_takeWhile]
            exact length_dropWhile_lt hRun.1 hRun.2 hMeet hTail

theorem agree_require
    (h : s.Parted tail tail' s')
    (hMeet : Text.Meet tail tail')
    {patterns : List Pattern}
    (hKey : .key ∉ patterns ∨ tail ≠ [] ∨ tail' = [] ∨
      (s.nextToken patterns).2.rest ≠ []) :
    Scanned.Agree tail tail' Token.Same
      (s.require patterns) (s'.require patterns) := by
  have hNext := agree_nextToken h hMeet hKey
  unfold require
  generalize s.nextToken patterns = step at hNext
  generalize s'.nextToken patterns = step' at hNext
  cases hNext with
  | past hPast =>
      apply Scanned.Agree.past
      rcases step with ⟨result, s₁⟩
      cases result with
      | error e => exact hPast
      | ok found => cases found <;> exact hPast
  | early hDiffers hEarly => exact .early hDiffers hEarly
  | failure hError hRest => exact .failure hError hRest
  | value hFound hRest =>
      rcases hFound with ⟨rfl, rfl⟩ | ⟨t, t', rfl, rfl, hSame⟩
      · exact .failure rfl hRest
      · exact .value hSame hRest

/- Patterns without keys agree wherever the first text ends. -/
theorem agree_require_marks
    (h : s.Parted tail tail' s')
    (hMeet : Text.Meet tail tail')
    {patterns : List Pattern}
    (hKey : .key ∉ patterns) :
    Scanned.Agree tail tail' Token.Same
      (s.require patterns) (s'.require patterns) :=
  agree_require h hMeet (Or.inl hKey)

end Scanner

------------------------------------------------------------
-- Bodies
------------------------------------------------------------

namespace Text

/- Whether a body ends is decided by braces and quotes. -/
theorem delimited?_eq_none_iff_filter
    (quoted : Bool)
    (depth : Nat)
    (t : Text) :
    delimited? quoted depth t = none ↔
      delimited? quoted depth (t.filter isMark) = none := by
  induction t generalizing depth with
  | nil => rfl
  | cons c rest ih =>
      have hStep : ∀ (d : Nat) (u : Text),
          (delimited? quoted d (c :: u) = none ↔
            ¬ (d = 0 ∧ (c = '}' ∨ quoted = true ∧ c = '"')) ∧
              delimited? quoted (nest d c) u = none) := by
        intro d u
        rw [delimited?]
        split
        · rename_i hStop
          exact ⟨(by rintro ⟨⟩), fun h => absurd hStop h.1⟩
        · rename_i hOpen
          cases delimited? quoted (nest d c) u with
          | none => exact ⟨fun _ => ⟨hOpen, rfl⟩, fun _ => rfl⟩
          | some found => exact ⟨(by rintro ⟨⟩), (by rintro ⟨_, ⟨⟩⟩)⟩
      cases hMark : isMark c with
      | true =>
          rw [List.filter_cons_of_pos hMark, hStep, hStep, ih]
      | false =>
          rw [isMark, Bool.or_eq_false_iff] at hMark
          have hNot : ¬ (depth = 0 ∧
              (c = '}' ∨ quoted = true ∧ c = '"')) := by
            rintro ⟨_, rfl | ⟨_, rfl⟩⟩
            · exact absurd hMark.1 (by decide)
            · exact absurd hMark.2 (by decide)
          rw [List.filter_cons_of_neg (by simp [isMark, hMark]),
            hStep, nest_of_not_isBrace hMark.1, ih]
          exact ⟨And.right, fun h => ⟨hNot, h⟩⟩

/- The last brace of two texts is in the second, if that has one. -/
theorem length_lt_reachLastBrace_append
    {t tail : Text}
    (h : tail.any isBrace = true) :
    t.length < (t ++ tail).reachLastBrace := by
  have hStop : tail.reverse.takeWhile (fun d => !isBrace d) ≠
      tail.reverse := by
    intro hWhole
    have hAll := @List.all_takeWhile _ (fun d => !isBrace d)
      tail.reverse
    rw [hWhole, List.all_reverse, List.all_eq_true] at hAll
    rcases List.any_eq_true.1 h with ⟨c, hMem, hBrace⟩
    have hNot := hAll c hMem
    rw [hBrace] at hNot
    cases hNot
  have hPrefix := @List.takeWhile_prefix _ tail.reverse
    (fun d => !isBrace d)
  have hShort : (tail.reverse.takeWhile
      (fun d => !isBrace d)).length ≠ tail.reverse.length :=
    fun hEq => hStop (hPrefix.eq_of_length hEq)
  have hLe := hPrefix.length_le
  rw [List.length_reverse] at hShort hLe
  rw [reachLastBrace, List.reverse_append, List.takeWhile_append,
    if_neg (by rw [List.length_reverse]; exact hShort),
    List.length_append]
  omega

/- A text without braces does not move the last one. -/
theorem reachLastBrace_append_of_not_mem
    {t tail : Text}
    (h : tail.any isBrace = false) :
    (t ++ tail).reachLastBrace = t.reachLastBrace := by
  have hAll : ∀ d ∈ tail.reverse, (!isBrace d) = true := by
    intro d hMem
    have hNot := List.any_eq_false.1 h d (List.mem_reverse.1 hMem)
    rw [Bool.eq_false_iff.2 hNot]
    rfl
  rw [reachLastBrace, reachLastBrace, List.reverse_append,
    List.takeWhile_append_of_pos hAll, List.length_append,
    List.length_append, List.length_reverse]
  omega

theorem reachLastBrace_le (t : Text) :
    t.reachLastBrace ≤ t.length :=
  Nat.sub_le _ _

/- Texts with the same braces and quotes both have braces or none. -/
theorem any_isBrace_of_filter_eq
    {t u : Text}
    (h : t.filter isMark = u.filter isMark) :
    t.any isBrace = u.any isBrace := by
  have hFilter : ∀ v : Text,
      v.any isBrace = (v.filter isMark).any isBrace := by
    intro v
    rw [List.any_filter]
    congr 1
    funext c
    rw [isMark]
    cases isBrace c <;> simp
  rw [hFilter t, hFilter u, h]

end Text

namespace Scanner

variable {tail tail' : Text}
variable {s s' : Scanner}

/- A body that does not end in either text. -/
theorem agree_readBody_of_none
    {ahead : Text}
    (hRest : s.rest = ahead ++ tail)
    (hRest' : s'.rest = ahead ++ tail')
    {quoted : Bool}
    (hAhead : Text.delimited? quoted 0 ahead = none)
    (hFound : Text.delimited? quoted 0 s.rest = none)
    (hMarks : tail.filter Text.isMark = tail'.filter Text.isMark) :
    Scanned.Agree tail tail' Eq
      (s.readBody quoted) (s'.readBody quoted) := by
  have hFound' : Text.delimited? quoted 0 s'.rest = none := by
    rw [hRest, Text.delimited?_append_of_none hAhead,
      Option.map_eq_none_iff, Text.delimited?_eq_none_iff_filter,
      hMarks, ← Text.delimited?_eq_none_iff_filter] at hFound
    rw [hRest', Text.delimited?_append_of_none hAhead, hFound]
    rfl
  have hBraces := Text.any_isBrace_of_filter_eq hMarks
  rw [readBody, readBody, hFound, hFound']
  dsimp only
  cases hBrace : tail.any Text.isBrace with
  | true =>
      have hReach :=
        @Text.length_lt_reachLastBrace_append ahead _ hBrace
      have hLe := Text.reachLastBrace_le (ahead ++ tail)
      apply Scanned.Agree.past
      rw [List.length_append] at hLe
      rw [length_rest_read, hRest, List.length_append]
      omega
  | false =>
      rw [hBrace] at hBraces
      rw [hRest, hRest', Text.reachLastBrace_append_of_not_mem hBrace,
        Text.reachLastBrace_append_of_not_mem hBraces.symm]
      exact .failure rfl
        (parted_read hRest hRest' (Text.reachLastBrace_le ahead))

/- A body that ends in the tail of the first text. -/
theorem length_rest_readBody_lt
    {ahead : Text}
    (hRest : s.rest = ahead ++ tail)
    {quoted : Bool}
    {found : Text × Char × Text}
    (hAhead : Text.delimited? quoted 0 ahead = none)
    (hFound : Text.delimited? quoted 0 s.rest = some found) :
    (s.readBody quoted).2.rest.length < tail.length := by
  rcases found with ⟨body, stop, after⟩
  have hSplit := (Text.isBody_of_delimited? hFound).2.1
  have hLess : after.length < tail.length := by
    rw [hRest, Text.delimited?_append_of_none hAhead,
      Option.map_eq_some_iff] at hFound
    rcases hFound with ⟨⟨body', stop', after'⟩, hTail, hEq⟩
    cases hEq
    rw [(Text.isBody_of_delimited? hTail).2.1,
      List.length_append, List.length_cons]
    omega
  have hLength := congrArg List.length hSplit
  rw [List.length_append, List.length_cons] at hLength
  unfold readBody
  rw [hFound]
  dsimp only
  split
  · rw [length_rest_read]
    omega
  · rw [length_rest_read]
    omega

theorem agree_readBody
    (h : s.Parted tail tail' s')
    (quoted : Bool) :
    Scanned.Agree tail tail' Eq
      (s.readBody quoted) (s'.readBody quoted) := by
  rcases h with ⟨ahead, hRest, hRest'⟩
  cases hAhead : Text.delimited? quoted 0 ahead with
  | some found =>
      rcases found with ⟨body, stop, after⟩
      have hLength : body.length + 1 ≤ ahead.length := by
        rw [(Text.isBody_of_delimited? hAhead).2.1,
          List.length_append, List.length_cons]
        omega
      have hParted := parted_read hRest hRest' hLength
      unfold readBody
      rw [hRest, hRest', Text.delimited?_append_right hAhead,
        Text.delimited?_append_right hAhead]
      dsimp only
      split
      · exact .failure rfl hParted
      · exact .value rfl hParted
  | none =>
      cases hFound : Text.delimited? quoted 0 s.rest with
      | some found =>
          exact .past (length_rest_readBody_lt hRest hAhead hFound)
      | none =>
          by_cases hMarks :
              tail.filter Text.isMark = tail'.filter Text.isMark
          · exact agree_readBody_of_none hRest hRest' hAhead hFound
              hMarks
          · unfold readBody
            rw [hFound]
            exact .early (Or.inr hMarks) rfl

------------------------------------------------------------
-- Values
------------------------------------------------------------

/- Two steps of which neither adds to the rest. -/
theorem length_rest_andThen_le
    {α β : Type}
    {step : Scanned α}
    {next : α → Scanner → Scanned β}
    {n : Nat}
    (hStep : step.2.rest.length ≤ n)
    (hNext : ∀ a s, (next a s).2.rest.length ≤ s.rest.length) :
    (step.andThen next).2.rest.length ≤ n := by
  apply length_rest_andThen hStep
  intro a s hEq
  rw [hEq] at hStep
  exact Nat.le_trans (hNext a s) hStep

theorem length_rest_nextToken_le
    (s : Scanner)
    (patterns : List Pattern) :
    (s.nextToken patterns).2.rest.length ≤ s.rest.length :=
  (length_rest_nextToken rfl).1

theorem agree_readPart
    (h : s.Parted tail tail' s')
    (hMeet : Text.Meet tail tail')
    (macros : MacroTable) :
    Scanned.Agree tail tail' Eq
      (s.readPart macros) (s'.readPart macros) := by
  unfold readPart
  apply (agree_require_marks h hMeet (by decide)).andThen
  · intro t s₁
    split
    · exact length_rest_readBody true s₁
    · exact length_rest_readBody false s₁
    · exact Nat.le_refl _
    · split <;> exact Nat.le_refl _
  · intro t t' s₁ s₁' _ hSame h₁
    rw [← hSame.1, ← hSame.2]
    split
    · exact agree_readBody h₁ true
    · exact agree_readBody h₁ false
    · exact .value rfl h₁
    · split
      · exact .value rfl h₁
      · exact .failure rfl h₁

/- Behind a part there are others if a `#` has been found. -/
theorem length_rest_readParts_joined
    (macros : MacroTable)
    (part : Text)
    (found : Option Token)
    (s : Scanner) :
    (match found with
      | none => ((.ok part, s) : Scanned Text)
      | some _ => (s.readParts macros).andThen fun more s =>
          (.ok (part ++ more), s)).2.rest.length ≤
      s.rest.length := by
  cases found with
  | none => exact Nat.le_refl _
  | some t =>
      exact length_rest_andThen_le (length_rest_readParts macros s)
        (fun _ _ => Nat.le_refl _)

/- The induction is on the rest of the first scanner. -/
theorem agree_readParts
    (h : s.Parted tail tail' s')
    (hMeet : Text.Meet tail tail')
    (macros : MacroTable) :
    Scanned.Agree tail tail' Eq
      (s.readParts macros) (s'.readParts macros) := by
  induction hn : s.rest.length using Nat.strongRecOn
    generalizing s s' with
  | ind n ih =>
      rw [readParts_eq macros s, readParts_eq macros s']
      apply (agree_readPart h hMeet macros).andThen
      · intro part s₁
        exact length_rest_andThen_le (length_rest_nextToken_le s₁ _)
          (length_rest_readParts_joined macros part)
      · rintro part _ s₁ s₁' hPart rfl h₁
        have hLe := length_rest_readPart macros s
        rw [hPart] at hLe
        refine (agree_nextToken h₁ hMeet (Or.inl (by decide))).andThen
          (length_rest_readParts_joined macros part) ?_
        rintro found found' s₂ s₂' hNext hFound h₂
        rcases hFound with ⟨rfl, rfl⟩ | ⟨t, t', rfl, rfl, _⟩
        · exact .value rfl h₂
        · have hLess := (length_rest_nextToken hNext).2 t rfl
          have hOthers := ih s₂.rest.length
            (by rw [← hn]; exact Nat.lt_of_lt_of_le hLess hLe) h₂ rfl
          apply hOthers.andThen (fun _ _ => Nat.le_refl _)
          rintro more _ s₃ s₃' _ rfl h₃
          exact .value rfl h₃

theorem agree_readValue
    (h : s.Parted tail tail' s')
    (hMeet : Text.Meet tail tail')
    (macros : MacroTable) :
    Scanned.Agree tail tail' Eq
      (s.readValue macros) (s'.readValue macros) := by
  unfold readValue
  apply (agree_readParts h hMeet macros).andThen
    (fun _ _ => Nat.le_refl _)
  rintro text _ s₁ s₁' _ rfl h₁
  exact .value rfl h₁

theorem agree_readAssigned
    (h : s.Parted tail tail' s')
    (hMeet : Text.Meet tail tail')
    (macros : MacroTable) :
    Scanned.Agree tail tail' Eq
      (s.readAssigned macros) (s'.readAssigned macros) := by
  unfold readAssigned
  apply (agree_require_marks h hMeet (by decide)).andThen
    (fun _ s₁ => length_rest_readValue macros s₁)
  intro t t' s₁ s₁' _ _ h₁
  exact agree_readValue h₁ hMeet macros

------------------------------------------------------------
-- Records
------------------------------------------------------------

/- A value is taken in, and the fields behind it are read. -/
theorem length_rest_readFields_addField
    (config : ParserConfig)
    (macros : MacroTable)
    (close : Pattern)
    (d : Draft)
    (field : Text)
    (s : Scanner) :
    ((s.readAssigned macros).andThen fun value s =>
      match d.addField config field value with
      | .error e => (.error e, s)
      | .ok d' => s.readFields config macros close d').2.rest.length ≤
        s.rest.length := by
  refine length_rest_andThen_le (length_rest_readAssigned macros s) ?_
  intro value s₁
  cases d.addField config field value with
  | error e => exact Nat.le_refl _
  | ok d' => exact length_rest_readFields config macros close d' s₁

/- Behind a comma there may be no field. -/
theorem length_rest_readFields_named
    (config : ParserConfig)
    (macros : MacroTable)
    (close : Pattern)
    (d : Draft)
    (found : Option Token)
    (s : Scanner) :
    (match found with
      | none => s.readFields config macros close d
      | some name =>
          (s.readAssigned macros).andThen fun value s =>
            match d.addField config name.text.lower value with
            | .error e => (.error e, s)
            | .ok d' =>
                s.readFields config macros close d').2.rest.length ≤
      s.rest.length := by
  cases found with
  | none => exact length_rest_readFields config macros close d s
  | some name =>
      exact length_rest_readFields_addField config macros close d _ s

theorem agree_readFields
    (h : s.Parted tail tail' s')
    (hMeet : Text.Meet tail tail')
    (config : ParserConfig)
    (macros : MacroTable)
    {close : Pattern}
    (hClose : close ≠ .key)
    (d : Draft) :
    Scanned.Agree tail tail' Eq
      (s.readFields config macros close d)
      (s'.readFields config macros close d) := by
  induction hn : s.rest.length using Nat.strongRecOn
    generalizing s s' d with
  | ind n ih =>
      rw [readFields_eq config macros close d s,
        readFields_eq config macros close d s']
      have hMarks : Pattern.key ∉ [.comma, close] := by
        simp [hClose.symm]
      apply (agree_require_marks h hMeet hMarks).andThen
      · intro separator s₁
        split
        · exact Nat.le_refl _
        · exact length_rest_andThen_le (length_rest_nextToken_le s₁ _)
            (length_rest_readFields_named config macros close d)
      · intro separator separator' s₁ s₁' hRequire hSame h₁
        have hLess₁ := (length_rest_require hRequire).2 _ rfl
        rw [← hSame.2]
        split
        · exact .value rfl h₁
        · refine (agree_nextToken h₁ hMeet
            (Or.inl (by decide))).andThen
            (length_rest_readFields_named config macros close d) ?_
          rintro found found' s₂ s₂' hNext hFound h₂
          have hLe₂ := (length_rest_nextToken hNext).1
          rcases hFound with ⟨rfl, rfl⟩ |
            ⟨name, name', rfl, rfl, hName⟩
          · exact ih s₂.rest.length (by omega) h₂ d rfl
          · dsimp only
            rw [← hName.1]
            apply (agree_readAssigned h₂ hMeet macros).andThen
            · intro value s₃
              cases d.addField config name.text.lower value with
              | error e => exact Nat.le_refl _
              | ok d' =>
                  exact length_rest_readFields config macros close d' s₃
            · rintro value _ s₃ s₃' hValue rfl h₃
              have hLe₃ := length_rest_readAssigned macros s₂
              rw [hValue] at hLe₃
              dsimp only at hLe₃ ⊢
              split
              · exact .failure rfl h₃
              · rename_i d' _
                exact ih s₃.rest.length (by omega) h₃ d' rfl

/- Where nothing is left no field is read. -/
theorem readFields_of_rest_nil
    (config : ParserConfig)
    (macros : MacroTable)
    (close : Pattern)
    (d : Draft)
    (hRest : s.rest = []) :
    ∃ e s₁, s.readFields config macros close d = (.error e, s₁) ∧
      e.isPrematureEnd = true := by
  have hSkip : s.skipSpace.rest = [] := by
    rw [Scanner.rest_skipSpace, hRest]
    rfl
  rw [readFields_eq, require, nextToken_nil hSkip]
  exact ⟨_, _, rfl, rfl⟩

/- The next token fails at the end of the text alone. -/
theorem isPrematureEnd_of_nextToken
    {patterns : List Pattern}
    {e : Error}
    {s₁ : Scanner}
    (hNext : s.nextToken patterns = (.error e, s₁)) :
    e.isPrematureEnd = true := by
  cases hSkip : s.skipSpace.rest with
  | nil =>
      rw [nextToken_nil hSkip] at hNext
      cases hNext
      rfl
  | cons c rest =>
      rw [nextToken_cons hSkip] at hNext
      split at hNext
      · cases hNext
      · cases hNext

/- A token that is not there has left something to be read. -/
theorem rest_ne_nil_of_nextToken_none
    {patterns : List Pattern}
    {s₁ : Scanner}
    (hNext : s.nextToken patterns = (.ok none, s₁)) :
    s₁.rest ≠ [] := by
  cases hSkip : s.skipSpace.rest with
  | nil =>
      rw [nextToken_nil hSkip] at hNext
      cases hNext
  | cons c rest =>
      rw [nextToken_cons hSkip] at hNext
      split at hNext
      · cases hNext
        rw [hSkip]
        exact List.cons_ne_nil c rest
      · cases hNext

/- An entry whose key is the last of a text ends too early. -/
theorem readEntry_of_rest_nil
    (config : ParserConfig)
    (macros : MacroTable)
    (kind : Text)
    (close : Pattern)
    (hEnd : (s.nextToken [.key]).2.rest = []) :
    ∃ e s₁, s.readEntry config macros kind close = (.error e, s₁) ∧
      e.isPrematureEnd = true := by
  unfold readEntry
  cases hNext : s.nextToken [.key] with
  | mk result s₁ =>
      rw [hNext] at hEnd
      rw [require, hNext]
      cases result with
      | error e =>
          exact ⟨e, s₁, rfl, isPrematureEnd_of_nextToken hNext⟩
      | ok found =>
          cases found with
          | none =>
              exact absurd hEnd (rest_ne_nil_of_nextToken_none hNext)
          | some key =>
              rcases readFields_of_rest_nil config macros close
                (.ofType kind) hEnd with ⟨e, s₂, hRead, hEarly⟩
              dsimp only [Scanned.andThen]
              rw [hRead]
              exact ⟨e, s₂, rfl, hEarly⟩

/-
  If the key ends with the first text, the first scanner comes to
  its end before it finds a field, whatever key the second reads.
-/
theorem agree_readEntry
    (h : s.Parted tail tail' s')
    (hMeet : Text.Meet tail tail')
    (config : ParserConfig)
    (macros : MacroTable)
    (kind : Text)
    {close : Pattern}
    (hClose : close ≠ .key) :
    Scanned.Agree tail tail' Eq
      (s.readEntry config macros kind close)
      (s'.readEntry config macros kind close) := by
  have hFields : ∀ (key : Token) (s : Scanner),
      ((s.readFields config macros close (.ofType kind)).andThen
        fun d s => ((.ok (.entry key.text d.entry d.repeated), s) :
          Scanned Record)).2.rest.length ≤ s.rest.length :=
    fun key s => length_rest_andThen_le
      (length_rest_readFields config macros close _ s)
      (fun _ _ => Nat.le_refl _)
  by_cases hKey :
      tail ≠ [] ∨ tail' = [] ∨ (s.nextToken [.key]).2.rest ≠ []
  · unfold readEntry
    apply (agree_require h hMeet (Or.inr hKey)).andThen hFields
    intro key key' s₁ s₁' _ hSame h₁
    rw [← hSame.1]
    apply (agree_readFields h₁ hMeet config macros hClose _).andThen
      (fun _ _ => Nat.le_refl _)
    rintro d _ s₂ s₂' _ rfl h₂
    exact .value rfl h₂
  · rw [not_or, not_or, Decidable.not_not, Decidable.not_not] at hKey
    rcases hKey with ⟨hEmpty, hNonempty, hEnd⟩
    rcases readEntry_of_rest_nil config macros kind close hEnd with
      ⟨e, s₁, hRead, hEarly⟩
    rw [hRead]
    exact .early (Or.inl ⟨hEmpty, hNonempty⟩) hEarly

/- The closing delimiter is read, and that is all. -/
theorem length_rest_require_andThen
    (s : Scanner)
    (close : Pattern)
    (record : Record) :
    ((s.require [close]).andThen fun _ s =>
      ((.ok record, s) : Scanned Record)).2.rest.length ≤
        s.rest.length :=
  length_rest_andThen_le (length_rest_require_le s _)
    (fun _ _ => Nat.le_refl _)

/- The closing delimiters of records with the same content agree. -/
theorem agree_require_closer
    (h : s.Parted tail tail' s')
    (hMeet : Text.Meet tail tail')
    {close : Pattern}
    (hClose : close ≠ .key)
    (record : Record) :
    Scanned.Agree tail tail' Eq
      ((s.require [close]).andThen fun _ s => (.ok record, s))
      ((s'.require [close]).andThen fun _ s => (.ok record, s)) := by
  have hMark : Pattern.key ∉ [close] := by
    simp [hClose.symm]
  apply (agree_require_marks h hMeet hMark).andThen
    (fun _ _ => Nat.le_refl _)
  intro t t' s₁ s₁' _ _ h₁
  exact .value rfl h₁

theorem agree_readDefinition
    (h : s.Parted tail tail' s')
    (hMeet : Text.Meet tail tail')
    (macros : MacroTable)
    {close : Pattern}
    (hClose : close ≠ .key) :
    Scanned.Agree tail tail' Eq
      (s.readDefinition macros close)
      (s'.readDefinition macros close) := by
  unfold readDefinition
  apply (agree_require_marks h hMeet (by decide)).andThen
  · intro name s₁
    exact length_rest_andThen_le (length_rest_readAssigned macros s₁)
      (fun _ s₂ => length_rest_require_andThen s₂ close _)
  · intro name name' s₁ s₁' _ hSame h₁
    apply (agree_readAssigned h₁ hMeet macros).andThen
      (fun _ s₂ => length_rest_require_andThen s₂ close _)
    rintro text _ s₂ s₂' _ rfl h₂
    rw [← hSame.1]
    exact agree_require_closer h₂ hMeet hClose _

theorem agree_readPreamble
    (h : s.Parted tail tail' s')
    (hMeet : Text.Meet tail tail')
    (macros : MacroTable)
    {close : Pattern}
    (hClose : close ≠ .key) :
    Scanned.Agree tail tail' Eq
      (s.readPreamble macros close)
      (s'.readPreamble macros close) := by
  unfold readPreamble
  apply (agree_readValue h hMeet macros).andThen
    (fun _ s₁ => length_rest_require_andThen s₁ close _)
  rintro text _ s₁ s₁' _ rfl h₁
  exact agree_require_closer h₁ hMeet hClose _

/- Whole records agree, however they end. -/
theorem agree_readRecord
    (h : s.Parted tail tail' s')
    (hMeet : Text.Meet tail tail')
    (config : ParserConfig)
    (macros : MacroTable) :
    Scanned.Agree tail tail' Eq
      (s.readRecord config macros)
      (s'.readRecord config macros) := by
  have hContent : ∀ (name : Token) (opener : Token) (s : Scanner),
      (s.readContent config macros name.text.lower
        (opener.pattern.closer?.getD .closeBrace)).2.rest.length ≤
          s.rest.length :=
    fun _ _ s => length_rest_readContent config macros _ _ s
  unfold readRecord
  apply (agree_require_marks h hMeet (by decide)).andThen
  · intro name s₁
    exact length_rest_andThen_le (length_rest_require_le s₁ _)
      (hContent name)
  · intro name name' s₁ s₁' _ hName h₁
    rw [← hName.1]
    apply (agree_require_marks h₁ hMeet (by decide)).andThen
      (hContent name)
    intro opener opener' s₂ s₂' hOpen hSame h₂
    have hClose : opener.pattern.closer?.getD .closeBrace ≠ .key := by
      cases opener.pattern <;> decide
    rw [← hSame.2]
    unfold readContent
    split
    · exact agree_readDefinition h₂ hMeet macros hClose
    · split
      · exact agree_readPreamble h₂ hMeet macros hClose
      · split
        · exact .value rfl h₂
        · exact agree_readEntry h₂ hMeet config macros _ hClose

end Scanner

end Bibliography
