import Mathlib.Data.List.Induction
import Mathlib.Data.List.TakeWhile
import Bibliography.Proofs.Database.Reading
import Bibliography.Proofs.Location

/-
  The positions of scanners and tokens.

  A scanner has read a beginning of its source, and its place is
  the end of this beginning.  A call reads white space and then
  a token or nothing more, so after any calls the offsets, lines
  and columns are those that the source itself has there, as long
  as 32 bits hold them.

  Key definitions include:
    * `Scanner.between`
    * `Scanner.Call`
    * `Scanner.Session`
    * `Scanner.StandsIn`
    * `Token.StandsIn`

  Key statements include:
    * `Cursor.advance_start`
    * `LineMark.cursor_advance`
    * `Scanner.Call.on_between`
    * `Scanner.Call.Reads.token_standsIn`
    * `Scanner.Session.readTo_calls`
    * `Scanner.Session.positions_faithful`
    * `Scanner.Session.line_overflows`
-/

------------------------------------------------------------
-- Cursors After a Text
------------------------------------------------------------

namespace Bibliography

namespace Cursor

theorem advance_append
    (here : Cursor)
    (a b : Text) :
    here.advance (a ++ b) = (here.advance a).advance b :=
  List.foldl_append

/- The place after a text is the one that `Location` finds. -/
theorem advance_start (t : Text) :
    start.advance t =
      ⟨t.byteLength, .ofNat (t.count '\n' + 1),
        t.lastLine.length + 1⟩ := by
  induction t using List.reverseRecOn with
  | nil => rfl
  | append_singleton t c ih =>
      rw [advance_append, ih, Text.byteLength_append,
        List.count_append, Text.lastLine_concat]
      simp only [advance, List.foldl_cons, List.foldl_nil, step,
        Text.byteLength, Nat.add_zero]
      split
      · rename_i hNewline
        simp [hNewline, UInt32.ofNat_add]
      · rename_i hOther
        simp [hOther]

end Cursor

theorem Text.isBlank_append (a b : Text) :
    (a ++ b).isBlank = (a.isBlank && b.isBlank) :=
  List.all_append

------------------------------------------------------------
-- Counting Columns Afterwards
------------------------------------------------------------

/-
  A place without its column: the offset, the line, and the
  offset where this line begins.
-/
structure LineMark where
  position : Nat
  line : UInt32
  lineStart : Nat

namespace LineMark

/- The place where every text begins. -/
def start : LineMark :=
  ⟨0, 1, 0⟩

/- The place after one more character. -/
def step
    (here : LineMark)
    (c : Char) : LineMark :=
  if c = '\n' then
    ⟨here.position + c.utf8Size, here.line + 1,
      here.position + c.utf8Size⟩
  else
    { here with position := here.position + c.utf8Size }

/- The place after a whole text. -/
def advance
    (here : LineMark)
    (t : Text) : LineMark :=
  t.foldl step here

/- The column is counted from the beginning of the line. -/
def cursor
    (source : Text)
    (here : LineMark) : Cursor where
  position := here.position
  line := here.line
  column :=
    ((source.takeBytes here.position).dropBytes
      here.lineStart).length + 1

/- The line begins behind the last newline. -/
theorem advance_start (t : Text) :
    ∃ lines, t = lines ++ t.lastLine ∧
      start.advance t =
        ⟨t.byteLength, .ofNat (t.count '\n' + 1),
          lines.byteLength⟩ := by
  induction t using List.reverseRecOn with
  | nil => exact ⟨[], rfl, rfl⟩
  | append_singleton t c ih =>
      rcases ih with ⟨lines, hText, hMark⟩
      have hStep :
          start.advance (t ++ [c]) = (start.advance t).step c :=
        List.foldl_append
      rw [hStep, hMark, Text.lastLine_concat,
        Text.byteLength_append, List.count_append, step]
      split
      · rename_i hNewline
        refine ⟨t ++ [c], (List.append_nil _).symm, ?_⟩
        simp [hNewline, Text.byteLength_append, Text.byteLength,
          UInt32.ofNat_add]
      · rename_i hOther
        refine ⟨lines, ?_, ?_⟩
        · rw [← List.append_assoc, ← hText]
        · simp [hOther, Text.byteLength]

/- Counting afterwards finds the column of the cursor. -/
theorem cursor_advance
    (before after : Text) :
    (start.advance before).cursor (before ++ after) =
      Cursor.start.advance before := by
  rcases advance_start before with ⟨lines, hText, hMark⟩
  have hLine : before.dropBytes lines.byteLength =
      before.lastLine := by
    have hDrop := Text.dropBytes_append lines before.lastLine
    rwa [← hText] at hDrop
  rw [hMark, cursor, Cursor.advance_start,
    Text.takeBytes_append, hLine]

end LineMark

------------------------------------------------------------
-- Scanners Between Two Texts
------------------------------------------------------------

/- The range of a part and the place where it begins. -/
def Span.covering
    (before part : Text) : Span where
  start := before.byteLength
  stop := (before ++ part).byteLength
  line := .ofNat (before.count '\n' + 1)
  column := .ofNatClamp (before.lastLine.length + 1)

namespace Scanner

/- The scanner that has read the first of two texts. -/
def between
    (before after : Text) : Scanner where
  source := before ++ after
  rest := after
  cursor := Cursor.start.advance before

theorem position_between (before after : Text) :
    (between before after).cursor.position = before.byteLength := by
  rw [between, Cursor.advance_start]

theorem location_between (before after : Text) :
    (between before after).location =
      Location.between before after := by
  rw [location, between, Cursor.advance_start]
  exact Location.locate_append before after

theorem read_between (before part after : Text) :
    (between before (part ++ after)).read part.length =
      between (before ++ part) after := by
  simp only [read, between, List.drop_left, List.take_left,
    Cursor.advance_append, List.append_assoc]

theorem token_between
    (before part after : Text)
    (p : Pattern) :
    (between before (part ++ after)).token part.length p =
      ⟨part, p, .covering before part⟩ := by
  rw [token, read_between]
  simp only [between, List.take_left, Cursor.advance_start,
    Span.covering]

------------------------------------------------------------
-- Calls
------------------------------------------------------------

/- The calls by which tokens are read. -/
inductive Call where
  | skipTo (patterns : List Pattern)
  | nextToken (patterns : List Pattern)
  | require (patterns : List Pattern)

namespace Call

/- Whether the call skips to its token. -/
def skips : Call → Bool
  | .skipTo _ => true
  | .nextToken _ | .require _ => false

/-
  The token that a call returns, if it does not fail, and the
  scanner after it.
-/
def on
    (call : Call)
    (s : Scanner) : Option Token × Scanner :=
  match call with
  | .skipTo patterns =>
      match s.skipTo patterns with
      | some (token, s') => (some token, s')
      | none => (none, s)
  | .nextToken patterns =>
      match s.nextToken patterns with
      | (.ok found, s') => (found, s')
      | (.error _, s') => (none, s')
  | .require patterns =>
      match s.require patterns with
      | (.ok token, s') => (some token, s')
      | (.error _, s') => (none, s')

/- A required token is the next one. -/
theorem on_require
    (patterns : List Pattern)
    (s : Scanner) :
    (Call.require patterns).on s =
      (Call.nextToken patterns).on s := by
  simp only [on, Scanner.require]
  rcases s.nextToken patterns with ⟨found, s'⟩
  rcases found with e | token
  · rfl
  · cases token <;> rfl

end Call

/-
  What a call does behind the text that has been read: a gap is
  read, and then a token or nothing more.
-/
inductive Call.Reads
    (before rest gap : Text) : Option Token × Scanner → Prop where
  | token
      {part after : Text}
      (p : Pattern)
      (hRest : rest = gap ++ part ++ after)
      (hPart : part ≠ []) :
      Reads before rest gap
        (some ⟨part, p, .covering (before ++ gap) part⟩,
          between (before ++ gap ++ part) after)
  | nothing
      {after : Text}
      (hRest : rest = gap ++ after) :
      Reads before rest gap (none, between (before ++ gap) after)

theorem skipSpace_between (before rest : Text) :
    (between before rest).skipSpace =
      between (before ++ rest.takeWhile Character.isSpace)
        (rest.dropWhile Character.isSpace) := by
  have hRead := read_between before
    (rest.takeWhile Character.isSpace)
    (rest.dropWhile Character.isSpace)
  rw [List.takeWhile_append_dropWhile] at hRead
  exact hRead

namespace Call

/- Skipping to a token makes all that is skipped a part of it. -/
theorem reads_skipTo
    (patterns : List Pattern)
    (before rest : Text) :
    Reads before rest []
      ((skipTo patterns).on (between before rest)) := by
  cases hNearest : Pattern.nearest? rest patterns with
  | none =>
      have hOn : (skipTo patterns).on (between before rest) =
          (none, between before rest) := by
        simp only [on, Scanner.skipTo, between, hNearest]
      have hReads : Reads before rest []
          (none, between (before ++ []) rest) := .nothing rfl
      rw [hOn]
      rwa [List.append_nil] at hReads
  | some found =>
      rcases found with ⟨stop, p⟩
      rcases Pattern.nearest?_bounds hNearest with ⟨hPos, hLe⟩
      have hRest : rest = rest.take stop ++ rest.drop stop :=
        (List.take_append_drop stop rest).symm
      have hLength : (rest.take stop).length = stop :=
        List.length_take_of_le hLe
      have hOn : (skipTo patterns).on (between before rest) =
          (some ((between before rest).token stop p),
            (between before rest).read stop) := by
        simp only [on, Scanner.skipTo, between, hNearest]
      have hToken := token_between before (rest.take stop)
        (rest.drop stop) p
      have hRead := read_between before (rest.take stop)
        (rest.drop stop)
      rw [← hRest, hLength] at hToken hRead
      have hPart : rest.take stop ≠ [] := by
        apply List.ne_nil_of_length_pos
        rwa [hLength]
      have hReads : Reads before rest []
          (some ⟨rest.take stop, p,
              .covering (before ++ []) (rest.take stop)⟩,
            between (before ++ [] ++ rest.take stop)
              (rest.drop stop)) := .token p hRest hPart
      rw [hOn, hToken, hRead]
      rwa [List.append_nil] at hReads

/- The next token stands behind the white space. -/
theorem reads_nextToken
    (patterns : List Pattern)
    (before rest : Text) :
    Reads before rest (rest.takeWhile Character.isSpace)
      ((nextToken patterns).on (between before rest)) := by
  have hSplit : rest = rest.takeWhile Character.isSpace ++
      rest.dropWhile Character.isSpace :=
    List.takeWhile_append_dropWhile.symm
  simp only [on, Scanner.nextToken, skipSpace_between]
  split
  · rename_i hStep
    split at hStep
    · cases hStep
    · split at hStep
      · cases hStep
        exact .nothing hSplit
      · rename_i p part after hLexeme
        rcases Pattern.append_of_firstLexeme? hLexeme with
          ⟨hAppend, hPart⟩
        have hRest : rest.dropWhile Character.isSpace =
            part ++ after := hAppend.symm
        rw [hRest, token_between, read_between] at hStep
        cases hStep
        refine .token p ?_ hPart
        rw [List.append_assoc, hAppend]
        exact hSplit
  · rename_i hStep
    split at hStep
    · cases hStep
      exact .nothing hSplit
    · split at hStep <;> cases hStep

/- White space alone is read up to its end, and has no token. -/
theorem on_nextToken_of_isBlank
    {t : Text}
    (h : t.isBlank = true)
    (patterns : List Pattern) :
    (nextToken patterns).on (.ofText t) = (none, between t []) := by
  have hTake : t.takeWhile Character.isSpace = t :=
    List.takeWhile_eq_self_iff.2 (List.all_eq_true.1 h)
  have hDrop : t.dropWhile Character.isSpace = [] :=
    List.dropWhile_eq_nil_iff.2 (List.all_eq_true.1 h)
  have hSpace : (ofText t).skipSpace = between t [] := by
    have hBetween := skipSpace_between [] t
    rwa [hTake, hDrop, List.nil_append] at hBetween
  simp only [on, Scanner.nextToken, hSpace]
  rfl

/- The white space before a token, which skipping does not read. -/
theorem on_between
    (call : Call)
    (before rest : Text) :
    ∃ gap : Text, gap.isBlank = true ∧
      (call.skips = true → gap = []) ∧
      Reads before rest gap (call.on (between before rest)) := by
  have hBlank :
      Text.isBlank (rest.takeWhile Character.isSpace) = true :=
    List.all_takeWhile
  cases call with
  | skipTo patterns =>
      exact ⟨[], rfl, fun _ => rfl,
        reads_skipTo patterns before rest⟩
  | nextToken patterns =>
      exact ⟨_, hBlank, nofun,
        reads_nextToken patterns before rest⟩
  | require patterns =>
      rw [on_require]
      exact ⟨_, hBlank, nofun,
        reads_nextToken patterns before rest⟩

end Call

------------------------------------------------------------
-- Scanners and Tokens in Their Source
------------------------------------------------------------

/-
  What is true of a scanner of a text: it has read a beginning of
  the text, its position is the length of this beginning, its
  line counts the newlines in it, and its column, counted from
  where the line begins, is that of its location.  In a text that
  is too long the counter of the lines overflows.
-/
structure StandsIn
    (t : Text)
    (s : Scanner) : Prop where
  source_eq : s.source = t
  boundary : ∃ read : Text,
    t.Occupies read 0 s.cursor.position ∧
      (s.cursor.line : Nat) = read.count '\n' + 1 ∧
      s.cursor = (LineMark.start.advance read).cursor t
  line_eq : s.cursor.line = s.location.line
  column_eq : s.cursor.column = (s.location.column : Nat)

theorem standsIn_between
    {before after : Text}
    (h : (before ++ after).byteLength + 1 < UInt32.size) :
    (between before after).StandsIn (before ++ after) where
  source_eq := rfl
  boundary := by
    have hCursor : (between before after).cursor =
        ⟨before.byteLength, .ofNat (before.count '\n' + 1),
          before.lastLine.length + 1⟩ :=
      Cursor.advance_start before
    refine ⟨before, ⟨[], after, rfl, rfl, ?_⟩, ?_, ?_⟩
    · rw [hCursor, List.nil_append]
    · rw [hCursor]
      exact UInt32.toNat_ofNat_of_lt' (Location.counts_lt_size h).1
    · rw [LineMark.cursor_advance]
      rfl
  line_eq := by
    rw [location_between, between, Cursor.advance_start]
    exact Location.ofNat_count_of_short h
  column_eq := by
    rw [location_between, between, Cursor.advance_start]
    exact (Location.toNat_column_of_short h).symm

end Scanner

/-
  What is true of a token of a text: it is not empty, it takes up
  its range, and line and column are those of the range.
-/
structure Token.StandsIn
    (t : Text)
    (token : Token) : Prop where
  nonempty : token.text ≠ []
  occupies :
    t.Occupies token.text token.span.start token.span.stop
  text_eq : token.span.text t = token.text
  line_eq :
    token.span.line = (Location.locate t token.span.start).line
  column_eq :
    token.span.column =
      (Location.locate t token.span.start).column

theorem Token.standsIn_covering
    {before part after : Text}
    (hPart : part ≠ [])
    (h : (before ++ part ++ after).byteLength + 1 < UInt32.size)
    (p : Pattern) :
    (Token.mk part p (.covering before part)).StandsIn
      (before ++ part ++ after) := by
  have hOccupies : Text.Occupies (before ++ part ++ after) part
      before.byteLength (before ++ part).byteLength :=
    ⟨before, after, rfl, rfl, rfl⟩
  have hLocation := Location.locate_append before (part ++ after)
  rw [← List.append_assoc] at hLocation
  rw [List.append_assoc] at h
  have hLine := Location.ofNat_count_of_short h
  exact
    { nonempty := hPart
      occupies := hOccupies
      text_eq := hOccupies.text_eq
      line_eq := hLine.trans (congrArg Location.line hLocation).symm
      column_eq := (congrArg Location.column hLocation).symm }

namespace Scanner

------------------------------------------------------------
-- What a Call Finds
------------------------------------------------------------

/- Whether white space takes up the bytes between two offsets. -/
def BlankBetween
    (t : Text)
    (start stop : Nat) : Prop :=
  ∃ gap : Text, gap.isBlank = true ∧ t.Occupies gap start stop

theorem blankBetween_append
    {gap : Text}
    (hGap : gap.isBlank = true)
    (before after : Text) :
    BlankBetween (before ++ gap ++ after) before.byteLength
      (before ++ gap).byteLength :=
  ⟨gap, hGap, before, after, rfl, rfl, rfl⟩

namespace Call

variable {before rest gap : Text}
variable {token : Token}
variable {found : Option Token}
variable {s : Scanner}

/- After a call the scanner stands where it says, no less far. -/
theorem Reads.standsIn
    (hShort : (before ++ rest).byteLength + 1 < UInt32.size)
    (h : Reads before rest gap (found, s)) :
    s.StandsIn (before ++ rest) ∧
      before.byteLength ≤ s.cursor.position := by
  cases h with
  | @token part after p hRest hPart =>
      have hText : before ++ rest =
          before ++ gap ++ part ++ after := by
        simp only [hRest, List.append_assoc]
      rw [hText] at hShort ⊢
      refine ⟨standsIn_between hShort, ?_⟩
      simp only [position_between, Text.byteLength_append]
      omega
  | @nothing after hRest =>
      have hText : before ++ rest = before ++ gap ++ after := by
        simp only [hRest, List.append_assoc]
      rw [hText] at hShort ⊢
      refine ⟨standsIn_between hShort, ?_⟩
      simp only [position_between, Text.byteLength_append]
      omega

/- A token that is returned stands behind the gap. -/
theorem Reads.token_standsIn
    (hShort : (before ++ rest).byteLength + 1 < UInt32.size)
    (h : Reads before rest gap (some token, s)) :
    token.StandsIn (before ++ rest) ∧
      token.span.start = (before ++ gap).byteLength ∧
      token.span.stop = s.cursor.position ∧
      ∃ behind, rest = gap ++ behind := by
  cases h with
  | @token part after p hRest hPart =>
      have hText : before ++ rest =
          before ++ gap ++ part ++ after := by
        simp only [hRest, List.append_assoc]
      rw [hText] at hShort ⊢
      rw [position_between]
      refine ⟨Token.standsIn_covering hPart hShort p, rfl, rfl,
        part ++ after, ?_⟩
      rw [hRest, List.append_assoc]

/- Without a token the gap has been read. -/
theorem Reads.nothing_eq
    (h : Reads before rest gap (none, s)) :
    ∃ behind, rest = gap ++ behind ∧
      s = between (before ++ gap) behind := by
  cases h with
  | @nothing after hRest => exact ⟨after, hRest, rfl⟩

end Call

------------------------------------------------------------
-- Sequences of Calls
------------------------------------------------------------

/- A scanner and the end of the last token that it returned. -/
structure Session where
  scanner : Scanner
  tokenEnd : Nat

namespace Session

/- A new scanner, which has returned no token. -/
def ofText (t : Text) : Session :=
  ⟨.ofText t, 0⟩

/- The session after one more call. -/
def call
    (session : Session)
    (c : Call) : Session :=
  match c.on session.scanner with
  | (some token, s) => ⟨s, token.span.stop⟩
  | (none, s) => ⟨s, session.tokenEnd⟩

/- The session after some calls. -/
def calls
    (session : Session)
    (cs : List Call) : Session :=
  cs.foldl call session

/-
  The scanner has read a text whose last token is followed by
  white space.
-/
def ReadTo
    (t : Text)
    (session : Session) : Prop :=
  ∃ spoken gap after : Text,
    t = spoken ++ gap ++ after ∧ gap.isBlank = true ∧
      session = ⟨between (spoken ++ gap) after, spoken.byteLength⟩

/- A call reads on. -/
theorem ReadTo.call
    {t : Text}
    {session : Session}
    (h : session.ReadTo t)
    (c : Call) : (session.call c).ReadTo t := by
  rcases h with ⟨spoken, blank, rest, hText, hBlank, rfl⟩
  rcases c.on_between (spoken ++ blank) rest with
    ⟨gap, hGap, _, hReads⟩
  rw [Session.call]
  generalize c.on (between (spoken ++ blank) rest) = found
    at hReads
  cases hReads with
  | @token part after p hRest hPart =>
      refine ⟨spoken ++ blank ++ gap ++ part, [], after, ?_, rfl,
        ?_⟩
      · simp only [hText, hRest, List.append_assoc,
          List.append_nil]
      · simp only [Span.covering, List.append_nil]
  | @nothing after hRest =>
      refine ⟨spoken, blank ++ gap, after, ?_, ?_, ?_⟩
      · simp only [hText, hRest, List.append_assoc]
      · rw [Text.isBlank_append, hBlank, hGap]
        rfl
      · simp only [List.append_assoc]

/- All calls on a new scanner read on. -/
theorem readTo_calls
    (t : Text)
    (cs : List Call) : ((ofText t).calls cs).ReadTo t := by
  induction cs using List.reverseRecOn with
  | nil => exact ⟨[], [], t, rfl, rfl, rfl⟩
  | append_singleton cs c ih =>
      rw [calls, List.foldl_append]
      exact ih.call c

------------------------------------------------------------
-- Positions Are True
------------------------------------------------------------

/-
  In a text that is not too long, after any calls on a new scanner
  and after one more of them, the scanner stands where it says and
  has not gone back.  A token that the call returns stands where
  its span says: behind the last token and the place before the
  call with white space between, and in front of the new place.  A
  call without a token reads white space alone, and nothing if it
  skips.
-/
theorem positions_faithful
    {t : Text}
    (hShort : t.byteLength + 1 < UInt32.size)
    (earlier : List Call)
    (c : Call) :
    let session := (ofText t).calls earlier
    let before := session.scanner
    let found := (c.on before).1
    let after := (c.on before).2
    before.StandsIn t ∧ after.StandsIn t ∧
      before.cursor.position ≤ after.cursor.position ∧
      (∀ token, found = some token →
        token.StandsIn t ∧
          BlankBetween t session.tokenEnd token.span.start ∧
          BlankBetween t before.cursor.position
            token.span.start ∧
          (c.skips = true →
            token.span.start = before.cursor.position) ∧
          token.span.stop = after.cursor.position) ∧
      (found = none →
        BlankBetween t before.cursor.position
            after.cursor.position ∧
          (c.skips = true → after = before)) := by
  rcases readTo_calls t earlier with
    ⟨spoken, blank, rest, rfl, hBlank, hSession⟩
  rcases c.on_between (spoken ++ blank) rest with
    ⟨gap, hGap, hSkips, hReads⟩
  have hBoth : (blank ++ gap).isBlank = true := by
    rw [Text.isBlank_append, hBlank, hGap]
    rfl
  simp only [hSession, position_between]
  generalize c.on (between (spoken ++ blank) rest) = outcome
    at hReads
  rcases outcome with ⟨found, after⟩
  rcases hReads.standsIn hShort with ⟨hAfter, hLe⟩
  refine ⟨standsIn_between hShort, hAfter, hLe, ?_, ?_⟩
  · rintro token rfl
    rcases hReads.token_standsIn hShort with
      ⟨hToken, hStart, hStop, behind, rfl⟩
    have hSinceToken := blankBetween_append hBoth spoken behind
    have hSinceCall :=
      blankBetween_append hGap (spoken ++ blank) behind
    simp only [← List.append_assoc] at hSinceToken hSinceCall ⊢
    rw [hStart]
    refine ⟨?_, hSinceToken, hSinceCall, ?_, hStop⟩
    · rwa [← List.append_assoc] at hToken
    · intro hSkip
      rw [hSkips hSkip, List.append_nil]
  · rintro rfl
    rcases hReads.nothing_eq with ⟨behind, rfl, rfl⟩
    have hSinceCall :=
      blankBetween_append hGap (spoken ++ blank) behind
    rw [position_between]
    constructor
    · rwa [← List.append_assoc]
    · intro hSkip
      rw [hSkips hSkip, List.append_nil, List.nil_append]

/- A name on the second line, behind a letter of two bytes. -/
theorem positions_faithful_secondLine :
    let t := "é\n @misc".toList
    let before := ((ofText t).calls [.skipTo [.atSign]]).scanner
    let found := (Call.nextToken [.name]).on before
    found.1 = some ⟨"misc".toList, .name, ⟨5, 9, 2, 3⟩⟩ ∧
      before.StandsIn t ∧ found.2.StandsIn t ∧
      Token.StandsIn t ⟨"misc".toList, .name, ⟨5, 9, 2, 3⟩⟩ := by
  have hShort : Text.byteLength "é\n @misc".toList + 1 <
      UInt32.size := by decide
  have hFaithful := positions_faithful hShort
    [.skipTo [.atSign]] (.nextToken [.name])
  dsimp only at hFaithful ⊢
  rcases hFaithful with ⟨hBefore, hAfter, _, hToken, _⟩
  have hFound : ((Call.nextToken [.name]).on
      ((ofText "é\n @misc".toList).calls
        [.skipTo [.atSign]]).scanner).1 =
        some ⟨"misc".toList, .name, ⟨5, 9, 2, 3⟩⟩ := by
    decide
  exact ⟨hFound, hBefore, hAfter, (hToken _ hFound).1⟩

/-
  A text with one byte more may have one line too many: behind
  its newlines the counter is at zero again, while the location
  stays at the greatest number.
-/
theorem line_overflows :
    let t := Text.long '\n'
    let after := ((Call.nextToken []).on (.ofText t)).2
    t.byteLength < UInt32.size ∧
      after.cursor.position = t.byteLength ∧
      (after.cursor.line : Nat) ≠ t.count '\n' + 1 ∧
      after.cursor.line ≠ after.location.line := by
  have hBytes : (Text.long '\n').byteLength = UInt32.size - 1 :=
    Text.byteLength_long rfl
  have hCount : (Text.long '\n').count '\n' = UInt32.size - 1 :=
    List.count_replicate_self
  have hBlank : (Text.long '\n').isBlank = true :=
    List.all_eq_true.2 (fun c hMem =>
      List.eq_of_mem_replicate hMem ▸ rfl)
  have hLine : (between (Text.long '\n') []).cursor.line = 0 := by
    rw [between, Cursor.advance_start, hCount]
    rfl
  have hLocation :
      (between (Text.long '\n') []).location.line.toNat =
        UInt32.size - 1 := by
    rw [location_between, Location.toNat_line_between, hCount]
    rfl
  dsimp only
  rw [Call.on_nextToken_of_isBlank hBlank, position_between, hBytes,
    hLine, hCount]
  refine ⟨by decide, rfl, by decide, fun hEq => ?_⟩
  rw [← hEq] at hLocation
  cases hLocation

end Session

end Scanner

end Bibliography
