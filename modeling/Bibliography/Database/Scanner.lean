import Bibliography.Database.Pattern
import Bibliography.Error

/-
  Reading tokens from database text.

  A scanner holds the text that is still to be read, and the
  place up to which it has been read.  It has no grammar of its
  own: each step is told which patterns are acceptable.

  Key definitions include:
    * `Cursor`
    * `Token`
    * `Scanner`
    * `Scanner.skipTo`
    * `Scanner.nextToken`
    * `Scanner.require`
    * `Scanned`
-/

------------------------------------------------------------
-- Cursors
------------------------------------------------------------

namespace Bibliography

/-
  A byte offset with its line and column.  The line is a counter
  of 32 bits, which starts again at zero behind its greatest
  number.
-/
structure Cursor where
  position : Nat
  line : UInt32
  column : Nat
  deriving DecidableEq

namespace Cursor

/- The place where every text begins. -/
def start : Cursor :=
  ⟨0, 1, 1⟩

/- The place after one more character. -/
def step
    (here : Cursor)
    (c : Char) : Cursor :=
  if c = '\n' then
    ⟨here.position + c.utf8Size, here.line + 1, 1⟩
  else
    ⟨here.position + c.utf8Size, here.line, here.column + 1⟩

/- The place after a whole text. -/
def advance
    (here : Cursor)
    (t : Text) : Cursor :=
  t.foldl step here

end Cursor

------------------------------------------------------------
-- Tokens and Scanners
------------------------------------------------------------

/- A piece of the source, the pattern it ends with, its range. -/
structure Token where
  text : Text
  pattern : Pattern
  span : Span
  deriving DecidableEq

/- The source, its unread part, and the place between. -/
structure Scanner where
  source : Text
  rest : Text
  cursor : Cursor
  deriving DecidableEq

/- The outcome of a reading step and the scanner after it. -/
abbrev Scanned (α : Type) :=
  Except Error α × Scanner

namespace Scanned

/- Go on with a value, or stop at an error. -/
def andThen
    {α β : Type}
    (step : Scanned α)
    (next : α → Scanner → Scanned β) : Scanned β :=
  match step with
  | (.error e, s) => (.error e, s)
  | (.ok a, s) => next a s

end Scanned

namespace Scanner

/- The scanner that has read nothing. -/
def ofText (t : Text) : Scanner :=
  ⟨t, t, .start⟩

/- Whether everything has been read. -/
def atEnd (s : Scanner) : Bool :=
  s.rest.isEmpty

/- The location up to which the source has been read. -/
def location (s : Scanner) : Location :=
  Location.locate s.source s.cursor.position

/- The location of the end of the source. -/
def endLocation (s : Scanner) : Location :=
  Location.locate s.source s.source.byteLength

/- Read the first `n` characters of the rest. -/
def read
    (s : Scanner)
    (n : Nat) : Scanner :=
  { s with
    rest := s.rest.drop n
    cursor := s.cursor.advance (s.rest.take n) }

/- The token of the first `n` characters of the rest. -/
def token
    (s : Scanner)
    (n : Nat)
    (p : Pattern) : Token where
  text := s.rest.take n
  pattern := p
  span :=
    { start := s.cursor.position
      stop := (s.read n).cursor.position
      line := s.cursor.line
      column := .ofNatClamp s.cursor.column }

------------------------------------------------------------
-- Reading Steps
------------------------------------------------------------

/-
  Read up to the end of the nearest token of some patterns.  The
  result covers what was skipped, too.
-/
def skipTo
    (s : Scanner)
    (patterns : List Pattern) : Option (Token × Scanner) :=
  match Pattern.nearest? s.rest patterns with
  | none => none
  | some (stop, p) => some (s.token stop p, s.read stop)

/- Read the white space in front. -/
def skipSpace (s : Scanner) : Scanner :=
  s.read (s.rest.takeWhile Character.isSpace).length

/-
  Read white space and then a token of the first pattern that
  fits, if one does.  The text must not end before it.
-/
def nextToken
    (s : Scanner)
    (patterns : List Pattern) : Scanned (Option Token) :=
  let s := s.skipSpace
  if s.atEnd then (.error (.of (.prematureEnd s.location)), s)
  else
    match Pattern.firstLexeme? s.rest patterns with
    | none => (.ok none, s)
    | some (p, lexeme, _) =>
        (.ok (some (s.token lexeme.length p)),
          s.read lexeme.length)

/- The patterns in words. -/
def expectation (patterns : List Pattern) : Text :=
  Text.join " or ".toList (patterns.map Pattern.describe)

/- Read a token of one of some patterns, which must be there. -/
def require
    (s : Scanner)
    (patterns : List Pattern) : Scanned Token :=
  match s.nextToken patterns with
  | (.error e, s) => (.error e, s)
  | (.ok (some t), s) => (.ok t, s)
  | (.ok none, s) =>
      (.error
        (.of (.tokenRequired (expectation patterns) s.location)),
        s)

------------------------------------------------------------
-- The Rest Gets Shorter
------------------------------------------------------------

theorem length_rest_read
    (s : Scanner)
    (n : Nat) :
    (s.read n).rest.length = s.rest.length - n := by
  simp [read]

/- Skipping to a token reads something. -/
theorem length_rest_skipTo
    {s : Scanner}
    {patterns : List Pattern}
    {t : Token}
    {s' : Scanner}
    (h : s.skipTo patterns = some (t, s')) :
    s'.rest.length < s.rest.length := by
  rw [skipTo] at h
  split at h
  · cases h
  · rename_i hNearest
    cases h
    have hBounds := Pattern.nearest?_bounds hNearest
    rw [length_rest_read]
    omega

/- No step adds to the rest, and a token takes from it. -/
theorem length_rest_nextToken
    {s : Scanner}
    {patterns : List Pattern}
    {found : Except Error (Option Token)}
    {s' : Scanner}
    (h : s.nextToken patterns = (found, s')) :
    s'.rest.length ≤ s.rest.length ∧
      (∀ t, found = .ok (some t) →
        s'.rest.length < s.rest.length) := by
  have hSpace : s.skipSpace.rest.length ≤ s.rest.length := by
    rw [skipSpace, length_rest_read]
    omega
  rw [nextToken] at h
  split at h
  · cases h
    exact ⟨hSpace, by simp⟩
  · split at h
    · cases h
      exact ⟨hSpace, by simp⟩
    · rename_i hLexeme
      cases h
      obtain ⟨hAppend, hNonempty⟩ :=
        Pattern.append_of_firstLexeme? hLexeme
      have hPos := List.length_pos_iff.2 hNonempty
      have hLength := congrArg List.length hAppend
      rw [List.length_append] at hLength
      rw [length_rest_read]
      exact ⟨by omega, fun _ _ => by omega⟩

/- A required token takes from the rest. -/
theorem length_rest_require
    {s : Scanner}
    {patterns : List Pattern}
    {found : Except Error Token}
    {s' : Scanner}
    (h : s.require patterns = (found, s')) :
    s'.rest.length ≤ s.rest.length ∧
      (∀ t, found = .ok t →
        s'.rest.length < s.rest.length) := by
  rw [require] at h
  split at h
  · rename_i hNext
    cases h
    exact ⟨(length_rest_nextToken hNext).1, by simp⟩
  · rename_i hNext
    cases h
    have hLess := (length_rest_nextToken hNext).2 _ rfl
    exact ⟨by omega, fun _ _ => hLess⟩
  · rename_i hNext
    cases h
    exact ⟨(length_rest_nextToken hNext).1, by simp⟩

/- A bound on the rest that holds of both steps of two. -/
theorem length_rest_andThen
    {α β : Type}
    {step : Scanned α}
    {next : α → Scanner → Scanned β}
    {n : Nat}
    (hStep : step.2.rest.length ≤ n)
    (hNext : ∀ a s, step = (.ok a, s) →
      (next a s).2.rest.length ≤ n) :
    (step.andThen next).2.rest.length ≤ n := by
  obtain ⟨found, s⟩ := step
  cases found with
  | error e => exact hStep
  | ok a => exact hNext a s rfl

/- A required token does not add to the rest. -/
theorem length_rest_require_le
    (s : Scanner)
    (patterns : List Pattern) :
    (s.require patterns).2.rest.length ≤ s.rest.length :=
  (length_rest_require rfl).1

end Scanner

end Bibliography
