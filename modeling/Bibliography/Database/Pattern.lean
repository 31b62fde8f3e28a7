import Bibliography.Text.Basic

/-
  The token shapes of database text.

  Punctuation marks are single characters.  Names, citation keys
  and numbers are the longest runs of their characters.

  Key definitions include:
    * `Pattern`
    * `Pattern.lexeme?`
    * `Pattern.search?`
    * `Pattern.reach?`
-/

------------------------------------------------------------
-- Character Classes
------------------------------------------------------------

namespace Bibliography

/- The shapes that a token can have. -/
inductive Pattern where
  | atSign
  | openBrace
  | closeBrace
  | openParen
  | closeParen
  | quote
  | comma
  | equals
  | hash
  | name
  | key
  | number
  deriving DecidableEq

namespace Pattern

/- Punctuation that a name may hold. -/
def nameSpecials : List Char :=
  ['!', '$', '&', '*', '+', '-', '.', '/', ':', ';', '<', '>',
    '?', '[', ']', '^', '_', '\x60', '|', '~', '\x7f']

/- Characters that can begin a name. -/
def isNameStart (c : Char) : Bool :=
  c.isAlpha || nameSpecials.contains c

/- Characters that can follow in a name. -/
def isNameChar (c : Char) : Bool :=
  isNameStart c || c.isDigit

/- Characters that end a citation key, beside white space. -/
def keyStops : List Char :=
  [',', '{', '}', '(', ')', '"', '=', '#']

/- Characters of a citation key. -/
def isKeyChar (c : Char) : Bool :=
  !Character.isSpace c && !keyStops.contains c

------------------------------------------------------------
-- Patterns
------------------------------------------------------------

/- The character of a punctuation mark. -/
def literal? : Pattern → Option Char
  | .atSign => some '@'
  | .openBrace => some '{'
  | .closeBrace => some '}'
  | .openParen => some '('
  | .closeParen => some ')'
  | .quote => some '"'
  | .comma => some ','
  | .equals => some '='
  | .hash => some '#'
  | .name | .key | .number => none

/- The delimiter that closes an opening one. -/
def closer? : Pattern → Option Pattern
  | .openBrace => some .closeBrace
  | .openParen => some .closeParen
  | _ => none

/- The words for a pattern in messages. -/
def describe (p : Pattern) : Text :=
  match p.literal? with
  | some c => ['\x27', c, '\x27']
  | none =>
      match p with
      | .name => "name".toList
      | .key => "citation key".toList
      | _ => "number".toList

/- Characters that can begin a token of the pattern. -/
def starts
    (p : Pattern)
    (c : Char) : Bool :=
  match p with
  | .name => isNameStart c
  | .key => isKeyChar c
  | .number => c.isDigit
  | _ => p.literal? == some c

/- Characters that can follow in a token of the pattern. -/
def continues
    (p : Pattern)
    (c : Char) : Bool :=
  match p with
  | .name => isNameChar c
  | .key => isKeyChar c
  | .number => c.isDigit
  | _ => false

------------------------------------------------------------
-- Matching
------------------------------------------------------------

/-
  The longest token of the pattern that a text begins with, and
  the text after it.
-/
def lexeme?
    (p : Pattern) : Text → Option (Text × Text)
  | [] => none
  | c :: rest =>
      if p.starts c then
        some (c :: rest.takeWhile p.continues,
          rest.dropWhile p.continues)
      else none

/-
  The first token of the pattern in a text: the text before it,
  the token, and the text after it.
-/
def search?
    (p : Pattern) : Text → Option (Text × Text × Text)
  | [] => none
  | c :: rest =>
      match p.lexeme? (c :: rest) with
      | some (token, after) => some ([], token, after)
      | none =>
          match search? p rest with
          | none => none
          | some (skipped, token, after) =>
              some (c :: skipped, token, after)

/- The number of characters up to the end of the first token. -/
def reach?
    (p : Pattern)
    (t : Text) : Option Nat :=
  (p.search? t).map
    (fun found => found.1.length + found.2.1.length)

/-
  The pattern whose first token ends first, and where that is;
  of several, the one that is listed first.
-/
def nearest?
    (t : Text) : List Pattern → Option (Nat × Pattern)
  | [] => none
  | p :: rest =>
      match p.reach? t, nearest? t rest with
      | none, later => later
      | some stop, none => some (stop, p)
      | some stop, some (laterStop, q) =>
          if laterStop < stop then some (laterStop, q)
          else some (stop, p)

/- The first of some patterns that a text begins with. -/
def firstLexeme?
    (t : Text) :
    List Pattern → Option (Pattern × Text × Text)
  | [] => none
  | p :: rest =>
      match p.lexeme? t with
      | some (token, after) => some (p, token, after)
      | none => firstLexeme? t rest

------------------------------------------------------------
-- Tokens Are Not Empty
------------------------------------------------------------

/- A token and what follows it make up the text. -/
theorem append_of_lexeme?
    {p : Pattern}
    {t token after : Text}
    (h : p.lexeme? t = some (token, after)) :
    token ++ after = t ∧ token ≠ [] := by
  cases t with
  | nil => simp [lexeme?] at h
  | cons c rest =>
      rw [lexeme?] at h
      split at h
      · cases h
        exact ⟨by simp, by simp⟩
      · cases h

/- The parts of a search make up the text. -/
theorem append_of_search?
    {p : Pattern}
    {t skipped token after : Text}
    (h : p.search? t = some (skipped, token, after)) :
    skipped ++ token ++ after = t ∧ token ≠ [] := by
  induction t generalizing skipped token after with
  | nil => simp [search?] at h
  | cons c rest ih =>
      rw [search?] at h
      split at h
      · rename_i hLexeme
        cases h
        simpa using append_of_lexeme? hLexeme
      · split at h
        · cases h
        · rename_i hSearch
          cases h
          obtain ⟨hAppend, hNonempty⟩ := ih hSearch
          exact ⟨by simp [← hAppend], hNonempty⟩

/- The end of the first token lies in the text. -/
theorem reach?_bounds
    {p : Pattern}
    {t : Text}
    {stop : Nat}
    (h : p.reach? t = some stop) :
    0 < stop ∧ stop ≤ t.length := by
  obtain ⟨⟨skipped, token, after⟩, hSearch, rfl⟩ :=
    Option.map_eq_some_iff.1 h
  obtain ⟨rfl, hNonempty⟩ := append_of_search? hSearch
  have hPos := List.length_pos_iff.2 hNonempty
  simp only [List.length_append]
  omega

/- The nearest end lies in the text. -/
theorem nearest?_bounds
    {t : Text}
    {patterns : List Pattern}
    {stop : Nat}
    {p : Pattern}
    (h : nearest? t patterns = some (stop, p)) :
    0 < stop ∧ stop ≤ t.length := by
  induction patterns generalizing stop p with
  | nil => simp [nearest?] at h
  | cons q rest ih =>
      rw [nearest?] at h
      split at h
      · exact ih h
      · rename_i hReach _
        cases h
        exact reach?_bounds hReach
      · rename_i hReach hLater
        split at h
        · cases h
          exact ih hLater
        · cases h
          exact reach?_bounds hReach

/- A token in place and what follows it make up the text. -/
theorem append_of_firstLexeme?
    {t : Text}
    {patterns : List Pattern}
    {p : Pattern}
    {token after : Text}
    (h : firstLexeme? t patterns = some (p, token, after)) :
    token ++ after = t ∧ token ≠ [] := by
  induction patterns with
  | nil => simp [firstLexeme?] at h
  | cons q rest ih =>
      rw [firstLexeme?] at h
      split at h
      · rename_i hLexeme
        cases h
        exact append_of_lexeme? hLexeme
      · exact ih h

end Pattern

end Bibliography
