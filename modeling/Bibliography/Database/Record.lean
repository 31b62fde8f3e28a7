import Bibliography.Database.Configuration
import Bibliography.Database.Value
import Bibliography.Entry

/-
  Reading one record of a database.

  A record is a macro definition, a preamble, a comment, or an
  entry.  It is delimited by braces or by parentheses.  Of fields
  that an entry repeats the first counts.

  Key definitions include:
    * `Record`
    * `Draft`
    * `Scanner.readRecord`
-/

------------------------------------------------------------
-- Records
------------------------------------------------------------

namespace Bibliography

/- What a record says. -/
inductive Record where
  | entry (key : Text) (entry : Entry) (repeated : List Text)
  | definition (name text : Text)
  | preamble (fragment : Text)
  | comment
  deriving DecidableEq

/- An entry under way, its field names, and the repeated ones. -/
structure Draft where
  entry : Entry
  seen : List Text
  repeated : List Text
  deriving DecidableEq

namespace Draft

/- The draft of an entry without fields. -/
def ofType (entryType : Text) : Draft :=
  ⟨.ofType entryType, [], []⟩

/- Read names and add the persons to a role. -/
def addPersons
    (role : Text) :
    List Text → Entry → Except Error Entry
  | [], e => .ok e
  | name :: rest, e =>
      match Person.parse name with
      | .error err => .error err
      | .ok p => addPersons role rest (e.addPerson role p)

/- Add a field whose name is in lower case. -/
def addField
    (config : ParserConfig)
    (d : Draft)
    (field value : Text) : Except Error Draft :=
  if field ∈ d.seen then
    .ok { d with repeated := d.repeated ++ [field] }
  else if config.isPersonField field then
    (addPersons field value.splitNames d.entry).map
      (fun e => { d with entry := e, seen := field :: d.seen })
  else
    .ok
      { d with
        entry := d.entry.insertField field value
        seen := field :: d.seen }

end Draft

------------------------------------------------------------
-- Fields
------------------------------------------------------------

namespace Scanner

/- Read the value of a field after an equals sign. -/
def readAssigned
    (macros : MacroTable)
    (s : Scanner) : Scanned Text :=
  (s.require [.equals]).andThen
    fun _ s => s.readValue macros

/- Reading an assigned value does not add to the rest. -/
theorem length_rest_readAssigned
    (macros : MacroTable)
    (s : Scanner) :
    (s.readAssigned macros).2.rest.length ≤ s.rest.length := by
  refine length_rest_andThen (length_rest_require_le s _) ?_
  intro t s' hRequire
  exact Nat.le_trans (length_rest_readValue macros s')
    (length_rest_require hRequire).1

/-
  Read the fields of an entry and its closing delimiter.  Commas
  separate them; there may be none between two commas.
-/
def readFields
    (config : ParserConfig)
    (macros : MacroTable)
    (close : Pattern)
    (d : Draft)
    (s : Scanner) : Scanned Draft :=
  match _hRequire : s.require [.comma, close] with
  | (.error e, s₁) => (.error e, s₁)
  | (.ok separator, s₁) =>
      if separator.pattern ≠ .comma then (.ok d, s₁)
      else
        match _hNext : s₁.nextToken [.name] with
        | (.error e, s₂) => (.error e, s₂)
        | (.ok none, s₂) => readFields config macros close d s₂
        | (.ok (some name), s₂) =>
            match _hValue : s₂.readAssigned macros with
            | (.error e, s₃) => (.error e, s₃)
            | (.ok value, s₃) =>
                match d.addField config name.text.lower value with
                | .error e => (.error e, s₃)
                | .ok d' =>
                    readFields config macros close d' s₃
termination_by s.rest.length
decreasing_by
  · exact Nat.lt_of_le_of_lt (length_rest_nextToken _hNext).1
      ((length_rest_require _hRequire).2 _ rfl)
  · have hValue := length_rest_readAssigned macros s₂
    rw [_hValue] at hValue
    exact Nat.lt_of_le_of_lt
      (Nat.le_trans hValue (length_rest_nextToken _hNext).1)
      ((length_rest_require _hRequire).2 _ rfl)

/- Reading fields does not add to the rest. -/
theorem length_rest_readFields
    (config : ParserConfig)
    (macros : MacroTable)
    (close : Pattern)
    (d : Draft)
    (s : Scanner) :
    (s.readFields config macros close d).2.rest.length ≤
      s.rest.length := by
  fun_induction readFields config macros close d s with
  | case1 d s e s₁ hRequire =>
      exact (length_rest_require hRequire).1
  | case2 d s separator s₁ hRequire hPattern =>
      exact (length_rest_require hRequire).1
  | case3 d s separator s₁ hRequire hPattern e s₂ hNext =>
      exact Nat.le_trans (length_rest_nextToken hNext).1
        (length_rest_require hRequire).1
  | case4 d s separator s₁ hRequire hPattern s₂ hNext ih =>
      exact Nat.le_trans ih
        (Nat.le_trans (length_rest_nextToken hNext).1
          (length_rest_require hRequire).1)
  | case5 d s separator s₁ hRequire hPattern name s₂ hNext e s₃
      hValue =>
      have hLe := length_rest_readAssigned macros s₂
      rw [hValue] at hLe
      exact Nat.le_trans hLe
        (Nat.le_trans (length_rest_nextToken hNext).1
          (length_rest_require hRequire).1)
  | case6 d s separator s₁ hRequire hPattern name s₂ hNext value
      s₃ hValue e hField =>
      have hLe := length_rest_readAssigned macros s₂
      rw [hValue] at hLe
      exact Nat.le_trans hLe
        (Nat.le_trans (length_rest_nextToken hNext).1
          (length_rest_require hRequire).1)
  | case7 d s separator s₁ hRequire hPattern name s₂ hNext value
      s₃ hValue d' hField ih =>
      have hLe := length_rest_readAssigned macros s₂
      rw [hValue] at hLe
      exact Nat.le_trans ih
        (Nat.le_trans hLe
          (Nat.le_trans (length_rest_nextToken hNext).1
            (length_rest_require hRequire).1))

------------------------------------------------------------
-- Kinds of Records
------------------------------------------------------------

/- Read an entry from its key on. -/
def readEntry
    (config : ParserConfig)
    (macros : MacroTable)
    (entryType : Text)
    (close : Pattern)
    (s : Scanner) : Scanned Record :=
  (s.require [.key]).andThen fun key s =>
    (s.readFields config macros close (.ofType entryType)).andThen
      fun d s => (.ok (.entry key.text d.entry d.repeated), s)

/- Read a macro definition from its name on. -/
def readDefinition
    (macros : MacroTable)
    (close : Pattern)
    (s : Scanner) : Scanned Record :=
  (s.require [.name]).andThen fun name s =>
    (s.readAssigned macros).andThen fun text s =>
      (s.require [close]).andThen fun _ s =>
        (.ok (.definition name.text text), s)

/- Read a preamble from its value on. -/
def readPreamble
    (macros : MacroTable)
    (close : Pattern)
    (s : Scanner) : Scanned Record :=
  (s.readValue macros).andThen fun text s =>
    (s.require [close]).andThen fun _ s =>
      (.ok (.preamble text), s)

/- Read what follows the opening delimiter of a record. -/
def readContent
    (config : ParserConfig)
    (macros : MacroTable)
    (kind : Text)
    (close : Pattern)
    (s : Scanner) : Scanned Record :=
  if kind = "string".toList then s.readDefinition macros close
  else if kind = "preamble".toList then
    s.readPreamble macros close
  else if kind = "comment".toList then (.ok .comment, s)
  else s.readEntry config macros kind close

/-
  Read a record whose at sign has been read.  Of a comment only
  the opening delimiter is read.
-/
def readRecord
    (config : ParserConfig)
    (macros : MacroTable)
    (s : Scanner) : Scanned Record :=
  (s.require [.name]).andThen fun name s =>
    (s.require [.openBrace, .openParen]).andThen fun opener s =>
      s.readContent config macros name.text.lower
        (opener.pattern.closer?.getD .closeBrace)

/- Reading a record does not add to the rest. -/
theorem length_rest_readContent
    (config : ParserConfig)
    (macros : MacroTable)
    (kind : Text)
    (close : Pattern)
    (s : Scanner) :
    (s.readContent config macros kind close).2.rest.length ≤
      s.rest.length := by
  rw [readContent]
  split
  · refine length_rest_andThen (length_rest_require_le s _) ?_
    intro name s₁ hName
    have hLe₁ := (length_rest_require hName).1
    have hValue := length_rest_readAssigned macros s₁
    refine length_rest_andThen (Nat.le_trans hValue hLe₁) ?_
    intro text s₂ hText
    rw [hText] at hValue
    have hLe₂ := Nat.le_trans hValue hLe₁
    refine length_rest_andThen
      (Nat.le_trans (length_rest_require_le s₂ _) hLe₂) ?_
    intro t s₃ hClose
    exact Nat.le_trans (length_rest_require hClose).1 hLe₂
  · split
    · have hValue := length_rest_readValue macros s
      refine length_rest_andThen hValue ?_
      intro text s₁ hText
      rw [hText] at hValue
      refine length_rest_andThen
        (Nat.le_trans (length_rest_require_le s₁ _) hValue) ?_
      intro t s₂ hClose
      exact Nat.le_trans (length_rest_require hClose).1 hValue
    · split
      · exact Nat.le_refl _
      · refine length_rest_andThen (length_rest_require_le s _) ?_
        intro key s₁ hKey
        have hLe := (length_rest_require hKey).1
        have hFields :=
          length_rest_readFields config macros close
            (.ofType kind) s₁
        refine length_rest_andThen
          (Nat.le_trans hFields hLe) ?_
        intro d s₂ hDraft
        rw [hDraft] at hFields
        exact Nat.le_trans hFields hLe

/- Reading a record does not add to the rest. -/
theorem length_rest_readRecord
    (config : ParserConfig)
    (macros : MacroTable)
    (s : Scanner) :
    (s.readRecord config macros).2.rest.length ≤
      s.rest.length := by
  refine length_rest_andThen (length_rest_require_le s _) ?_
  intro name s₁ hName
  have hLe₁ := (length_rest_require hName).1
  refine length_rest_andThen
    (Nat.le_trans (length_rest_require_le s₁ _) hLe₁) ?_
  intro opener s₂ hOpen
  exact Nat.le_trans (length_rest_readContent ..)
    (Nat.le_trans (length_rest_require hOpen).1 hLe₁)

end Scanner

end Bibliography
