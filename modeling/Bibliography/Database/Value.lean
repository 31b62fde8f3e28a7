import Bibliography.Database.MacroTable
import Bibliography.Database.Scanner

/-
  Reading the values of database records.

  A value is one or more parts with `#` between them: quoted or
  braced text, a number, or the name of a macro.  A body ends at
  the first delimiter outside of the groups that it opens.

  Key definitions include:
    * `Text.delimited?`
    * `Scanner.readBody`
    * `Scanner.readPart`
    * `Scanner.readValue`
-/

------------------------------------------------------------
-- Bodies
------------------------------------------------------------

namespace Bibliography

namespace Text

/-
  The text before the first delimiter at depth zero, the
  delimiter, and the text after it.  A closing brace is always a
  delimiter, a quote only in quoted text.
-/
def delimited?
    (quoted : Bool) : Nat → Text → Option (Text × Char × Text)
  | _, [] => none
  | depth, c :: rest =>
      if depth = 0 ∧ (c = '}' ∨ quoted = true ∧ c = '"') then
        some ([], c, rest)
      else
        match delimited? quoted (nest depth c) rest with
        | none => none
        | some (body, stop, after) =>
            some (c :: body, stop, after)

/- The length of the text through its last brace. -/
def reachLastBrace (t : Text) : Nat :=
  t.length - (t.reverse.takeWhile (fun c => !isBrace c)).length

end Text

namespace Scanner

/-
  Read the body of a quoted or braced part and its delimiter.
  The opening delimiter has been read.  Where the body does not
  end, the text is read through its last brace.
-/
def readBody
    (quoted : Bool)
    (s : Scanner) : Scanned Text :=
  match Text.delimited? quoted 0 s.rest with
  | none =>
      (.error (.of (.prematureEnd s.endLocation)),
        s.read s.rest.reachLastBrace)
  | some (body, stop, _) =>
      if quoted = true ∧ stop = '}' then
        (.error
          (.of (.unbalancedBrace (s.read body.length).location)),
          s.read (body.length + 1))
      else (.ok body, s.read (body.length + 1))

------------------------------------------------------------
-- Values
------------------------------------------------------------

/- Read one part of a value. -/
def readPart
    (macros : MacroTable)
    (s : Scanner) : Scanned Text :=
  (s.require [.quote, .openBrace, .number, .name]).andThen
    fun t s =>
      match t.pattern with
      | .quote => s.readBody true
      | .openBrace => s.readBody false
      | .number => (.ok t.text, s)
      | _ =>
          match macros.get? t.text with
          | some text => (.ok text, s)
          | none => (.error (.of (.undefinedMacro t.text)), s)

/- Reading a body does not add to the rest. -/
theorem length_rest_readBody
    (quoted : Bool)
    (s : Scanner) :
    (s.readBody quoted).2.rest.length ≤ s.rest.length := by
  rw [readBody]
  split
  · simp only [length_rest_read]
    omega
  · split <;> simp only [length_rest_read] <;> omega

/- Reading a part does not add to the rest. -/
theorem length_rest_readPart
    (macros : MacroTable)
    (s : Scanner) :
    (s.readPart macros).2.rest.length ≤ s.rest.length := by
  refine length_rest_andThen (length_rest_require_le s _) ?_
  intro t s' hRequire
  have hLe : s'.rest.length ≤ s.rest.length :=
    (length_rest_require hRequire).1
  split
  · exact Nat.le_trans (length_rest_readBody true s') hLe
  · exact Nat.le_trans (length_rest_readBody false s') hLe
  · exact hLe
  · split <;> exact hLe

/- Read the parts of a value up to the first without a `#`. -/
def readParts
    (macros : MacroTable)
    (s : Scanner) : Scanned Text :=
  match _hPart : s.readPart macros with
  | (.error e, s₁) => (.error e, s₁)
  | (.ok part, s₁) =>
      match _hNext : s₁.nextToken [.hash] with
      | (.error e, s₂) => (.error e, s₂)
      | (.ok none, s₂) => (.ok part, s₂)
      | (.ok (some _), s₂) =>
          match readParts macros s₂ with
          | (.error e, s₃) => (.error e, s₃)
          | (.ok more, s₃) => (.ok (part ++ more), s₃)
termination_by s.rest.length
decreasing_by
  have hLe := length_rest_readPart macros s
  rw [_hPart] at hLe
  exact Nat.lt_of_lt_of_le
    ((length_rest_nextToken _hNext).2 _ rfl) hLe

/- Read a value and normalize its white space. -/
def readValue
    (macros : MacroTable)
    (s : Scanner) : Scanned Text :=
  (s.readParts macros).andThen
    fun text s => (.ok text.normalizeSpace, s)

/- Reading parts does not add to the rest. -/
theorem length_rest_readParts
    (macros : MacroTable)
    (s : Scanner) :
    (s.readParts macros).2.rest.length ≤ s.rest.length := by
  fun_induction readParts macros s with
  | case1 s e s' hPart =>
      have hLe := length_rest_readPart macros s
      rw [hPart] at hLe
      exact hLe
  | case2 s part s₁ hPart e s₂ hNext =>
      have hLe := length_rest_readPart macros s
      rw [hPart] at hLe
      exact Nat.le_trans (length_rest_nextToken hNext).1 hLe
  | case3 s part s₁ hPart s₂ hNext =>
      have hLe := length_rest_readPart macros s
      rw [hPart] at hLe
      exact Nat.le_trans (length_rest_nextToken hNext).1 hLe
  | case4 s part s₁ hPart t s₂ hNext e s₃ hMore ih =>
      have hLe := length_rest_readPart macros s
      rw [hPart] at hLe
      rw [hMore] at ih
      exact Nat.le_trans ih
        (Nat.le_trans (length_rest_nextToken hNext).1 hLe)
  | case5 s part s₁ hPart t s₂ hNext more s₃ hMore ih =>
      have hLe := length_rest_readPart macros s
      rw [hPart] at hLe
      rw [hMore] at ih
      exact Nat.le_trans ih
        (Nat.le_trans (length_rest_nextToken hNext).1 hLe)

/- Reading a value does not add to the rest. -/
theorem length_rest_readValue
    (macros : MacroTable)
    (s : Scanner) :
    (s.readValue macros).2.rest.length ≤ s.rest.length := by
  have hLe := length_rest_readParts macros s
  refine length_rest_andThen hLe ?_
  intro text s' hParts
  rw [hParts] at hLe
  exact hLe

end Scanner

end Bibliography
