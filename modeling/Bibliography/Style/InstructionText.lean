import Bibliography.Error
import Bibliography.Style.Instruction

/-
  Reading instructions from their source text.

  Items are separated by white space and by comments, which run
  from a percent sign to the end of the line.  Blocks nest; while
  the text is read, the blocks still open are kept on a stack.

  Key definitions include:
    * `Text.parseInteger?`
    * `Text.skipLayout`
    * `Instruction.nextItem`
    * `Instruction.parse`
-/

------------------------------------------------------------
-- Integers
------------------------------------------------------------

namespace Bibliography

namespace Text

/- The number that decimal digits write, after `n` so far. -/
def digitsFrom (n : Nat) : Text → Option Nat
  | [] => some n
  | c :: rest =>
      if c.isDigit then
        digitsFrom (10 * n + (c.toNat - '0'.toNat)) rest
      else none

/- The number that a non-empty run of digits writes. -/
def parseNat? (t : Text) : Option Nat :=
  if t.isEmpty then none else digitsFrom 0 t

/- The integer that digits with an optional sign write. -/
def parseInt? : Text → Option Int
  | '+' :: digits => (parseNat? digits).map (fun n => (n : Int))
  | '-' :: digits => (parseNat? digits).map (fun n => -(n : Int))
  | digits => (parseNat? digits).map (fun n => (n : Int))

/- The same, if the integer fits into 64 bits. -/
def parseInteger? (t : Text) : Option Int64 :=
  match parseInt? t with
  | none => none
  | some n =>
      if Int64.minValue.toInt ≤ n ∧ n ≤ Int64.maxValue.toInt then
        some (Int64.ofInt n)
      else none

------------------------------------------------------------
-- Layout and Names
------------------------------------------------------------

/-
  The text after white space and comments; `inComment` tells
  whether a comment is under way.
-/
def skipLayoutFrom : Bool → Text → Text
  | _, [] => []
  | true, c :: rest => skipLayoutFrom (c != '\n') rest
  | false, c :: rest =>
      if Character.isSpace c then skipLayoutFrom false rest
      else if c = '%' then skipLayoutFrom true rest
      else c :: rest

/- The text after white space and comments. -/
def skipLayout (t : Text) : Text :=
  skipLayoutFrom false t

/- What is left is no longer than the text. -/
theorem skipLayoutFrom_length_le
    (inComment : Bool)
    (t : Text) :
    (skipLayoutFrom inComment t).length ≤ t.length := by
  induction t generalizing inComment with
  | nil => simp [skipLayoutFrom]
  | cons c rest ih =>
      cases inComment with
      | true =>
          have h := ih (c != '\n')
          rw [skipLayoutFrom, List.length_cons]
          omega
      | false =>
          rw [skipLayoutFrom]
          split
          · have h := ih false
            rw [List.length_cons]
            omega
          · split
            · have h := ih true
              rw [List.length_cons]
              omega
            · exact Nat.le_refl _

end Text

namespace Instruction

/- Characters of names and of integer literals. -/
def isNameChar (c : Char) : Bool :=
  !Character.isSpace c && c != '{' && c != '}' && c != '"' &&
    c != '%'

------------------------------------------------------------
-- Items
------------------------------------------------------------

/-
  What can be wrong with the text, and the rest of the text from
  the place of the fault on.
-/
inductive Fault where
  | expected (what : Text) (rest : Text)
  | unclosed (rest : Text)
  | unopened (rest : Text)
  deriving DecidableEq

namespace Fault

/- The place in a source where only `rest` is left. -/
def place
    (source rest : Text) : Location :=
  Location.locate source (source.byteLength - rest.byteLength)

/- The fault as an error in a source text. -/
def toError
    (source : Text) : Fault → Error
  | .expected what rest =>
      .of (.tokenRequired what (place source rest))
  | .unclosed rest => .of (.prematureEnd (place source rest))
  | .unopened rest => .of (.unbalancedBrace (place source rest))

end Fault

/- An item of the text: a brace, or a whole instruction. -/
inductive Item where
  | opener
  | closer
  | leaf (i : Instruction)
  deriving DecidableEq

/-
  The item that a text begins with, and the text after it.  The
  text is not empty and does not begin with layout.
-/
def nextItem
    (c : Char)
    (rest : Text) : Except Fault (Item × Text) :=
  if c = '{' then .ok (.opener, rest)
  else if c = '}' then .ok (.closer, rest)
  else if c = '"' then
    match rest.dropWhile (fun d => d != '"') with
    | [] => .error (.unclosed (c :: rest))
    | _ :: after =>
        .ok (.leaf (.string (rest.takeWhile (fun d => d != '"'))),
          after)
  else if c = '#' then
    match Text.parseInteger? (rest.takeWhile isNameChar) with
    | none => .error (.expected "integer after #".toList rest)
    | some n =>
        .ok (.leaf (.integer n), rest.dropWhile isNameChar)
  else if c = '\x27' then
    if (rest.takeWhile isNameChar).isEmpty then
      .error (.expected "name after \x27".toList rest)
    else
      .ok
        (.leaf (.quoted (Text.lower (rest.takeWhile isNameChar))),
          rest.dropWhile isNameChar)
  else
    .ok
      (.leaf
        (.call (Text.lower (c :: rest.takeWhile isNameChar))),
        rest.dropWhile isNameChar)

/- What follows an item is no longer than the text. -/
theorem nextItem_length_le
    {c : Char}
    {rest : Text}
    {item : Item}
    {after : Text}
    (h : nextItem c rest = .ok (item, after)) :
    after.length ≤ rest.length := by
  have hName :=
    (List.dropWhile_sublist (l := rest) isNameChar).length_le
  have hString :=
    (List.dropWhile_sublist (l := rest)
      (fun d => d != '"')).length_le
  rw [nextItem] at h
  split at h
  · cases h
    exact Nat.le_refl _
  · split at h
    · cases h
      exact Nat.le_refl _
    · split at h
      · split at h
        · cases h
        · rename_i hDrop
          cases h
          rw [hDrop, List.length_cons] at hString
          omega
      · split at h
        · split at h
          · cases h
          · cases h
            exact hName
        · split at h
          · split at h
            · cases h
            · cases h
              exact hName
          · cases h
            exact hName

------------------------------------------------------------
-- Blocks
------------------------------------------------------------

/-
  A block that is still open: the text from its brace on, and the
  instructions before it on its own level.
-/
structure OpenBlock where
  rest : Text
  before : List Instruction

/-
  Read the rest of a text.  The innermost block holds `code` so
  far; the blocks around it are on the stack.
-/
def readFrom
    (stack : List OpenBlock)
    (code : List Instruction)
    (t : Text) : Except Fault (List Instruction) :=
  match _hSkip : t.skipLayout with
  | [] =>
      match stack with
      | [] => .ok code
      | innermost :: _ => .error (.unclosed innermost.rest)
  | c :: rest =>
      match _hItem : nextItem c rest with
      | .error fault => .error fault
      | .ok (.opener, after) =>
          readFrom (⟨c :: rest, code⟩ :: stack) [] after
      | .ok (.closer, after) =>
          match stack with
          | [] => .error (.unopened (c :: rest))
          | innermost :: outer =>
              readFrom outer (innermost.before ++ [.block code])
                after
      | .ok (.leaf i, after) =>
          readFrom stack (code ++ [i]) after
termination_by t.length
decreasing_by
  all_goals
    have hItem := nextItem_length_le _hItem
    have hSkip := Text.skipLayoutFrom_length_le false t
    rw [← Text.skipLayout, _hSkip, List.length_cons] at hSkip
    omega

/- Read instructions from their source text. -/
def parse (source : Text) : Except Error (List Instruction) :=
  (readFrom [] [] source).mapError (Fault.toError source)

end Instruction

end Bibliography
