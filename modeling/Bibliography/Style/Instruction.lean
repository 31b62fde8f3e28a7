import Bibliography.Text.Basic

/-
  The instructions of style programs.

  A program is postfix: literals, quoted names and blocks push a
  value, and a name is called.

  Key definitions include:
    * `Instruction`
    * `Instruction.render`
    * `Instruction.renderAll`
-/

------------------------------------------------------------
-- Instructions
------------------------------------------------------------

namespace Bibliography

/- One instruction; a block holds instructions. -/
inductive Instruction where
  | string (text : Text)
  | integer (n : Int64)
  | quoted (name : Text)
  | block (body : List Instruction)
  | call (name : Text)

instance : Inhabited Instruction :=
  ⟨.block []⟩

namespace Instruction

mutual

/- Whether two instructions are equal. -/
def decEq :
    (a b : Instruction) → Decidable (a = b)
  | .string s, .string t =>
      decidable_of_iff (s = t) (by simp)
  | .integer m, .integer n =>
      decidable_of_iff (m = n) (by simp)
  | .quoted m, .quoted n =>
      decidable_of_iff (m = n) (by simp)
  | .call m, .call n =>
      decidable_of_iff (m = n) (by simp)
  | .block as, .block bs =>
      have := decEqAll as bs
      decidable_of_iff (as = bs) (by simp)
  | .string _, .integer _ => isFalse (by simp)
  | .string _, .quoted _ => isFalse (by simp)
  | .string _, .block _ => isFalse (by simp)
  | .string _, .call _ => isFalse (by simp)
  | .integer _, .string _ => isFalse (by simp)
  | .integer _, .quoted _ => isFalse (by simp)
  | .integer _, .block _ => isFalse (by simp)
  | .integer _, .call _ => isFalse (by simp)
  | .quoted _, .string _ => isFalse (by simp)
  | .quoted _, .integer _ => isFalse (by simp)
  | .quoted _, .block _ => isFalse (by simp)
  | .quoted _, .call _ => isFalse (by simp)
  | .block _, .string _ => isFalse (by simp)
  | .block _, .integer _ => isFalse (by simp)
  | .block _, .quoted _ => isFalse (by simp)
  | .block _, .call _ => isFalse (by simp)
  | .call _, .string _ => isFalse (by simp)
  | .call _, .integer _ => isFalse (by simp)
  | .call _, .quoted _ => isFalse (by simp)
  | .call _, .block _ => isFalse (by simp)

/- Whether two lists of instructions are equal. -/
def decEqAll :
    (as bs : List Instruction) → Decidable (as = bs)
  | [], [] => isTrue rfl
  | [], _ :: _ => isFalse (by simp)
  | _ :: _, [] => isFalse (by simp)
  | a :: as, b :: bs =>
      have := decEq a b
      have := decEqAll as bs
      decidable_of_iff (a = b ∧ as = bs) (by simp)

end

instance : DecidableEq Instruction :=
  decEq

------------------------------------------------------------
-- Text of Instructions
------------------------------------------------------------

mutual

/- The source text of an instruction. -/
def render : Instruction → Text
  | .string text => '"' :: text ++ ['"']
  | .integer n => '#' :: (toString n.toInt).toList
  | .quoted name => '\x27' :: name
  | .block body => '{' :: renderBody body ++ [' ', '}']
  | .call name => name

/- The source text of a body, a blank before each instruction. -/
def renderBody : List Instruction → Text
  | [] => []
  | i :: rest => ' ' :: render i ++ renderBody rest

end

/- The source text of code, blanks between the instructions. -/
def renderAll (code : List Instruction) : Text :=
  Text.unwords (code.map render)

end Instruction

end Bibliography
