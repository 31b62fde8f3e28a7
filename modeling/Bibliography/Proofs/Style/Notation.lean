import Bibliography.Proofs.Text.Numeral
import Bibliography.Proofs.Unicode.LowerCase

/-
  How instructions are written.

  The notation is given as a relation between instructions and
  texts, each with the text that follows it.  What follows matters
  in two places: a comment has to reach the end of its line, and an
  integer or a name has to be told from the name characters behind
  it.

  Key definitions include:
    * `Text.Layout`
    * `Instruction.Writes`
    * `Instruction.Renders`

  Key statements include:
    * `Instruction.isName_lower`
    * `Instruction.Writes.render`
    * `Instruction.Renders.renderBody`
-/

------------------------------------------------------------
-- Layout
------------------------------------------------------------

namespace Bibliography

namespace Text

/- An empty text, or one that begins with a line break. -/
def EndsLine (t : Text) : Prop :=
  ∀ c ∈ t.head?, c = '\n'

/-
  White space and comments, in any order, before `rest`.  A comment
  goes up to a line break, or to the end of everything.
-/
inductive Layout (rest : Text) : Text → Prop
  | nil : Layout rest []
  | space
      {c : Char}
      {t : Text}
      (hSpace : Character.isSpace c = true)
      (hMore : Layout rest t) :
      Layout rest (c :: t)
  | comment
      {body t : Text}
      (hBody : '\n' ∉ body)
      (hEnd : EndsLine (t ++ rest))
      (hMore : Layout rest t) :
      Layout rest ('%' :: body ++ t)

end Text

------------------------------------------------------------
-- Names
------------------------------------------------------------

namespace Instruction

/- A run of name characters that is not empty. -/
structure IsName (name : Text) : Prop where
  nonempty : name ≠ []
  chars : ∀ c ∈ name, isNameChar c = true

/- A text behind which no name goes on. -/
def EndsName (rest : Text) : Prop :=
  ∀ c ∈ rest.head?, isNameChar c = false

/- A name that can be called: it begins like no other item. -/
structure IsCall (name : Text) : Prop extends IsName name where
  first : ∀ c ∈ name.head?, c ≠ '#' ∧ c ≠ '\x27'

------------------------------------------------------------
-- Instructions
------------------------------------------------------------

/-
  The texts of an instruction that is not a block, before `rest`.
  Names are written in any case.
-/
inductive Writes (rest : Text) : Instruction → Text → Prop
  | string
      {text : Text}
      (hText : '"' ∉ text) :
      Writes rest (.string text) ('"' :: text ++ ['"'])
  | integer
      {n : Int64}
      {literal : Text}
      (hLiteral : literal.Spells n.toInt)
      (hEnd : EndsName rest) :
      Writes rest (.integer n) ('#' :: literal)
  | quoted
      {name : Text}
      (hName : IsName name)
      (hEnd : EndsName rest) :
      Writes rest (.quoted name.lower) ('\x27' :: name)
  | call
      {name : Text}
      (hName : IsCall name)
      (hEnd : EndsName rest) :
      Writes rest (.call name.lower) name

/- The texts of a list of instructions, before `rest`. -/
inductive Renders : Text → List Instruction → Text → Prop
  | done
      {rest layout : Text}
      (hLayout : Text.Layout rest layout) :
      Renders rest [] layout
  | leaf
      {rest layout item more : Text}
      {i : Instruction}
      {code : List Instruction}
      (hLayout : Text.Layout (item ++ (more ++ rest)) layout)
      (hItem : Writes (more ++ rest) i item)
      (hMore : Renders rest code more) :
      Renders rest (i :: code) (layout ++ (item ++ more))
  | block
      {rest layout inner more : Text}
      {body code : List Instruction}
      (hLayout :
        Text.Layout ('{' :: inner ++ '}' :: (more ++ rest)) layout)
      (hBody : Renders ('}' :: (more ++ rest)) body inner)
      (hMore : Renders rest code more) :
      Renders rest (.block body :: code)
        (layout ++ ('{' :: inner ++ '}' :: more))

------------------------------------------------------------
-- Names in Lower Case
------------------------------------------------------------

/- Code points that end a name, or that no call begins with. -/
def reserved : List Nat :=
  List.range' 0x9 5 ++ List.range' 0x2000 11 ++
    [0x20, 0x85, 0xA0, 0x1680, 0x2028, 0x2029, 0x202F, 0x205F,
      0x3000] ++
    ['{', '}', '"', '%', '#', '\x27'].map Char.toNat

theorem mem_reserved_of_isSpace
    {c : Char}
    (h : Character.isSpace c = true) : c.toNat ∈ reserved := by
  simp only [Character.isSpace, Bool.or_eq_true, Bool.and_eq_true,
    decide_eq_true_eq, beq_iff_eq] at h
  simp only [reserved, List.mem_append, List.mem_range'_1,
    List.mem_cons]
  omega

theorem mem_reserved_of_mem
    {c : Char}
    (h : c ∈ ['{', '}', '"', '%', '#', '\x27']) :
    c.toNat ∈ reserved :=
  List.mem_append_right _ (List.mem_map_of_mem h)

theorem isNameChar_of_not_mem_reserved
    {c : Char}
    (h : c.toNat ∉ reserved) : isNameChar c = true := by
  have hNot : ∀ d ∈ ['{', '}', '"', '%'], c ≠ d := by
    rintro d hMem rfl
    exact h (mem_reserved_of_mem
      (List.mem_append_left ['#', '\x27'] hMem))
  have hSpace : Character.isSpace c = false := by
    rw [← Bool.not_eq_true]
    exact fun hSpace => h (mem_reserved_of_isSpace hSpace)
  rw [isNameChar, hSpace]
  simp [hNot]

/- Lower case makes no character with a meaning of its own. -/
theorem not_mem_reserved_of_mem_lowerImages
    {n : Nat}
    (h : n ∈ Character.lowerImages) : n ∉ reserved :=
  not_mem_of_bitsOf (by decide +kernel) h

/- So the lower case of a name is a name. -/
theorem isName_lower
    {name : Text}
    (h : IsName name) : IsName name.lower where
  nonempty := by
    cases name with
    | nil => exact absurd rfl h.nonempty
    | cons c rest =>
        rcases Text.exists_lower_cons c rest with ⟨d, more, hLower, _⟩
        rw [hLower]
        exact List.cons_ne_nil _ _
  chars := by
    intro c hMem
    rcases Text.mem_lower hMem with ⟨hIn, _⟩ | hImage
    · exact h.chars c hIn
    · exact isNameChar_of_not_mem_reserved
        (not_mem_reserved_of_mem_lowerImages hImage)

/- And it is a call, if the name is one. -/
theorem isCall_lower
    {name : Text}
    (h : IsCall name) : IsCall name.lower where
  toIsName := isName_lower h.toIsName
  first := by
    intro d hHead
    cases name with
    | nil => exact absurd rfl h.nonempty
    | cons c rest =>
        rcases Text.exists_lower_cons c rest with
          ⟨_, more, hLower, hFirst⟩
        rw [hLower] at hHead
        cases hHead
        rcases hFirst with rfl | hImage
        · exact h.first d rfl
        · have hNot := not_mem_reserved_of_mem_lowerImages hImage
          constructor
          · rintro rfl
            exact hNot (mem_reserved_of_mem (by decide))
          · rintro rfl
            exact hNot (mem_reserved_of_mem (by decide))

------------------------------------------------------------
-- The Text of Instructions
------------------------------------------------------------

/- An instruction that can be written is written by its text. -/
theorem Writes.render
    {rest rest' item : Text}
    {i : Instruction}
    (h : Writes rest i item)
    (hEnd : EndsName rest') : Writes rest' i i.render := by
  cases h with
  | string hText => exact .string hText
  | integer _ _ => exact .integer (Text.spells_toString _) hEnd
  | quoted hName _ =>
      have hWrites := Writes.quoted (isName_lower hName) hEnd
      rw [Text.lower_lower] at hWrites
      exact hWrites
  | call hName _ =>
      have hWrites := Writes.call (isCall_lower hName) hEnd
      rw [Text.lower_lower] at hWrites
      exact hWrites

theorem layout_blank (rest : Text) : Text.Layout rest [' '] :=
  .space (by decide) .nil

/- No name goes on behind a blank, nor behind nothing. -/
theorem endsName_renderBody
    (code : List Instruction)
    {rest : Text}
    (h : EndsName rest) : EndsName (renderBody code ++ rest) := by
  cases code with
  | nil => exact h
  | cons i more =>
      intro c hHead
      rw [renderBody, List.cons_append, List.cons_append] at hHead
      cases hHead
      decide

/-
  The text of instructions that can be written is one of their
  renderings, whatever layout comes behind it.
-/
theorem Renders.renderBody
    {rest rest' t tail : Text}
    {code : List Instruction}
    (h : Renders rest code t)
    (hLayout : Text.Layout rest' tail)
    (hEnd : EndsName (tail ++ rest')) :
    Renders rest' code (Instruction.renderBody code ++ tail) := by
  induction h generalizing rest' tail with
  | done _ => exact .done hLayout
  | @leaf _ _ _ _ i code _ hItem _ ih =>
      have hMore := ih hLayout hEnd
      have hBehind : EndsName
          ((Instruction.renderBody code ++ tail) ++ rest') := by
        rw [List.append_assoc]
        exact endsName_renderBody code hEnd
      have hRenders :=
        Renders.leaf (layout_blank _) (hItem.render hBehind) hMore
      simpa [Instruction.renderBody] using hRenders
  | @block _ _ _ _ body code _ _ _ ihBody ihMore =>
      have hMore := ihMore hLayout hEnd
      have hBody :
          Renders
            ('}' :: ((Instruction.renderBody code ++ tail) ++ rest'))
            body (Instruction.renderBody body ++ [' ']) :=
        ihBody (layout_blank _) (by rintro c ⟨⟩; decide)
      have hRenders := Renders.block (layout_blank _) hBody hMore
      simpa [Instruction.renderBody, Instruction.render]
        using hRenders

end Instruction

end Bibliography
