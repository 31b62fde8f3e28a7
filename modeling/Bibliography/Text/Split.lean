import Bibliography.Text.Basic

/-
  Splitting text outside of braces.

  A separator counts only where the brace depth is zero, so a
  braced group is never divided.

  Key definitions include:
    * `Text.cut?`
    * `Text.splitOutside`
    * `Text.splitNames`
    * `Text.words`
    * `Text.isLowercaseWord`
-/

------------------------------------------------------------
-- Separators
------------------------------------------------------------

namespace Bibliography

namespace Text

/-
  Whether the text begins with the separator, ASCII letters
  being compared without regard to case.
-/
def beginsWith : Text → Text → Bool
  | [], _ => true
  | _ :: _, [] => false
  | s :: separator, c :: rest =>
      Character.lowerAscii s == Character.lowerAscii c &&
        beginsWith separator rest

/-
  The text before and after the first separator at depth zero,
  read from brace depth `depth`.
-/
def cut? (separator : Text) : Nat → Text → Option (Text × Text)
  | _, [] => none
  | depth, c :: rest =>
      if depth = 0 ∧ isBrace c = false ∧
          beginsWith separator (c :: rest) = true then
        some ([], (c :: rest).drop separator.length)
      else
        match cut? separator (nest depth c) rest with
        | none => none
        | some (piece, after) => some (c :: piece, after)

/- What follows a cut is shorter than the text. -/
theorem cut?_length_lt
    {separator : Text}
    (hNonempty : separator ≠ [])
    {depth : Nat}
    {t piece after : Text}
    (h : cut? separator depth t = some (piece, after)) :
    after.length < t.length := by
  induction t generalizing depth piece after with
  | nil => simp [cut?] at h
  | cons c rest ih =>
      rw [cut?] at h
      split at h
      · have hPos : 0 < separator.length :=
          List.length_pos_iff.2 hNonempty
        cases h
        simp only [List.length_drop, List.length_cons]
        omega
      · cases hCut : cut? separator (nest depth c) rest with
        | none => simp [hCut] at h
        | some found =>
            obtain ⟨piece', after'⟩ := found
            simp only [hCut, Option.some.injEq,
              Prod.mk.injEq] at h
            have hShorter := ih hCut
            obtain ⟨_, rfl⟩ := h
            simp only [List.length_cons]
            omega

/-
  The pieces between the separators at depth zero.  The empty
  separator divides nothing.
-/
def splitOutside
    (separator : Text)
    (t : Text) : List Text :=
  if _hNonempty : separator ≠ [] then
    match _hCut : cut? separator 0 t with
    | none => [t]
    | some (piece, after) =>
        piece :: splitOutside separator after
  else [t]
termination_by t.length
decreasing_by exact cut?_length_lt _hNonempty _hCut

/- The names of a list joined by the word "and". -/
def splitNames (t : Text) : List Text :=
  if t.trim.isEmpty then []
  else (splitOutside (ofString " and ") t).map trim

------------------------------------------------------------
-- Words
------------------------------------------------------------

/- White space and ties separate words. -/
def separatesWords (c : Char) : Bool :=
  Character.isSpace c || c == '~'

/-
  The words of the rest of a text, read at brace depth `depth`
  with a word under way, whose characters are, last first, `word`.
-/
def wordsFrom : Nat → Text → Text → List Text
  | _, word, [] => if word.isEmpty then [] else [word.reverse]
  | depth, word, c :: rest =>
      if depth = 0 ∧ separatesWords c = true then
        if word.isEmpty then wordsFrom 0 [] rest
        else word.reverse :: wordsFrom 0 [] rest
      else wordsFrom (nest depth c) (c :: word) rest

/- The words between separators at depth zero. -/
def words (t : Text) : List Text :=
  wordsFrom 0 [] t

/-
  Whether the letters outside of braces are all lower case, from
  depth `depth`; `seen` tells whether there was one already.
-/
def lowercaseFrom : Nat → Bool → Text → Bool
  | _, seen, [] => seen
  | depth, seen, c :: rest =>
      if depth = 0 ∧ Character.isAlphabetic c = true then
        Character.isLowercase c && lowercaseFrom 0 true rest
      else lowercaseFrom (nest depth c) seen rest

/-
  Whether a word has a letter outside of braces, and every such
  letter is lower case.
-/
def isLowercaseWord (t : Text) : Bool :=
  lowercaseFrom 0 false t

end Text

end Bibliography
