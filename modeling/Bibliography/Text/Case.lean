import Bibliography.Text.Basic

/-
  Case changes that leave braced text alone.

  Key definitions include:
    * `CaseMode`
    * `CaseMode.parse?`
    * `Text.changeCase`
-/

------------------------------------------------------------
-- Modes
------------------------------------------------------------

namespace Bibliography

/-
  Title mode lowers all but the first character and the one after
  a colon and white space.
-/
inductive CaseMode where
  | title
  | lower
  | upper
  deriving DecidableEq

namespace CaseMode

/- The mode that a letter names. -/
def parse? (mode : Text) : Option CaseMode :=
  if mode = ['t'] ∨ mode = ['T'] then some .title
  else if mode = ['l'] ∨ mode = ['L'] then some .lower
  else if mode = ['u'] ∨ mode = ['U'] then some .upper
  else none

end CaseMode

------------------------------------------------------------
-- Case Changes
------------------------------------------------------------

namespace Text

/- Map the characters outside of braces, from depth `depth`. -/
def mapOutside
    (f : Char → List Char) : Nat → Text → Text
  | _, [] => []
  | depth, c :: rest =>
      if depth = 0 ∧ isBrace c = false then
        f c ++ mapOutside f 0 rest
      else c :: mapOutside f (nest depth c) rest

/-
  Title case of the rest of a text, from depth `depth`.  `keep`
  tells whether the next character outside of braces stays;
  `afterColon` whether a colon and perhaps white space came last.
-/
def titleFrom : Nat → Bool → Bool → Text → Text
  | _, _, _, [] => []
  | depth, keep, afterColon, c :: rest =>
      let colon :=
        c == ':' || (afterColon && Character.isSpace c)
      if depth = 0 ∧ isBrace c = false then
        if Character.isSpace c then
          c :: titleFrom 0 (keep || afterColon) colon rest
        else if keep then c :: titleFrom 0 false colon rest
        else Character.lower c ++ titleFrom 0 false colon rest
      else
        c :: titleFrom (nest depth c)
          (keep && c != '{') colon rest

/- Change the case outside of braces. -/
def changeCase
    (mode : CaseMode)
    (t : Text) : Text :=
  match mode with
  | .lower => mapOutside Character.lower 0 t
  | .upper => mapOutside Character.upper 0 t
  | .title => titleFrom 0 true false t

end Text

end Bibliography
