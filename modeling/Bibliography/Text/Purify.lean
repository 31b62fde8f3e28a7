import Bibliography.Text.Basic

/-
  Reducing text to what a sort key may hold.

  Key definitions include:
    * `Text.purify`
-/

------------------------------------------------------------
-- Purification
------------------------------------------------------------

namespace Bibliography

namespace Text

/-
  Keep letters, numbers and white space; turn hyphens and ties
  into blanks.  A backslash goes, and with it the character after
  it unless that is a letter.
-/
def purify : Text → Text
  | [] => []
  | ['\\'] => []
  | '\\' :: next :: rest =>
      if Character.isAlphabetic next then purify (next :: rest)
      else purify rest
  | c :: rest =>
      if c = '-' ∨ c = '~' then ' ' :: purify rest
      else if Character.isAlphanumeric c ||
          Character.isSpace c then c :: purify rest
      else purify rest

end Text

end Bibliography
