import Bibliography.Unicode.Alphabetic
import Bibliography.Unicode.CaseIgnorable
import Bibliography.Unicode.Cased
import Bibliography.Unicode.LowerMapping
import Bibliography.Unicode.Lowercase
import Bibliography.Unicode.Numeric
import Bibliography.Unicode.UpperMapping

/-
  The classes and case maps of single characters.

  ASCII characters are decided directly; the tables are asked
  for the others only.

  Key definitions include:
    * `Character.isSpace`
    * `Character.isAlphabetic`
    * `Character.isLowercase`
    * `Character.isAlphanumeric`
    * `Character.lower`
    * `Character.upper`
    * `Character.lowerAscii`
-/

------------------------------------------------------------
-- Classes
------------------------------------------------------------

namespace Bibliography

namespace Character

/- The property White_Space. -/
def isSpace (c : Char) : Bool :=
  let n := c.toNat
  (0x9 ≤ n && n ≤ 0xD) || n == 0x20 || n == 0x85 ||
    n == 0xA0 || n == 0x1680 ||
    (0x2000 ≤ n && n ≤ 0x200A) || n == 0x2028 ||
    n == 0x2029 || n == 0x202F || n == 0x205F ||
    n == 0x3000

/- The ASCII characters. -/
def isAscii (c : Char) : Bool :=
  c.toNat < 0x80

/- The property Alphabetic. -/
def isAlphabetic (c : Char) : Bool :=
  if isAscii c then c.isAlpha
  else CodePointSet.alphabetic.contains c

/- The property Lowercase. -/
def isLowercase (c : Char) : Bool :=
  if isAscii c then c.isLower
  else CodePointSet.lowercase.contains c

/- Digits and other numbers. -/
def isNumeric (c : Char) : Bool :=
  if isAscii c then c.isDigit
  else CodePointSet.numeric.contains c

/- Letters and numbers. -/
def isAlphanumeric (c : Char) : Bool :=
  isAlphabetic c || isNumeric c

/- The property Cased. -/
def isCased (c : Char) : Bool :=
  CodePointSet.cased.contains c

/- The property Case_Ignorable. -/
def isCaseIgnorable (c : Char) : Bool :=
  CodePointSet.caseIgnorable.contains c

------------------------------------------------------------
-- Case Maps
------------------------------------------------------------

/- The lower-case form of one ASCII letter. -/
def lowerAscii (c : Char) : Char :=
  if 'A' ≤ c ∧ c ≤ 'Z' then Char.ofNat (c.toNat + 32) else c

/- The lower-case form, whatever the neighbours are. -/
def lower (c : Char) : List Char :=
  if isAscii c then [lowerAscii c]
  else CaseMapping.lower.apply c

/- The upper-case form of one ASCII letter. -/
def upperAscii (c : Char) : Char :=
  if 'a' ≤ c ∧ c ≤ 'z' then Char.ofNat (c.toNat - 32) else c

/- The upper-case form, whatever the neighbours are. -/
def upper (c : Char) : List Char :=
  if isAscii c then [upperAscii c]
  else CaseMapping.upper.apply c

end Character

end Bibliography
