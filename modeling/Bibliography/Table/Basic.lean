import Bibliography.Entry

/-
  The table of entries by citation key.

  Keys are compared without regard to case, and every key keeps
  the spelling in which it came.  Entries stand in the order in
  which they were inserted.

  Key definitions include:
    * `Attempt`
    * `Table`
    * `Table.find?`
    * `Table.tryInsert`
    * `Table.insert`
    * `Table.update`
    * `Table.SameContent`
-/

------------------------------------------------------------
-- Attempts
------------------------------------------------------------

namespace Bibliography

/- Whether a change has succeeded, and what there is after it. -/
abbrev Attempt (σ : Type) :=
  Except Error Unit × σ

namespace Attempt

variable {σ : Type}

/- The error of a change that has failed. -/
def errors : Attempt σ → List Error
  | (.ok (), _) => []
  | (.error e, _) => [e]

/- What there is after a change that has succeeded. -/
def result : Attempt σ → Except Error σ
  | (.ok (), after) => .ok after
  | (.error e, _) => .error e

end Attempt

------------------------------------------------------------
-- Tables
------------------------------------------------------------

/- Entries under their keys, and the preamble in fragments. -/
structure Table where
  entries : List (Text × Entry)
  preamble : List Text
  deriving DecidableEq

namespace Table

/- The table without entries. -/
def empty : Table :=
  ⟨[], []⟩

instance : Inhabited Table :=
  ⟨empty⟩

/- Whether two keys differ in case at most. -/
def sameKey (a b : Text) : Bool :=
  a.lower == b.lower

/-
  The item under a key.  Where several keys differ in case only,
  it is the last of them.
-/
def find?
    (t : Table)
    (key : Text) : Option (Text × Entry) :=
  t.entries.findRev? (fun item => sameKey item.1 key)

/- The entry under a key. -/
def get?
    (t : Table)
    (key : Text) : Option Entry :=
  (t.find? key).map (fun item => item.2)

/- Whether a key has an entry. -/
def contains
    (t : Table)
    (key : Text) : Bool :=
  (t.find? key).isSome

/- The spelling under which the table holds a key. -/
def canonicalKey?
    (t : Table)
    (key : Text) : Option Text :=
  (t.find? key).map (fun item => item.1)

/- The keys in order. -/
def keys (t : Table) : List Text :=
  t.entries.map (fun item => item.1)

/- The number of entries. -/
def size (t : Table) : Nat :=
  t.entries.length

/- Try to add an entry under a key, which must be a new one. -/
def tryInsert
    (t : Table)
    (key : Text)
    (e : Entry) : Attempt Table :=
  if t.contains key then
    (.error (.of (.duplicateKey key)), t)
  else (.ok (), { t with entries := t.entries ++ [(key, e)] })

/- The table with one more entry. -/
def insert
    (t : Table)
    (key : Text)
    (e : Entry) : Except Error Table :=
  (t.tryInsert key e).result

/- Change the value of the first item of a class. -/
def modifyFirst
    (p : Text × Entry → Bool)
    (f : Entry → Entry) :
    List (Text × Entry) → List (Text × Entry)
  | [] => []
  | item :: rest =>
      if p item then (item.1, f item.2) :: rest
      else item :: modifyFirst p f rest

/- Change the entry that `get?` finds under a key. -/
def update
    (t : Table)
    (key : Text)
    (f : Entry → Entry) : Table :=
  { t with
    entries :=
      (modifyFirst (fun item => sameKey item.1 key) f
        t.entries.reverse).reverse }

/- Add a fragment at the end of the preamble. -/
def addPreamble
    (t : Table)
    (fragment : Text) : Table :=
  { t with preamble := t.preamble ++ [fragment] }

/- The whole preamble. -/
def preambleText (t : Table) : Text :=
  t.preamble.flatten

/- Equality of two items, numbers and labels aside. -/
def SameItem (a b : Text × Entry) : Prop :=
  a.1 = b.1 ∧ a.2.SameContent b.2

instance (a b : Text × Entry) : Decidable (SameItem a b) :=
  inferInstanceAs (Decidable (_ ∧ _))

/- Equality of two lists of items, item by item. -/
def SameItems :
    List (Text × Entry) → List (Text × Entry) → Prop
  | [], [] => True
  | a :: as, b :: bs => SameItem a b ∧ SameItems as bs
  | _, _ => False

instance decidableSameItems :
    (as bs : List (Text × Entry)) → Decidable (SameItems as bs)
  | [], [] => isTrue trivial
  | [], _ :: _ => isFalse id
  | _ :: _, [] => isFalse id
  | a :: as, b :: bs =>
      have := decidableSameItems as bs
      inferInstanceAs (Decidable (SameItem a b ∧ SameItems as bs))

/- Equality of tables, numbers and labels aside. -/
def SameContent (t u : Table) : Prop :=
  SameItems t.entries u.entries ∧ t.preamble = u.preamble

instance (t u : Table) : Decidable (t.SameContent u) :=
  inferInstanceAs (Decidable (_ ∧ _))

end Table

end Bibliography
