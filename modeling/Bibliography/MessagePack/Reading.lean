import Bibliography.MessagePack.Writing
import Bibliography.SortedMap

/-
  Reading MessagePack.

  A reader takes a value from the front of some bytes and returns
  the bytes after it.  Every form of a number or a length is
  accepted, not the smallest one only.  A record is a map from
  names to values, of which unknown ones are skipped, or an array
  of the values in order.

  Values that hold others may be nested to a limit.  A reader of
  such values is told how many levels are left.

  Key definitions include:
    * `MessagePack.Reader`
    * `MessagePack.ValueReader`
    * `MessagePack.nestingLimit`
    * `MessagePack.Header`
    * `MessagePack.readHeader`
    * `MessagePack.skipValues`
    * `MessagePack.readText`
    * `MessagePack.readRecord`
-/

------------------------------------------------------------
-- Headers
------------------------------------------------------------

namespace Bibliography

namespace MessagePack

/- A value and the bytes after it. -/
abbrev Reader (α : Type) :=
  Bytes → Option (α × Bytes)

/- The number that bytes write, the highest first. -/
def ofBigEndian (bs : Bytes) : Nat :=
  bs.foldl (fun n b => 256 * n + b.toNat) 0

/- The first `n` bytes. -/
def takeExactly (n : Nat) : Reader Bytes :=
  fun bs =>
    if n ≤ bs.length then some (bs.take n, bs.drop n) else none

/- A number of `width` bytes. -/
def readFixed (width : Nat) : Reader Nat :=
  fun bs =>
    (takeExactly width bs).map
      (fun taken => (ofBigEndian taken.1, taken.2))

/- What the first bytes of a value say. -/
inductive Header where
  | unsigned (n : Nat)
  | signed (n : Int)
  | nil
  | text (length : Nat)
  | binary (length : Nat)
  | array (length : Nat)
  | map (length : Nat)
  | extension (length : Nat)
  | other (length : Nat)
  deriving DecidableEq

/- A header with a number of `width` bytes. -/
def headerOf
    (width : Nat)
    (f : Nat → Header) : Reader Header :=
  fun bs =>
    (readFixed width bs).map (fun taken => (f taken.1, taken.2))

/-
  The header of a number with a sign, one of `count` numbers of
  which the second half stands for the negative ones.
-/
def signedOf
    (count : Nat)
    (n : Nat) : Header :=
  if 2 * n < count then .signed n
  else .signed ((n : Int) - (count : Int))

/- Read the header that follows a marker of its own. -/
def readMarked (marker : Nat) : Reader Header :=
  match marker with
  | 0xC0 => fun bs => some (.nil, bs)
  | 0xC2 | 0xC3 => fun bs => some (.other 0, bs)
  | 0xC4 => headerOf 1 .binary
  | 0xC5 => headerOf 2 .binary
  | 0xC6 => headerOf 4 .binary
  | 0xC7 => headerOf 1 (fun n => .extension (n + 1))
  | 0xC8 => headerOf 2 (fun n => .extension (n + 1))
  | 0xC9 => headerOf 4 (fun n => .extension (n + 1))
  | 0xCA => fun bs => some (.other 4, bs)
  | 0xCB => fun bs => some (.other 8, bs)
  | 0xCC => headerOf 1 .unsigned
  | 0xCD => headerOf 2 .unsigned
  | 0xCE => headerOf 4 .unsigned
  | 0xCF => headerOf 8 .unsigned
  | 0xD0 => headerOf 1 (signedOf 0x100)
  | 0xD1 => headerOf 2 (signedOf 0x10000)
  | 0xD2 => headerOf 4 (signedOf 0x100000000)
  | 0xD3 => headerOf 8 (signedOf 0x10000000000000000)
  | 0xD4 => fun bs => some (.extension 2, bs)
  | 0xD5 => fun bs => some (.extension 3, bs)
  | 0xD6 => fun bs => some (.extension 5, bs)
  | 0xD7 => fun bs => some (.extension 9, bs)
  | 0xD8 => fun bs => some (.extension 17, bs)
  | 0xD9 => headerOf 1 .text
  | 0xDA => headerOf 2 .text
  | 0xDB => headerOf 4 .text
  | 0xDC => headerOf 2 .array
  | 0xDD => headerOf 4 .array
  | 0xDE => headerOf 2 .map
  | 0xDF => headerOf 4 .map
  | _ => fun _ => none

/- Read the header of a value. -/
def readHeader : Reader Header
  | [] => none
  | b :: rest =>
      let n := b.toNat
      if n < 0x80 then some (.unsigned n, rest)
      else if n < 0x90 then some (.map (n - 0x80), rest)
      else if n < 0xA0 then some (.array (n - 0x90), rest)
      else if n < 0xC0 then some (.text (n - 0xA0), rest)
      else if n < 0xE0 then readMarked n rest
      else some (.signed ((n : Int) - 256), rest)

namespace Header

/- The number of bytes after the header that hold the value. -/
def payload : Header → Nat
  | .text n | .binary n | .extension n | .other n => n
  | _ => 0

/- The number of values that follow as parts of the value. -/
def parts : Header → Nat
  | .array n => n
  | .map n => 2 * n
  | _ => 0

/- Whether the value takes up a level of nesting. -/
def nests : Header → Bool
  | .array _ | .map _ | .extension _ => true
  | _ => false

end Header

------------------------------------------------------------
-- Nesting
------------------------------------------------------------

/- The number of values that may be inside one another. -/
def nestingLimit : Nat :=
  1023

/- A reader that may open so many levels. -/
abbrev ValueReader (α : Type) :=
  Nat → Reader α

/- A reader of values that hold no others. -/
def leaf
    {α : Type}
    (read : Reader α) : ValueReader α :=
  fun _ => read

/- Read what a value holds, one level deeper. -/
def inside
    {α : Type}
    (read : ValueReader α) : ValueReader α
  | 0, _ => none
  | room + 1, bs => read room bs

/-
  The bytes after a number of values of any form, in which so many
  levels may be opened.
-/
def skipValues
    (room count : Nat)
    (bs : Bytes) : Option Bytes :=
  match count with
  | 0 => some bs
  | more + 1 =>
      match readHeader bs with
      | none => none
      | some (header, rest) =>
          match takeExactly header.payload rest with
          | none => none
          | some (_, after) =>
              if header.nests then
                match room with
                | 0 => none
                | deeper + 1 =>
                    match skipValues deeper header.parts after with
                    | none => none
                    | some behind =>
                        skipValues (deeper + 1) more behind
              else skipValues room more after
termination_by (room, count)

------------------------------------------------------------
-- Values of Known Form
------------------------------------------------------------

/- A number that is not negative, in any form of a number. -/
def readNat : Reader Nat :=
  fun bs =>
    match readHeader bs with
    | some (.unsigned n, rest) => some (n, rest)
    | some (.signed n, rest) =>
        if 0 ≤ n then some (n.toNat, rest) else none
    | _ => none

/- The bytes of a text, which need not be UTF-8. -/
def readRaw : Reader Bytes :=
  fun bs =>
    match readHeader bs with
    | some (.text n, rest) => takeExactly n rest
    | some (.binary n, rest) => takeExactly n rest
    | _ => none

/- A text. -/
def readText : Reader Text :=
  fun bs =>
    match readRaw bs with
    | none => none
    | some (raw, rest) =>
        (Text.ofBytes? raw).map (fun t => (t, rest))

/- A value that may be absent. -/
def readOption
    {α : Type}
    (read : ValueReader α) : ValueReader (Option α) :=
  fun room bs =>
    match readHeader bs with
    | some (.nil, rest) => some (none, rest)
    | _ =>
        (read room bs).map (fun found => (some found.1, found.2))

/- A number of values of one form. -/
def readMany
    {α : Type}
    (read : ValueReader α) : Nat → ValueReader (List α)
  | 0, _, bs => some ([], bs)
  | more + 1, room, bs =>
      match read room bs with
      | none => none
      | some (a, rest) =>
          match readMany read more room rest with
          | none => none
          | some (as, after) => some (a :: as, after)

/-
  An array of values of one form.  Without values it may also be
  binary data of no bytes.
-/
def readArray
    {α : Type}
    (read : ValueReader α) : ValueReader (List α) :=
  fun room bs =>
    match readHeader bs with
    | some (.array n, rest) => inside (readMany read n) room rest
    | some (.binary 0, rest) => some ([], rest)
    | _ => none

/- Two values in a row. -/
def readBoth
    {α β : Type}
    (first : ValueReader α)
    (second : ValueReader β) : ValueReader (α × β) :=
  fun room bs =>
    match first room bs with
    | none => none
    | some (a, rest) =>
        (second room rest).map
          (fun found => ((a, found.1), found.2))

/- An array of two values. -/
def readPair
    {α β : Type}
    (first : ValueReader α)
    (second : ValueReader β) : ValueReader (α × β) :=
  fun room bs =>
    match readHeader bs with
    | some (.array 2, rest) =>
        inside (readBoth first second) room rest
    | _ => none

/- A map from texts; of values of one key the last counts. -/
def readMap
    {α : Type}
    (read : ValueReader α) : ValueReader (SortedMap α) :=
  fun room bs =>
    match readHeader bs with
    | some (.map n, rest) =>
        (inside (readMany (readBoth (leaf readText) read) n)
          room rest).map
            (fun found => (.ofList found.1, found.2))
    | _ => none

------------------------------------------------------------
-- Records
------------------------------------------------------------

/-
  A member of a record that is read into a draft.  Reading fails
  if the draft has the member already.
-/
structure Member (δ : Type) where
  name : String
  read : δ → ValueReader δ

namespace Member

/- The member with a reader, a place in the draft and its content. -/
def once
    {δ α : Type}
    (name : String)
    (read : ValueReader α)
    (get : δ → Option α)
    (set : δ → α → δ) : Member δ where
  name := name
  read d room bs :=
    match get d with
    | some _ => none
    | none =>
        (read room bs).map
          (fun found => (set d found.1, found.2))

end Member

/- The member that a name or an index stands for, if any. -/
def readMemberKey
    {δ : Type}
    (members : List (Member δ)) : Reader (Option (Member δ)) :=
  fun bs =>
    match readHeader bs with
    | some (.unsigned n, rest) => some (members[n]?, rest)
    | _ =>
        (readRaw bs).map
          (fun found =>
            (members.find?
              (fun f => Text.toBytes f.name.toList == found.1),
              found.2))

/- Read named values into a draft. -/
def readNamed
    {δ : Type}
    (members : List (Member δ)) : Nat → δ → ValueReader δ
  | 0, d, _, bs => some (d, bs)
  | more + 1, d, room, bs =>
      match readMemberKey members bs with
      | none => none
      | some (none, rest) =>
          match skipValues room 1 rest with
          | none => none
          | some after => readNamed members more d room after
      | some (some f, rest) =>
          match f.read d room rest with
          | none => none
          | some (d', after) =>
              readNamed members more d' room after

/- Read values in the order of the fields into a draft. -/
def readOrdered
    {δ : Type} : List (Member δ) → δ → ValueReader δ
  | [], d, _, bs => some (d, bs)
  | f :: more, d, room, bs =>
      match f.read d room bs with
      | none => none
      | some (d', rest) => readOrdered more d' room rest

/-
  A record, read into a draft and completed.  As an array it has
  exactly its members.
-/
def readRecord
    {δ α : Type}
    (members : List (Member δ))
    (start : δ)
    (complete : δ → Option α) : ValueReader α :=
  fun room bs =>
    let draft :=
      match readHeader bs with
      | some (.map n, rest) =>
          inside (readNamed members n start) room rest
      | some (.array n, rest) =>
          if n = members.length then
            inside (readOrdered members start) room rest
          else none
      | _ => none
    match draft with
    | none => none
    | some (d, rest) => (complete d).map (fun a => (a, rest))

end MessagePack

end Bibliography
