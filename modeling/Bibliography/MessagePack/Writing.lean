import Bibliography.Text.Basic

/-
  Writing MessagePack, always in the smallest form.

  Key definitions include:
    * `Bytes`
    * `Text.toBytes`
    * `MessagePack.bigEndian`
    * `MessagePack.writeNat`
    * `MessagePack.writeText`
    * `MessagePack.writeArray`
-/

------------------------------------------------------------
-- Bytes
------------------------------------------------------------

namespace Bibliography

/- A sequence of bytes. -/
abbrev Bytes := List UInt8

namespace Text

/- The UTF-8 form. -/
def toBytes (t : Text) : Bytes :=
  t.flatMap String.utf8EncodeChar

/- The text whose UTF-8 form the bytes are. -/
def ofBytes? (bs : Bytes) : Option Text :=
  bs.toByteArray.utf8Decode?.map Array.toList

end Text

namespace MessagePack

/- The last `width` bytes of a number, the highest first. -/
def bigEndian : Nat → Nat → Bytes
  | 0, _ => []
  | width + 1, n =>
      bigEndian width (n / 256) ++ [UInt8.ofNat (n % 256)]

------------------------------------------------------------
-- Scalars and Headers
------------------------------------------------------------

/- The absent value. -/
def writeNil : Bytes :=
  [0xC0]

/- A number without sign. -/
def writeNat (n : Nat) : Bytes :=
  if n < 0x80 then [UInt8.ofNat n]
  else if n < 0x100 then 0xCC :: bigEndian 1 n
  else if n < 0x10000 then 0xCD :: bigEndian 2 n
  else if n < 0x100000000 then 0xCE :: bigEndian 4 n
  else 0xCF :: bigEndian 8 n

/- The header of a text of `n` bytes. -/
def textHeader (n : Nat) : Bytes :=
  if n < 32 then [UInt8.ofNat (0xA0 + n)]
  else if n < 0x100 then 0xD9 :: bigEndian 1 n
  else if n < 0x10000 then 0xDA :: bigEndian 2 n
  else 0xDB :: bigEndian 4 n

/- The header of an array of `n` items. -/
def arrayHeader (n : Nat) : Bytes :=
  if n < 16 then [UInt8.ofNat (0x90 + n)]
  else if n < 0x10000 then 0xDC :: bigEndian 2 n
  else 0xDD :: bigEndian 4 n

/- The header of a map of `n` pairs. -/
def mapHeader (n : Nat) : Bytes :=
  if n < 16 then [UInt8.ofNat (0x80 + n)]
  else if n < 0x10000 then 0xDE :: bigEndian 2 n
  else 0xDF :: bigEndian 4 n

------------------------------------------------------------
-- Composite Values
------------------------------------------------------------

/- A text. -/
def writeText (t : Text) : Bytes :=
  textHeader t.toBytes.length ++ t.toBytes

/- A value that may be absent. -/
def writeOption
    {α : Type}
    (write : α → Bytes) : Option α → Bytes
  | none => writeNil
  | some a => write a

/- An array of items of one form. -/
def writeArray
    {α : Type}
    (write : α → Bytes)
    (items : List α) : Bytes :=
  arrayHeader items.length ++ items.flatMap write

/- A map from texts to values of one form. -/
def writeMap
    {α : Type}
    (write : α → Bytes)
    (items : List (Text × α)) : Bytes :=
  mapHeader items.length ++
    items.flatMap (fun item => writeText item.1 ++ write item.2)

/- A map from names to values that are written already. -/
def writeNamed (items : List (String × Bytes)) : Bytes :=
  mapHeader items.length ++
    items.flatMap (fun item => writeText item.1.toList ++ item.2)

end MessagePack

end Bibliography
