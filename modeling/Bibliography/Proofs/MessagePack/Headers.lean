import Mathlib.Algebra.Group.Nat.Defs
import Bibliography.MessagePack.Reading

/-
  Numbers and headers that are read back.

  A header is written in the smallest of its forms.  Whichever
  form that is, reading it gives the number or the length back,
  and leaves what follows.

  Key definitions include:
    * `numberLimit`
    * `lengthLimit`

  Key statements include:
    * `readHeader_writeNat`
    * `readHeader_textHeader`
    * `readHeader_arrayHeader`
    * `readHeader_mapHeader`
-/

------------------------------------------------------------
-- Limits
------------------------------------------------------------

namespace Bibliography

namespace MessagePack

/- Numbers below it can be written. -/
def numberLimit : Nat :=
  2 ^ 64

/- Lengths below it can be written. -/
def lengthLimit : Nat :=
  2 ^ 32

------------------------------------------------------------
-- Numbers of Fixed Width
------------------------------------------------------------

theorem length_bigEndian
    (width n : Nat) : (bigEndian width n).length = width := by
  induction width generalizing n with
  | zero => rfl
  | succ width ih =>
      rw [bigEndian, List.length_append, ih]
      rfl

theorem ofBigEndian_concat
    (bs : Bytes)
    (b : UInt8) :
    ofBigEndian (bs ++ [b]) = 256 * ofBigEndian bs + b.toNat := by
  rw [ofBigEndian, List.foldl_append]
  rfl

/- The bytes of a number keep as much of it as they can hold. -/
theorem ofBigEndian_bigEndian
    (width n : Nat) :
    ofBigEndian (bigEndian width n) = n % 256 ^ width := by
  induction width generalizing n with
  | zero =>
      rw [Nat.pow_zero, Nat.mod_one]
      rfl
  | succ width ih =>
      have hByte : (UInt8.ofNat (n % 256)).toNat = n % 256 :=
        UInt8.toNat_ofNat_of_lt' (Nat.mod_lt _ (by decide))
      rw [bigEndian, ofBigEndian_concat, ih, hByte, Nat.pow_succ,
        Nat.mul_comm (256 ^ width) 256, Nat.mod_mul, Nat.add_comm]

theorem takeExactly_append
    (bs rest : Bytes) :
    takeExactly bs.length (bs ++ rest) = some (bs, rest) := by
  have hLength : bs.length ≤ (bs ++ rest).length := by
    rw [List.length_append]
    exact Nat.le_add_right ..
  rw [takeExactly, if_pos hLength, List.take_left, List.drop_left]

theorem readFixed_bigEndian
    {width n : Nat}
    (h : n < 256 ^ width)
    (rest : Bytes) :
    readFixed width (bigEndian width n ++ rest) = some (n, rest) := by
  have hTaken := takeExactly_append (bigEndian width n) rest
  rw [length_bigEndian] at hTaken
  rw [readFixed, hTaken, Option.map_some, ofBigEndian_bigEndian,
    Nat.mod_eq_of_lt h]

theorem headerOf_bigEndian
    (width : Nat)
    (f : Nat → Header)
    {n : Nat}
    (h : n < 256 ^ width)
    (rest : Bytes) :
    headerOf width f (bigEndian width n ++ rest) =
      some (f n, rest) := by
  rw [headerOf, readFixed_bigEndian h]
  rfl

------------------------------------------------------------
-- Headers
------------------------------------------------------------

/- A header of one byte, which holds the number as well. -/
theorem toNat_ofNat_add
    (marker : Nat)
    {n room : Nat}
    (hNumber : n < room)
    (hRoom : marker + room ≤ 256) :
    (UInt8.ofNat (marker + n)).toNat = marker + n := by
  apply UInt8.toNat_ofNat_of_lt'
  show marker + n < 256
  omega

theorem readHeader_writeNat
    {n : Nat}
    (h : n < numberLimit)
    (rest : Bytes) :
    readHeader (writeNat n ++ rest) = some (.unsigned n, rest) := by
  unfold numberLimit at h
  unfold writeNat
  split
  · rename_i hSmall
    have hByte := toNat_ofNat_add 0 hSmall (by decide)
    rw [Nat.zero_add] at hByte
    rw [List.singleton_append, readHeader, hByte, if_pos hSmall]
  · split
    · exact headerOf_bigEndian 1 .unsigned (by omega) rest
    · split
      · exact headerOf_bigEndian 2 .unsigned (by omega) rest
      · split
        · exact headerOf_bigEndian 4 .unsigned (by omega) rest
        · exact headerOf_bigEndian 8 .unsigned (by omega) rest

theorem readHeader_textHeader
    {n : Nat}
    (h : n < lengthLimit)
    (rest : Bytes) :
    readHeader (textHeader n ++ rest) = some (.text n, rest) := by
  unfold lengthLimit at h
  unfold textHeader
  split
  · rename_i hSmall
    have hByte := toNat_ofNat_add 0xA0 hSmall (by decide)
    rw [List.singleton_append, readHeader, hByte]
    rw [if_neg (by omega), if_neg (by omega), if_neg (by omega),
      if_pos (by omega), Nat.add_sub_cancel_left]
  · split
    · exact headerOf_bigEndian 1 .text (by omega) rest
    · split
      · exact headerOf_bigEndian 2 .text (by omega) rest
      · exact headerOf_bigEndian 4 .text (by omega) rest

theorem readHeader_arrayHeader
    {n : Nat}
    (h : n < lengthLimit)
    (rest : Bytes) :
    readHeader (arrayHeader n ++ rest) = some (.array n, rest) := by
  unfold lengthLimit at h
  unfold arrayHeader
  split
  · rename_i hSmall
    have hByte := toNat_ofNat_add 0x90 hSmall (by decide)
    rw [List.singleton_append, readHeader, hByte]
    rw [if_neg (by omega), if_neg (by omega), if_pos (by omega),
      Nat.add_sub_cancel_left]
  · split
    · exact headerOf_bigEndian 2 .array (by omega) rest
    · exact headerOf_bigEndian 4 .array (by omega) rest

theorem readHeader_mapHeader
    {n : Nat}
    (h : n < lengthLimit)
    (rest : Bytes) :
    readHeader (mapHeader n ++ rest) = some (.map n, rest) := by
  unfold lengthLimit at h
  unfold mapHeader
  split
  · rename_i hSmall
    have hByte := toNat_ofNat_add 0x80 hSmall (by decide)
    rw [List.singleton_append, readHeader, hByte]
    rw [if_neg (by omega), if_pos (by omega),
      Nat.add_sub_cancel_left]
  · split
    · exact headerOf_bigEndian 2 .map (by omega) rest
    · exact headerOf_bigEndian 4 .map (by omega) rest

end MessagePack

end Bibliography
