import Bibliography.MessagePack.Writing
import Bibliography.Proofs.Text.Conjunction

/-
  The UTF-8 form of texts.

  A byte that begins a character does not occur inside one, so
  texts can be compared by their bytes.  ASCII characters are one
  byte, and the bytes of the others are no ASCII.

  Key definitions include:
    * `Bytes.lowerAscii`

  Key statements include:
    * `Text.exists_utf8EncodeChar`
    * `Text.toBytes_lowerAscii`
    * `Text.toBytes_prefix_iff`
-/

------------------------------------------------------------
-- Single Bytes
------------------------------------------------------------

namespace Bibliography

namespace Bytes

/- The byte of an ASCII letter in lower case. -/
def lowerAscii (b : UInt8) : UInt8 :=
  if 65 ≤ b ∧ b ≤ 90 then b + 32 else b

/- A property that holds of all bytes. -/
theorem forall_byte
    {P : UInt8 → Prop}
    (h : ∀ n < 256, P (UInt8.ofNat n))
    (b : UInt8) : P b := by
  have hByte := h b.toNat b.toNat_lt
  rwa [UInt8.ofNat_toNat] at hByte

/- Lower case begins a character where the byte does. -/
theorem isUTF8FirstByte_lowerAscii (b : UInt8) :
    (lowerAscii b).IsUTF8FirstByte ↔ b.IsUTF8FirstByte :=
  forall_byte
    (P := fun b =>
      (lowerAscii b).IsUTF8FirstByte ↔ b.IsUTF8FirstByte)
    (by decide +kernel) b

theorem lowerAscii_of_le
    {b : UInt8}
    (h : 128 ≤ b) : lowerAscii b = b := by
  apply if_neg
  rintro ⟨_, hLetter⟩
  exact absurd (UInt8.le_trans h hLetter) (by decide)

end Bytes

------------------------------------------------------------
-- Bytes of Characters
------------------------------------------------------------

namespace Text

/- The bytes of other characters are no ASCII. -/
theorem le_of_mem_utf8EncodeChar
    {c : Char}
    (h : Character.isAscii c = false) :
    ∀ b ∈ String.utf8EncodeChar c, 128 ≤ b := by
  have hCode : ¬ c.val.toNat ≤ 127 := by
    have hNot : ¬ c.toNat < 128 := by
      simpa [Character.isAscii] using h
    rw [Char.toNat] at hNot
    omega
  have hHigh : ∀ n, 128 ≤ n % 256 → 128 ≤ UInt8.ofNat n := by
    intro n hLe
    rw [UInt8.le_iff_toNat_le, UInt8.toNat_ofNat']
    exact hLe
  intro b hMem
  rw [String.utf8EncodeChar, if_neg hCode] at hMem
  split at hMem
  · simp only [List.mem_cons, List.not_mem_nil, or_false] at hMem
    rcases hMem with rfl | rfl <;> apply hHigh <;> omega
  · split at hMem
    · simp only [List.mem_cons, List.not_mem_nil, or_false] at hMem
      rcases hMem with rfl | rfl | rfl <;> apply hHigh <;> omega
    · simp only [List.mem_cons, List.not_mem_nil, or_false] at hMem
      rcases hMem with rfl | rfl | rfl | rfl <;> apply hHigh <;> omega

/- A character is one byte that begins it and others that do not. -/
theorem exists_utf8EncodeChar (c : Char) :
    ∃ first more, String.utf8EncodeChar c = first :: more ∧
      first.IsUTF8FirstByte ∧
      ∀ b ∈ more, ¬ b.IsUTF8FirstByte := by
  cases hBytes : String.utf8EncodeChar c with
  | nil => exact absurd hBytes String.utf8EncodeChar_ne_nil
  | cons first more =>
      refine ⟨first, more, rfl, ?_, ?_⟩
      · have hFirst :=
          @UInt8.isUTF8FirstByte_getElem_zero_utf8EncodeChar c
        simpa only [hBytes, List.getElem_cons_zero] using hFirst
      · intro b hMem
        rcases List.getElem_of_mem hMem with ⟨i, hLt, rfl⟩
        have hLength : i + 1 < (String.utf8EncodeChar c).length := by
          rw [hBytes, List.length_cons]
          omega
        have hInner :=
          @UInt8.isUTF8FirstByte_getElem_utf8EncodeChar c (i + 1)
            hLength
        simp only [hBytes, List.getElem_cons_succ] at hInner
        rw [hInner]
        omega

theorem utf8EncodeChar_lowerAscii (c : Char) :
    String.utf8EncodeChar (Character.lowerAscii c) =
      (String.utf8EncodeChar c).map Bytes.lowerAscii := by
  cases h : Character.isAscii c with
  | true =>
      exact Character.forall_ascii
        (P := fun c =>
          String.utf8EncodeChar (Character.lowerAscii c) =
            (String.utf8EncodeChar c).map Bytes.lowerAscii)
        (by decide +kernel) h
  | false =>
      have hSame : (String.utf8EncodeChar c).map Bytes.lowerAscii =
          (String.utf8EncodeChar c).map id := by
        apply List.map_congr_left
        intro b hMem
        exact Bytes.lowerAscii_of_le
          (le_of_mem_utf8EncodeChar h b hMem)
      rw [Character.lowerAscii_of_not_isAscii h, hSame, List.map_id]

------------------------------------------------------------
-- Bytes of Texts
------------------------------------------------------------

theorem toBytes_cons
    (c : Char)
    (t : Text) :
    toBytes (c :: t) = String.utf8EncodeChar c ++ t.toBytes :=
  List.flatMap_cons

theorem toBytes_append
    (a b : Text) : (a ++ b).toBytes = a.toBytes ++ b.toBytes :=
  List.flatMap_append

theorem toBytes_lowerAscii (t : Text) :
    t.lowerAscii.toBytes = t.toBytes.map Bytes.lowerAscii := by
  induction t with
  | nil => rfl
  | cons c rest ih =>
      rw [lowerAscii, List.map_cons, toBytes_cons, toBytes_cons,
        List.map_append, utf8EncodeChar_lowerAscii]
      exact congrArg (List.map Bytes.lowerAscii _ ++ ·) ih

/- Texts begin alike where their bytes do. -/
theorem toBytes_prefix_iff
    {a b : Text} : a.toBytes <+: b.toBytes ↔ a <+: b := by
  constructor
  · rintro ⟨more, hBytes⟩
    apply List.isPrefix_of_utf8Encode_append_eq_utf8Encode
      more.toByteArray
    rw [List.utf8Encode, List.utf8Encode, ← List.toByteArray_append]
    exact congrArg List.toByteArray hBytes
  · rintro ⟨more, rfl⟩
    exact ⟨toBytes more, (toBytes_append a more).symm⟩

end Text

end Bibliography
