import Bibliography.Location
import Mathlib.Data.List.Induction

/-
  Offsets and the text before them.

  The length of a beginning of a text is an offset that divides
  the text behind this beginning.  The location of the offset is
  the place between the two parts.  As every character takes a
  byte, 32 bits hold the lines and columns of a source of less
  than `UInt32.size - 1` bytes.  One byte more may be a newline or
  a letter too many.

  Key definitions include:
    * `Text.Occupies`
    * `Text.long`

  Key statements include:
    * `Text.takeBytes_append`
    * `Location.locate_append`
    * `Location.toNat_line_between`
    * `Location.counts_lt_size`
    * `Location.toNat_line_of_short`
    * `Text.Occupies.text_eq`
-/

------------------------------------------------------------
-- Lengths in Bytes
------------------------------------------------------------

namespace Bibliography

namespace Text

theorem byteLength_append
    (a b : Text) :
    (a ++ b).byteLength = a.byteLength + b.byteLength := by
  induction a with
  | nil => exact (Nat.zero_add _).symm
  | cons c rest ih =>
      rw [List.cons_append, byteLength, byteLength, ih,
        Nat.add_assoc]

theorem byteLength_replicate
    (n : Nat)
    (c : Char) :
    byteLength (List.replicate n c) = n * c.utf8Size := by
  induction n with
  | zero => exact (Nat.zero_mul _).symm
  | succ n ih =>
      rw [List.replicate_succ, byteLength, ih, Nat.succ_mul,
        Nat.add_comm]

/- A beginning is what its own length takes of the text. -/
theorem takeBytes_append
    (a b : Text) : takeBytes a.byteLength (a ++ b) = a := by
  induction a with
  | nil =>
      cases b with
      | nil => rfl
      | cons c rest =>
          have hPos := c.utf8Size_pos
          rw [List.nil_append, byteLength, takeBytes, if_neg]
          omega
  | cons c rest ih =>
      rw [List.cons_append, byteLength, takeBytes,
        if_pos (Nat.le_add_right _ _), Nat.add_sub_cancel_left, ih]

theorem dropBytes_append
    (a b : Text) : dropBytes a.byteLength (a ++ b) = b := by
  rw [dropBytes, takeBytes_append, List.drop_left]

------------------------------------------------------------
-- Parts of a Text
------------------------------------------------------------

/-
  Whether a part of a text takes up the bytes from one offset to
  another, both of which lie between characters.
-/
def Occupies
    (source part : Text)
    (start stop : Nat) : Prop :=
  ∃ before after,
    source = before ++ part ++ after ∧
      start = before.byteLength ∧
      stop = (before ++ part).byteLength

/- The part is the text of the range. -/
theorem Occupies.text_eq
    {source part : Text}
    {s : Span}
    (h : source.Occupies part s.start s.stop) :
    s.text source = part := by
  rcases h with ⟨before, after, hSource, hStart, hStop⟩
  have hLength : s.stop - s.start = part.byteLength := by
    rw [hStart, hStop, byteLength_append,
      Nat.add_sub_cancel_left]
  rw [Span.text, hLength, hSource, hStart, List.append_assoc,
    dropBytes_append, takeBytes_append]

------------------------------------------------------------
-- Lines
------------------------------------------------------------

/- A newline ends the line, and another character belongs to it. -/
theorem lastLine_concat
    (t : Text)
    (c : Char) :
    lastLine (t ++ [c]) =
      if c = '\n' then [] else t.lastLine ++ [c] := by
  simp only [lastLine, List.reverse_concat]
  split
  · rename_i hNewline
    simp [hNewline]
  · rename_i hOther
    simp [hOther]

/- Without a newline a text goes on the same line. -/
theorem lastLine_append
    {m : Text}
    (h : '\n' ∉ m)
    (t : Text) : lastLine (t ++ m) = t.lastLine ++ m := by
  induction m using List.reverseRecOn with
  | nil => rw [List.append_nil, List.append_nil]
  | append_singleton rest c ih =>
      rw [List.mem_append, List.mem_singleton, not_or] at h
      rw [← List.append_assoc, lastLine_concat,
        if_neg (Ne.symm h.2), ih h.1, List.append_assoc]

/- Newlines and the last line have a byte for each character. -/
theorem count_add_length_lastLine_le (t : Text) :
    t.count '\n' + t.lastLine.length ≤ t.byteLength := by
  induction t using List.reverseRecOn with
  | nil => exact Nat.le_refl 0
  | append_singleton rest c ih =>
      have hPos := c.utf8Size_pos
      rw [List.count_append, lastLine_concat, byteLength_append,
        byteLength, byteLength]
      by_cases hNewline : c = '\n'
      · rw [if_pos hNewline, hNewline, List.count_singleton_self,
          List.length_nil]
        rw [hNewline] at hPos
        omega
      · rw [if_neg hNewline, List.length_append,
          List.count_singleton, List.length_singleton]
        simp only [beq_eq_false_iff_ne.2 hNewline,
          Bool.false_eq_true, if_false]
        omega

end Text

------------------------------------------------------------
-- Lines and Columns of 32 Bits
------------------------------------------------------------

/- The least number of characters that 32 bits do not suffice for. -/
def Text.long (c : Char) : Text :=
  List.replicate (UInt32.size - 1) c

theorem Text.byteLength_long
    {c : Char}
    (h : c.utf8Size = 1) : (long c).byteLength = UInt32.size - 1 := by
  rw [long, byteLength_replicate, h, Nat.mul_one]

theorem Text.long_eq_concat (c : Char) :
    long c = List.replicate (UInt32.size - 2) c ++ [c] := by
  rw [← List.replicate_succ']
  rfl

/- The greatest number stands for all that are too great. -/
theorem toNat_ofNatClamp (n : Nat) :
    (UInt32.ofNatClamp n).toNat = min n (UInt32.size - 1) := by
  by_cases h : n < UInt32.size
  · rw [UInt32.toNat_ofNatClamp_of_lt h]
    omega
  · rw [UInt32.toNat_ofNatClamp_of_le (Nat.le_of_not_lt h)]
    omega

namespace Location

theorem toNat_line_between
    (before after : Text) :
    ((between before after).line : Nat) =
      min (before.count '\n' + 1) (UInt32.size - 1) :=
  toNat_ofNatClamp _

theorem toNat_column_between
    (before after : Text) :
    ((between before after).column : Nat) =
      min (before.lastLine.length + 1) (UInt32.size - 1) :=
  toNat_ofNatClamp _

/- Of a short source no line and no column is too great. -/
theorem counts_lt_size
    {before after : Text}
    (h : (before ++ after).byteLength + 1 < UInt32.size) :
    before.count '\n' + 1 < UInt32.size ∧
      before.lastLine.length + 1 < UInt32.size := by
  have hLe := before.count_add_length_lastLine_le
  rw [Text.byteLength_append] at h
  omega

section ShortSource

variable {before after : Text}
variable (hShort : (before ++ after).byteLength + 1 < UInt32.size)
include hShort

/- Of a short source the location has the line itself. -/
theorem toNat_line_of_short :
    ((between before after).line : Nat) = before.count '\n' + 1 :=
  UInt32.toNat_ofNatClamp_of_lt (counts_lt_size hShort).1

theorem toNat_column_of_short :
    ((between before after).column : Nat) =
      before.lastLine.length + 1 :=
  UInt32.toNat_ofNatClamp_of_lt (counts_lt_size hShort).2

/- Of a short source a counter of lines agrees with locations. -/
theorem ofNat_count_of_short :
    UInt32.ofNat (before.count '\n' + 1) =
      (between before after).line :=
  (UInt32.ofNatClamp_eq_ofNat _ (counts_lt_size hShort).1).symm

end ShortSource

/- The location of an offset between two parts. -/
theorem locate_append
    (before after : Text) :
    locate (before ++ after) before.byteLength =
      between before after := by
  rw [locate, Text.takeBytes_append, Text.dropBytes_append]

end Location

end Bibliography
