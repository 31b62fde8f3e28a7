import Bibliography.Text.Excerpt
import Mathlib.Data.List.Basic

/-
  Windows of a text at 64-bit positions.

  The bounds of a window are computed by additions that stop at
  the ends of the range and are then clipped to the text.  A text
  has no more characters than the greatest integer, so stopping
  and clipping lose nothing: the characters of the window are the
  ones that the positions over the integers select.

  Key definitions include:
    * `Text.firstPosition`
    * `Text.window`

  Key statements include:
    * `Counting.toInt_saturatingAdd`
    * `Text.windowBounds_eq`
    * `Text.window_eq`
    * `Text.substring_eq_window`
-/

------------------------------------------------------------
-- Integers That Stop at the Ends
------------------------------------------------------------

namespace Bibliography

namespace Counting

theorem toInt_ofIntClamp (i : Int) :
    (Int64.ofIntClamp i).toInt =
      max Int64.minValue.toInt (min i Int64.maxValue.toInt) := by
  have hMin : Int64.minValue.toInt = -9223372036854775808 := rfl
  have hMax : Int64.maxValue.toInt = 9223372036854775807 := rfl
  unfold Int64.ofIntClamp
  split
  · split
    · rw [Int64.toInt_ofIntLE]
      omega
    · omega
  · omega

/- A sum is exact, or the end of the range beyond which it lies. -/
theorem toInt_saturatingAdd (a b : Int64) :
    (saturatingAdd a b).toInt =
      max Int64.minValue.toInt
        (min (a.toInt + b.toInt) Int64.maxValue.toInt) :=
  toInt_ofIntClamp _

theorem toInt_ofNat
    {n : Nat}
    (h : (n : Int) ≤ Int64.maxValue.toInt) :
    (ofNat n).toInt = n := by
  have hMin : Int64.minValue.toInt = -9223372036854775808 := rfl
  rw [ofNat, toInt_ofIntClamp]
  omega

theorem clamp_eq
    {bound : Int64}
    (h : 0 ≤ bound.toInt)
    (n : Int64) :
    clamp bound n = min n.toInt.toNat bound.toInt.toNat := by
  simp only [clamp, Int64.lt_iff_toInt_lt, Int64.toInt_zero]
  split
  · omega
  · split <;> omega

end Counting

------------------------------------------------------------
-- Windows
------------------------------------------------------------

namespace Text

/-
  The position at which a window begins in a text of some length.
-/
def firstPosition
    (length : Nat)
    (start : Int64) : Int :=
  if 0 < start then start.toInt else length + start.toInt + 1

/-
  The characters at the positions from `first` up to, and not
  including, `stop`.  The first character is at position one.
-/
def window
    (t : Text)
    (first stop : Int) : Text :=
  ((t.zipIdx 1).filter
    (fun x => first ≤ x.2 ∧ (x.2 : Int) < stop)).map Prod.fst

/- The numbers of the characters may begin anywhere. -/
theorem map_filter_zipIdx
    (t : Text)
    (origin : Nat)
    (first stop : Int) :
    ((t.zipIdx origin).filter
        (fun x => first ≤ x.2 ∧ (x.2 : Int) < stop)).map Prod.fst =
      (t.take (stop - origin).toNat).drop
        (first - origin).toNat := by
  induction t generalizing origin with
  | nil => simp
  | cons c rest ih =>
      have hNext : ∀ i : Int, (i - (origin + 1 : Nat)).toNat =
          (i - origin).toNat - 1 := by
        intro i
        omega
      rw [List.zipIdx_cons]
      by_cases hStop : (origin : Int) < stop
      · have hTake : (stop - origin).toNat =
            (stop - origin).toNat - 1 + 1 := by
          omega
        by_cases hFirst : first ≤ origin
        · have hDrop : (first - origin).toNat = 0 := by omega
          rw [List.filter_cons_of_pos (by simp [hFirst, hStop]),
            List.map_cons, ih, hNext first, hNext stop, hDrop, hTake]
          rfl
        · have hDrop : (first - origin).toNat =
              (first - origin).toNat - 1 + 1 := by
            omega
          rw [List.filter_cons_of_neg (by simp [hFirst]), ih,
            hNext first, hNext stop, hTake, List.take_succ_cons,
            hDrop, List.drop_succ_cons]
          rfl
      · have hTake : (stop - origin).toNat = 0 := by omega
        rw [List.filter_cons_of_neg (by simp [hStop]), ih, hNext stop,
          hTake, List.take_zero, List.take_zero, List.drop_nil,
          List.drop_nil]

/- A window is one stretch of the text. -/
theorem window_eq
    (t : Text)
    (first stop : Int) :
    t.window first stop =
      (t.take (stop - 1).toNat).drop (first - 1).toNat :=
  map_filter_zipIdx t 1 first stop

/- No position lies in a window without width. -/
theorem window_of_le
    (t : Text)
    {first stop : Int}
    (h : stop ≤ first) : t.window first stop = [] := by
  rw [window_eq, List.drop_eq_nil_iff, List.length_take]
  omega

/- Bounds that are clipped to the text select the same stretch. -/
theorem drop_take_min_length
    (t : Text)
    (low high : Nat) :
    (t.take (min high t.length)).drop (min low t.length) =
      (t.take high).drop low := by
  rw [← List.take_eq_take_min, List.drop_eq_drop_iff,
    List.length_take]
  omega

------------------------------------------------------------
-- Substrings
------------------------------------------------------------

variable {t : Text}
variable {length : Nat}

/-
  Machine arithmetic finds the bounds of the window over the
  integers, clipped to the text.
-/
theorem windowBounds_eq
    (hLength : (length : Int) ≤ Int64.maxValue.toInt)
    {start len : Int64}
    (hLen : 0 < len) :
    windowBounds length start len =
      (min (firstPosition length start - 1).toNat length,
        min (firstPosition length start + len.toInt - 1).toNat
          length) := by
  have hMin : Int64.minValue.toInt = -9223372036854775808 := rfl
  have hMax : Int64.maxValue.toInt = 9223372036854775807 := rfl
  have hCount := Counting.toInt_ofNat hLength
  have hBound : 0 ≤ (Counting.ofNat length).toInt := by omega
  have hWide : 0 < len.toInt := Int64.lt_iff_toInt_lt.1 hLen
  have hLow := Int64.le_toInt start
  unfold windowBounds firstPosition
  dsimp only
  rw [Counting.clamp_eq hBound, Counting.clamp_eq hBound, hCount,
    Counting.toInt_saturatingAdd]
  split
  · rename_i hStart
    have hOne : (start - 1).toInt = start.toInt - 1 :=
      Int64.toInt_sub_of_le start 1 (by decide)
        (by
          rw [Int64.le_iff_toInt_le]
          exact Int64.lt_iff_toInt_lt.1 hStart)
    rw [hOne]
    apply Prod.ext
    · dsimp only
      omega
    · dsimp only
      omega
  · rename_i hStart
    have hBack : start.toInt ≤ 0 := by
      rw [Int64.lt_iff_toInt_lt] at hStart
      exact Int.not_lt.1 hStart
    rw [Counting.toInt_saturatingAdd, hCount]
    apply Prod.ext
    · dsimp only
      omega
    · dsimp only
      omega

/-
  A substring consists of the characters at the positions of its
  window, whatever integers give its start and its length.  The
  bounds that are computed lie in the text and in order.
-/
theorem substring_eq_window
    (t : Text)
    (hLength : (t.length : Int) ≤ Int64.maxValue.toInt)
    (start len : Int64) :
    t.substring 0 len = .error (.of .substringStartZero) ∧
      (start ≠ 0 →
        t.substring start len =
          .ok (t.window (firstPosition t.length start)
            (firstPosition t.length start + len.toInt))) ∧
      (0 < len →
        (windowBounds t.length start len).1 ≤
            (windowBounds t.length start len).2 ∧
          (windowBounds t.length start len).2 ≤ t.length) := by
  refine ⟨rfl, ?_, ?_⟩
  · intro hStart
    rw [substring, if_neg hStart]
    by_cases hLen : len ≤ 0
    · have hNone : len.toInt ≤ 0 := Int64.le_iff_toInt_le.1 hLen
      rw [if_pos hLen, window_of_le t (by omega)]
    · have hWide : 0 < len := Int64.not_le.1 hLen
      rw [if_neg hLen, windowBounds_eq hLength hWide, window_eq]
      dsimp only
      rw [drop_take_min_length]
  · intro hLen
    have hWide : 0 < len.toInt := Int64.lt_iff_toInt_lt.1 hLen
    rw [windowBounds_eq hLength hLen]
    dsimp only
    omega

/-
  The widest window from the lowest position ends before the last
  character.
-/
theorem substring_eq_window_widest :
    ("abc".toList.length : Int) ≤ Int64.maxValue.toInt ∧
      Int64.minValue ≠ 0 ∧ 0 < Int64.maxValue ∧
      substring "abc".toList Int64.minValue Int64.maxValue =
        .ok "ab".toList ∧
      (windowBounds 3 Int64.minValue Int64.maxValue).2 ≤ 3 := by
  have hLength : ("abc".toList.length : Int) ≤
      Int64.maxValue.toInt := by decide
  rcases substring_eq_window "abc".toList hLength Int64.minValue
    Int64.maxValue with ⟨_, hWindow, hBounds⟩
  refine ⟨hLength, by decide, by decide, ?_,
    (hBounds (by decide)).2⟩
  rw [hWindow (by decide)]
  decide

end Text

end Bibliography
