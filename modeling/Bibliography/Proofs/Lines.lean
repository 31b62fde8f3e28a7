import Bibliography.Proofs.Text.Boundaries
import Mathlib.Data.List.DropRight
import Mathlib.Data.Prod.Lex
import Mathlib.Order.Bounds.Basic
import Mathlib.Order.Monotone.Defs

/-
  The lines of a source and the places on them.

  Newlines divide a source into lines.  A beginning of the source
  is some whole lines, each with its newline, and a beginning of
  the next line, whatever comes behind it.  So the location of an
  offset names the line that the offset is on.  The farther a
  beginning goes, the later is its location.  All this needs a
  source whose lines and columns 32 bits hold.

  Key definitions include:
    * `Location.rank`

  Key statements include:
    * `Text.exists_splitOn_append`
    * `Location.rank_between_lt`
    * `Location.locate_faithful`
    * `Location.locate_overflows`
-/

------------------------------------------------------------
-- Lines
------------------------------------------------------------

namespace Bibliography

namespace Text

/- A newline ends the first line, and others belong to it. -/
theorem splitOn_newline_cons
    (c : Char)
    (t : Text) :
    (c :: t).splitOn '\n' =
      if c = '\n' then [] :: t.splitOn '\n'
      else (t.splitOn '\n').modifyHead (c :: ·) := by
  rw [List.splitOn, List.splitOnP_cons_eq_if_modifyHead]
  simp only [beq_iff_eq]
  rfl

theorem exists_splitOn_newline (t : Text) :
    ∃ later, t.splitOn '\n' = t.firstLine :: later := by
  induction t with
  | nil => exact ⟨[], rfl⟩
  | cons c rest ih =>
      rcases ih with ⟨later, hLines⟩
      rw [splitOn_newline_cons, firstLine, hLines]
      by_cases hNewline : c = '\n'
      · rw [if_pos hNewline,
          List.takeWhile_cons_of_neg (by simpa using hNewline)]
        exact ⟨_, rfl⟩
      · rw [if_neg hNewline,
          List.takeWhile_cons_of_pos (by simpa using hNewline)]
        exact ⟨later, rfl⟩

/-
  A beginning of a source is whole lines with their newlines and a
  beginning of a line, which goes on behind it.
-/
theorem exists_splitOn_append (before : Text) :
    ∃ earlier : List Text,
      earlier.length = before.count '\n' ∧
        before =
          earlier.flatMap (· ++ ['\n']) ++ before.lastLine ∧
        ∀ after : Text, (before ++ after).splitOn '\n' =
          earlier ++
            (after.splitOn '\n').modifyHead (before.lastLine ++ ·) := by
  induction before using List.reverseRecOn with
  | nil =>
      refine ⟨[], rfl, rfl, fun after => ?_⟩
      rw [List.nil_append, List.nil_append]
      cases after.splitOn '\n' <;> rfl
  | append_singleton t c ih =>
      rcases ih with ⟨earlier, hCount, hText, hLines⟩
      have hNext := fun after => hLines (c :: after)
      rw [List.count_append, ← hCount, lastLine_concat]
      by_cases hNewline : c = '\n'
      · rw [if_pos hNewline]
        refine ⟨earlier ++ [lastLine t], ?_, ?_, fun after => ?_⟩
        · simp [hNewline]
        · rw [List.flatMap_append, List.flatMap_singleton,
            List.append_nil, ← List.append_assoc, ← hText, hNewline]
        · rw [List.append_assoc, List.singleton_append, hNext,
            splitOn_newline_cons, if_pos hNewline]
          cases after.splitOn '\n' <;> simp
      · rw [if_neg hNewline]
        refine ⟨earlier, ?_, ?_, fun after => ?_⟩
        · simp [hNewline]
        · rw [← List.append_assoc, ← hText]
        · rw [List.append_assoc, List.singleton_append, hNext,
            splitOn_newline_cons, if_neg hNewline,
            List.modifyHead_modifyHead]
          simp [Function.comp_def]

end Text

------------------------------------------------------------
-- The Order of Locations
------------------------------------------------------------

namespace Location

/- Locations stand in the order of lines, then of columns. -/
def rank (l : Location) : ℕ ×ₗ ℕ :=
  toLex (l.line.toNat, l.column.toNat)

/- What stands farther behind is on a later line or column. -/
theorem rank_between_lt
    {before m after : Text}
    (hNonempty : m ≠ [])
    (hShort : (before ++ m ++ after).byteLength + 1 <
      UInt32.size) :
    (between before (m ++ after)).rank <
      (between (before ++ m) after).rank := by
  have hLine := toNat_line_of_short hShort
  have hColumn := toNat_column_of_short hShort
  rw [List.append_assoc] at hShort
  rw [rank, rank, Prod.Lex.toLex_lt_toLex,
    toNat_line_of_short hShort, toNat_column_of_short hShort, hLine,
    hColumn]
  by_cases hNewline : '\n' ∈ m
  · left
    have hPos := List.count_pos_iff.2 hNewline
    rw [List.count_append]
    omega
  · right
    have hPos := List.length_pos_iff.2 hNonempty
    rw [List.count_append, List.count_eq_zero.2 hNewline,
      Text.lastLine_append hNewline, List.length_append]
    omega

------------------------------------------------------------
-- Locations Are Faithful
------------------------------------------------------------

/-
  What is true of the location between two parts of a source.  Its
  line is counted by the newlines of the first part, its context
  is the line of this number without the carriage returns at its
  end, and its column counts the characters of the first part
  behind the lines before.
-/
structure StandsBetween
    (before after : Text)
    (l : Location) : Prop where
  line_eq : (l.line : Nat) = before.count '\n' + 1
  onLine : ∃ left right : Text,
    ((before ++ after).splitOn '\n')[l.line.toNat - 1]? =
        some (left ++ right) ∧
      before =
        (((before ++ after).splitOn '\n').take
            (l.line.toNat - 1)).flatMap (· ++ ['\n']) ++ left ∧
      (l.column : Nat) = left.length + 1 ∧
      l.context = (left ++ right).rdropWhile (· == '\r')

theorem standsBetween_between
    {before after : Text}
    (hShort : (before ++ after).byteLength + 1 < UInt32.size) :
    (between before after).StandsBetween before after := by
  have hLine := toNat_line_of_short hShort
  have hColumn := toNat_column_of_short hShort
  rcases before.exists_splitOn_append with
    ⟨earlier, hCount, hBefore, hSplit⟩
  rcases after.exists_splitOn_newline with ⟨later, hAfter⟩
  have hIndex : (between before after).line.toNat - 1 =
      earlier.length := by
    rw [hLine, hCount, Nat.add_sub_cancel]
  refine ⟨hLine, before.lastLine, after.firstLine, ?_, ?_, hColumn,
    rfl⟩
  · rw [hSplit, hAfter, hIndex,
      List.getElem?_append_right (Nat.le_refl _), Nat.sub_self]
    rfl
  · rw [hSplit, hIndex, List.take_left]
    exact hBefore

/- A boundary farther behind has a later location. -/
theorem strictMonoOn_rank_locate
    {source : Text}
    (hShort : source.byteLength + 1 < UInt32.size) :
    StrictMonoOn (fun o => (locate source o).rank)
      {o | source.IsBoundary o} := by
  intro o hFirst o' hSecond hLt
  rcases Text.isBoundary_iff.1 hFirst with ⟨before, after, rfl, rfl⟩
  rcases Text.isBoundary_iff.1 hSecond with
    ⟨before', after', hSame, rfl⟩
  rcases Text.exists_append_of_byteLength_lt hSame hLt with
    ⟨c, more, rfl, rfl⟩
  rw [hSame] at hShort
  have hLater :=
    rank_between_lt (List.cons_ne_nil c more) hShort
  dsimp only
  rw [locate_append, hSame, locate_append]
  exact hLater

/-
  In a source that is not too long the location of an offset
  stands where the greatest boundary up to it divides the source.
  Locations of boundaries are in the order of the boundaries, line
  by line and on each line column by column, so a location belongs
  to one boundary only.
-/
theorem locate_faithful
    {source : Text}
    (hShort : source.byteLength + 1 < UInt32.size) :
    (∀ offset, ∃ before after : Text,
      source = before ++ after ∧
        IsGreatest
          {o | source.IsBoundary o ∧
            o ≤ min offset source.toBytes.length}
          before.toBytes.length ∧
        (locate source offset).StandsBetween before after) ∧
      StrictMonoOn (fun o => (locate source o).rank)
        {o | source.IsBoundary o} := by
  refine ⟨fun offset => ?_, strictMonoOn_rank_locate hShort⟩
  refine ⟨source.takeBytes offset, source.dropBytes offset,
    (Text.takeBytes_append_dropBytes offset source).symm, ?_, ?_⟩
  · rw [Text.length_toBytes (source.takeBytes offset)]
    exact Text.isGreatest_takeBytes offset source
  · apply standsBetween_between
    rwa [Text.takeBytes_append_dropBytes]

/-
  An offset inside of a character and in front of a carriage
  return has the location of its beginning, which is before that of
  its end.
-/
theorem locate_faithful_secondLine :
    let source := "a\né\r\nb".toList
    locate source 3 = ⟨2, 1, ['é']⟩ ∧
      (∃ before after : Text, source = before ++ after ∧
        before.toBytes.length = 2 ∧
        (locate source 3).StandsBetween before after) ∧
      (locate source 2).rank < (locate source 4).rank := by
  have hShort : Text.byteLength "a\né\r\nb".toList + 1 <
      UInt32.size := by decide
  rcases locate_faithful hShort with ⟨hPlaces, hOrder⟩
  rcases hPlaces 3 with
    ⟨before, after, hSource, hGreatest, hStands⟩
  have hBoundary : before.toBytes.length = 2 :=
    hGreatest.unique (Text.isGreatest_takeBytes 3 _)
  have hFirst : Text.IsBoundary "a\né\r\nb".toList 2 :=
    Text.isBoundary_iff.2
      ⟨"a\n".toList, "é\r\nb".toList, rfl, rfl⟩
  have hSecond : Text.IsBoundary "a\né\r\nb".toList 4 :=
    Text.isBoundary_iff.2
      ⟨"a\né".toList, "\r\nb".toList, rfl, rfl⟩
  exact ⟨by decide, ⟨before, after, hSource, hBoundary, hStands⟩,
    hOrder hFirst hSecond (by decide)⟩

/- The columns on a single line end at the greatest number. -/
theorem rank_between_replicate
    {c : Char}
    (h : c ≠ '\n')
    (n : Nat)
    (after : Text) :
    (between (List.replicate n c) after).rank =
      toLex (1, min (n + 1) (UInt32.size - 1)) := by
  have hNone : '\n' ∉ List.replicate n c :=
    fun hMem => h (List.eq_of_mem_replicate hMem).symm
  have hLast : Text.lastLine (List.replicate n c) =
      List.replicate n c :=
    Text.lastLine_append hNone []
  rw [rank, toNat_line_between, toNat_column_between, hLast,
    List.count_eq_zero.2 hNone, List.length_replicate]
  rfl

/-
  A source with one byte more may have one line or one column too
  many: behind its newlines the line is too small, and the places
  before and behind its last letter have one location.
-/
theorem locate_overflows :
    let lines := Text.long '\n'
    let letters := Text.long 'a'
    let last := UInt32.size - 2
    (lines.byteLength < UInt32.size ∧
        ((locate lines lines.byteLength).line : Nat) ≠
          lines.count '\n' + 1) ∧
      letters.byteLength < UInt32.size ∧
      letters.IsBoundary last ∧ letters.IsBoundary (last + 1) ∧
      (locate letters last).rank =
        (locate letters (last + 1)).rank := by
  have hLines : (Text.long '\n').byteLength = UInt32.size - 1 :=
    Text.byteLength_long rfl
  have hCount : (Text.long '\n').count '\n' = UInt32.size - 1 :=
    List.count_replicate_self
  have hLetters : (Text.long 'a').byteLength = UInt32.size - 1 :=
    Text.byteLength_long rfl
  have hSplit := Text.long_eq_concat 'a'
  have hLast : Text.byteLength
      (List.replicate (UInt32.size - 2) 'a') = UInt32.size - 2 := by
    rw [Text.byteLength_replicate]
    rfl
  have hEnd := locate_append (Text.long '\n') []
  have hSooner :=
    locate_append (List.replicate (UInt32.size - 2) 'a') ['a']
  have hLater := locate_append (Text.long 'a') []
  rw [List.append_nil] at hEnd hLater
  rw [← hSplit, hLast] at hSooner
  rw [hLetters] at hLater
  dsimp only
  refine ⟨⟨?_, ?_⟩, ?_, ?_, ?_, ?_⟩
  · rw [hLines]
    decide
  · rw [hEnd, toNat_line_between, hCount]
    decide
  · rw [hLetters]
    decide
  · exact Text.isBoundary_iff.2 ⟨_, _, hSplit, hLast.symm⟩
  · exact Text.isBoundary_iff.2
      ⟨_, [], (List.append_nil _).symm, hLetters.symm⟩
  · rw [hSooner, show UInt32.size - 2 + 1 = UInt32.size - 1 from rfl,
      hLater, rank_between_replicate (by decide), Text.long,
      rank_between_replicate (by decide)]
    rfl

end Location

end Bibliography
