import Bibliography.Proofs.Text.Words
import Mathlib.Data.List.Basic

/-
  The words of a text and the places of their characters.

  White space and ties that stand at depth zero separate words,
  and every other character belongs to a word.  A word that a
  separator follows leaves the depth at zero, also in a text that
  is not balanced.  So it stays a word whatever separators follow
  it, and the words with any separators between them are found
  again.

  Key definitions include:
    * `Text.separatesAt`
    * `Text.wordPlaces`
    * `Text.joinWith`
    * `Text.DividedIntoWords`
    * `Text.Grouped`

  Key statements include:
    * `Text.dividedIntoWords_words`
    * `Text.DividedIntoWords.words_eq`
    * `Text.DividedIntoWords.joinWith`
    * `Text.DividedIntoWords.exists_grouped`
    * `Text.Grouped.exists_group_iff`
    * `Text.words_partition`
-/

------------------------------------------------------------
-- Places
------------------------------------------------------------

namespace Bibliography

namespace Text

/-
  Whether white space or a tie stands at a place, and the text in
  front of it leaves the depth at zero.
-/
def separatesAt
    (t : Text)
    (i : Nat) : Bool :=
  t[i]?.any separatesWords && (t.take i).foldl nest 0 == 0

/- The places where no separator stands, in order. -/
def wordPlaces (t : Text) : List Nat :=
  (List.range t.length).filter (fun i => !t.separatesAt i)

/- The characters at some places. -/
def charsAt
    (t : Text)
    (places : List Nat) : Text :=
  places.filterMap (fun i => t[i]?)

theorem separatesAt_append_left
    {a : Text}
    {i : Nat}
    (h : i < a.length)
    (b : Text) : separatesAt (a ++ b) i = a.separatesAt i := by
  rw [separatesAt, separatesAt, List.getElem?_append_left h,
    List.take_append_of_le_length (Nat.le_of_lt h)]

/- Behind a text that leaves the depth at zero all is as alone. -/
theorem separatesAt_append_right
    {a : Text}
    (hDepth : a.foldl nest 0 = 0)
    (b : Text)
    (i : Nat) :
    separatesAt (a ++ b) (a.length + i) = b.separatesAt i := by
  rw [separatesAt, separatesAt,
    List.getElem?_append_right (Nat.le_add_right _ _),
    Nat.add_sub_cancel_left, List.take_length_add_append,
    List.foldl_append, hDepth]

/- A separator that begins a text separates. -/
theorem separatesAt_cons
    {c : Char}
    (h : separatesWords c = true)
    (t : Text) : separatesAt (c :: t) 0 = true := by
  rw [separatesAt]
  simpa using h

/- A separator leaves the depth as it is. -/
theorem foldl_nest_concat
    {a : Text}
    {c : Char}
    (hDepth : a.foldl nest 0 = 0)
    (hClass : separatesWords c = true) :
    (a ++ [c]).foldl nest 0 = 0 := by
  rw [List.foldl_append, hDepth]
  exact nest_of_not_isBrace (not_isBrace_of_separatesWords hClass) 0

theorem lt_length_of_separatesAt
    {t : Text}
    {i : Nat}
    (h : t.separatesAt i = true) : i < t.length := by
  rw [separatesAt, Bool.and_eq_true, Option.any_eq_true] at h
  rcases h.1 with ⟨c, hChar, _⟩
  exact (List.getElem?_eq_some_iff.1 hChar).1

theorem wordPlaces_append
    {a : Text}
    (hDepth : a.foldl nest 0 = 0)
    (b : Text) :
    wordPlaces (a ++ b) =
      a.wordPlaces ++ b.wordPlaces.map (a.length + ·) := by
  have hLeft : ∀ i ∈ List.range a.length,
      (!separatesAt (a ++ b) i) = !a.separatesAt i := by
    intro i hMem
    rw [separatesAt_append_left (List.mem_range.1 hMem)]
  rw [wordPlaces, List.length_append, List.range_add,
    List.filter_append, List.filter_map, List.filter_congr hLeft]
  simp only [Function.comp_def, separatesAt_append_right hDepth]
  rfl

theorem charsAt_append_left
    {a : Text}
    {places : List Nat}
    (h : ∀ i ∈ places, i < a.length)
    (b : Text) : charsAt (a ++ b) places = a.charsAt places :=
  List.filterMap_congr
    (fun i hMem => List.getElem?_append_left (h i hMem))

theorem charsAt_append_right
    (a b : Text)
    (places : List Nat) :
    charsAt (a ++ b) (places.map (a.length + ·)) =
      b.charsAt places := by
  rw [charsAt, List.filterMap_map]
  refine List.filterMap_congr (fun i _ => ?_)
  rw [Function.comp_apply,
    List.getElem?_append_right (Nat.le_add_right _ _),
    Nat.add_sub_cancel_left]

/- All places together hold the text. -/
theorem charsAt_range (t : Text) :
    t.charsAt (List.range t.length) = t := by
  induction t using List.reverseRecOn with
  | nil => rfl
  | append_singleton rest c ih =>
      have hLeft : charsAt (rest ++ [c]) (List.range rest.length) =
          rest := by
        rw [charsAt_append_left (fun i => List.mem_range.1), ih]
      have hRight := charsAt_append_right rest [c] [0]
      rw [List.length_append, List.range_add, charsAt,
        List.filterMap_append]
      exact congrArg₂ (· ++ ·) hLeft hRight

------------------------------------------------------------
-- Words without Separators
------------------------------------------------------------

/-
  A word of some text, balanced or not: it is not empty, and no
  separator stands in it at depth zero.
-/
structure IsUnbroken (w : Text) : Prop where
  nonempty : w ≠ []
  plain : ∀ c ∈ w.outside, separatesWords c = false

/- What is read at depth zero is among the characters outside. -/
theorem mem_outside
    {t : Text}
    {i : Nat}
    {c : Char}
    (hChar : t[i]? = some c)
    (hDepth : (t.take i).foldl nest 0 = 0) : c ∈ t.outside := by
  rcases List.getElem?_eq_some_iff.1 hChar with ⟨hLt, hGet⟩
  have hText : t = t.take i ++ c :: t.drop (i + 1) := by
    rw [← hGet, ← List.drop_eq_getElem_cons hLt,
      List.take_append_drop]
  rw [hText, outside, outsideFrom_append, hDepth, outsideFrom,
    if_pos rfl]
  exact List.mem_append_right _ List.mem_cons_self

namespace IsUnbroken

variable {w : Text}

theorem separatesAt_eq_false
    (h : w.IsUnbroken)
    (i : Nat) : w.separatesAt i = false := by
  rw [separatesAt, Bool.and_eq_false_iff]
  cases hChar : w[i]? with
  | none => exact .inl rfl
  | some c =>
      by_cases hDepth : (w.take i).foldl nest 0 = 0
      · exact .inl (h.plain c (mem_outside hChar hDepth))
      · exact .inr (beq_eq_false_iff_ne.2 hDepth)

/- Every place of a word belongs to it. -/
theorem wordPlaces_eq (h : w.IsUnbroken) :
    w.wordPlaces = List.range w.length := by
  refine List.filter_eq_self.2 (fun i _ => ?_)
  rw [h.separatesAt_eq_false]
  rfl

/- A word is read up to what follows it. -/
theorem wordsFrom_append
    (h : w.IsUnbroken)
    (t : Text) :
    wordsFrom 0 [] (w ++ t) =
      wordsFrom (w.foldl nest 0) w.reverse t := by
  rw [Text.wordsFrom_append h.plain, List.append_nil]

end IsUnbroken

------------------------------------------------------------
-- One Division for Each Text
------------------------------------------------------------

/-
  The words into which separators divide a text.  A word that a
  separator follows ends at depth zero, or the separator would not
  count.
-/
inductive DividedIntoWords : Text → List Text → Prop
  | nil : DividedIntoWords [] []
  | separator
      {c : Char}
      {t : Text}
      {ws : List Text}
      (hClass : separatesWords c = true)
      (hRest : DividedIntoWords t ws) :
      DividedIntoWords (c :: t) ws
  | last
      {w : Text}
      (hWord : w.IsUnbroken) :
      DividedIntoWords w [w]
  | word
      {w t : Text}
      {c : Char}
      {ws : List Text}
      (hWord : w.IsUnbroken)
      (hDepth : w.foldl nest 0 = 0)
      (hClass : separatesWords c = true)
      (hRest : DividedIntoWords t ws) :
      DividedIntoWords (w ++ c :: t) (w :: ws)

/- One more character belongs to the outside at depth zero only. -/
theorem forall_mem_outside_concat
    {P : Char → Prop}
    {w : Text}
    {c : Char}
    (hWord : ∀ d ∈ w.outside, P d)
    (hLast : w.foldl nest 0 = 0 → P c) :
    ∀ d ∈ outside (w ++ [c]), P d := by
  intro d hMem
  rw [outside, outsideFrom_append] at hMem
  rcases List.mem_append.1 hMem with hBefore | hEnd
  · exact hWord d hBefore
  · rw [outsideFrom] at hEnd
    split at hEnd
    · rename_i hZero
      rw [List.mem_singleton.1 hEnd]
      exact hLast hZero
    · cases hEnd

/- The reader divides what it has under way and what is left. -/
theorem dividedIntoWords_wordsFrom
    {depth : Nat}
    {word : Text}
    (hDepth : word.reverse.foldl nest 0 = depth)
    (hPlain : ∀ c ∈ outside word.reverse, separatesWords c = false)
    (t : Text) :
    DividedIntoWords (word.reverse ++ t) (wordsFrom depth word t) := by
  induction t generalizing depth word with
  | nil =>
      rw [wordsFrom, List.append_nil]
      split
      · rename_i hEmpty
        rw [List.isEmpty_iff.1 hEmpty]
        exact .nil
      · rename_i hFull
        exact .last ⟨by simpa using hFull, hPlain⟩
  | cons c rest ih =>
      have hNone : DividedIntoWords rest (wordsFrom 0 [] rest) :=
        @ih 0 [] rfl (by rintro d ⟨⟩)
      rw [wordsFrom]
      split
      · rename_i hSeparates
        rcases hSeparates with ⟨rfl, hClass⟩
        split
        · rename_i hEmpty
          rw [List.isEmpty_iff.1 hEmpty]
          exact .separator hClass hNone
        · rename_i hFull
          exact .word ⟨by simpa using hFull, hPlain⟩ hDepth hClass
            hNone
      · rename_i hInside
        -- the word goes on with this character
        have hNext := @ih (nest depth c) (c :: word)
        rw [List.reverse_cons, List.append_assoc] at hNext
        refine hNext ?_ ?_
        · rw [List.foldl_append, hDepth]
          rfl
        · refine forall_mem_outside_concat hPlain (fun hZero => ?_)
          rw [hDepth] at hZero
          exact Bool.eq_false_iff.2 (fun h => hInside ⟨hZero, h⟩)

theorem dividedIntoWords_words (t : Text) :
    DividedIntoWords t t.words :=
  @dividedIntoWords_wordsFrom 0 [] rfl (by rintro c ⟨⟩) t

theorem DividedIntoWords.words_eq
    {t : Text}
    {ws : List Text}
    (h : DividedIntoWords t ws) : t.words = ws := by
  induction h with
  | nil => rfl
  | separator hClass _ ih => rw [words_cons hClass, ih]
  | @last w hWord =>
      have hRead := hWord.wordsFrom_append []
      rw [List.append_nil] at hRead
      rw [words, hRead, wordsFrom]
      simp [hWord.nonempty]
  | @word w t c ws hWord hDepth hClass _ ih =>
      rw [words, hWord.wordsFrom_append, hDepth,
        wordsFrom_separator hClass]
      simp [hWord.nonempty, ← ih, words]

theorem DividedIntoWords.forall_isUnbroken
    {t : Text}
    {ws : List Text}
    (h : DividedIntoWords t ws) : ∀ w ∈ ws, w.IsUnbroken := by
  induction h with
  | nil => exact nofun
  | separator _ _ ih => exact ih
  | last hWord => exact List.forall_mem_singleton.2 hWord
  | word hWord _ _ _ ih => exact List.forall_mem_cons.2 ⟨hWord, ih⟩

------------------------------------------------------------
-- Words Joined Again
------------------------------------------------------------

/- Whether a text may stand between words. -/
def IsGap (t : Text) : Prop :=
  t ≠ [] ∧ ∀ c ∈ t, separatesWords c = true

/- The texts with the first gaps between them. -/
def joinWith (gap : Nat → Text) : List Text → Text
  | [] => []
  | [w] => w
  | w :: u :: ws =>
      w ++ gap 0 ++ joinWith (fun n => gap (n + 1)) (u :: ws)

theorem DividedIntoWords.append_separators
    {g t : Text}
    {ws : List Text}
    (hGap : ∀ c ∈ g, separatesWords c = true)
    (h : DividedIntoWords t ws) : DividedIntoWords (g ++ t) ws := by
  induction g with
  | nil => exact h
  | cons c more ih =>
      rcases List.forall_mem_cons.1 hGap with ⟨hFirst, hMore⟩
      exact .separator hFirst (ih hMore)

/- Other gaps between the words of a text do not change them. -/
theorem DividedIntoWords.joinWith
    {t : Text}
    {ws : List Text}
    (h : DividedIntoWords t ws)
    {gap : Nat → Text}
    (hGap : ∀ n, (gap n).IsGap) :
    DividedIntoWords (Text.joinWith gap ws) ws := by
  induction h generalizing gap with
  | nil => exact .nil
  | separator _ _ ih => exact ih hGap
  | last hWord => exact .last hWord
  | @word w t c ws hWord hDepth _ _ ih =>
      cases ws with
      | nil => exact .last hWord
      | cons u more =>
          rcases hGap 0 with ⟨hNonempty, hClasses⟩
          have hRest := ih (fun n => hGap (n + 1))
          rw [Text.joinWith, List.append_assoc]
          cases hFirst : gap 0 with
          | nil => exact absurd hFirst hNonempty
          | cons d others =>
              rw [hFirst] at hClasses
              rcases List.forall_mem_cons.1 hClasses with
                ⟨hClass, hOthers⟩
              exact .word hWord hDepth hClass
                (hRest.append_separators hOthers)

------------------------------------------------------------
-- Groups of Places
------------------------------------------------------------

/- Whether no separator stands between places of one group. -/
def IsWhole
    (t : Text)
    (g : List Nat) : Prop :=
  ∀ i ∈ g, ∀ j ∈ g, ∀ k, i < k → k < j → t.separatesAt k = false

/- Whether a separator stands behind one group, before another. -/
def SeparatesGroups
    (t : Text)
    (g h : List Nat) : Prop :=
  ∃ k, t.separatesAt k = true ∧ (∀ i ∈ g, i < k) ∧ ∀ j ∈ h, k < j

section Append

variable {a : Text}
variable {g h : List Nat}

theorem IsWhole.append_left
    (hWhole : a.IsWhole g)
    (hLt : ∀ i ∈ g, i < a.length)
    (b : Text) : IsWhole (a ++ b) g := by
  intro i hi j hj k hik hkj
  rw [separatesAt_append_left (Nat.lt_trans hkj (hLt j hj))]
  exact hWhole i hi j hj k hik hkj

theorem IsWhole.append_right
    {b : Text}
    (hWhole : b.IsWhole g)
    (hDepth : a.foldl nest 0 = 0) :
    IsWhole (a ++ b) (g.map (a.length + ·)) := by
  intro i hi j hj k hik hkj
  rcases List.mem_map.1 hi with ⟨i', hi', rfl⟩
  rcases List.mem_map.1 hj with ⟨j', hj', rfl⟩
  obtain ⟨k', rfl⟩ : ∃ k', k = a.length + k' :=
    ⟨k - a.length, by omega⟩
  rw [separatesAt_append_right hDepth]
  exact hWhole i' hi' j' hj' k' (by omega) (by omega)

theorem SeparatesGroups.append_left
    (hApart : a.SeparatesGroups g h)
    (b : Text) : SeparatesGroups (a ++ b) g h := by
  rcases hApart with ⟨k, hSeparates, hBounds⟩
  refine ⟨k, ?_, hBounds⟩
  have hLt := lt_length_of_separatesAt hSeparates
  rwa [separatesAt_append_left hLt]

theorem SeparatesGroups.append_right
    {b : Text}
    (hApart : b.SeparatesGroups g h)
    (hDepth : a.foldl nest 0 = 0) :
    SeparatesGroups (a ++ b) (g.map (a.length + ·))
      (h.map (a.length + ·)) := by
  rcases hApart with ⟨k, hSeparates, hBefore, hBehind⟩
  refine ⟨a.length + k, ?_, ?_, ?_⟩
  · rwa [separatesAt_append_right hDepth]
  · exact List.forall_mem_map.2
      (fun i hi => Nat.add_lt_add_left (hBefore i hi) _)
  · exact List.forall_mem_map.2
      (fun j hj => Nat.add_lt_add_left (hBehind j hj) _)

end Append

------------------------------------------------------------
-- The Places of Each Word
------------------------------------------------------------

/-
  The places of words: each word is what stands at its places, all
  of them together are those without separators, no separator
  stands inside of a word, and one stands between any two.
-/
structure Grouped
    (t : Text)
    (ws : List Text)
    (groups : List (List Nat)) : Prop where
  words_eq : groups.map t.charsAt = ws
  flatten_eq : groups.flatten = t.wordPlaces
  whole : ∀ g ∈ groups, t.IsWhole g
  apart : groups.Pairwise t.SeparatesGroups

namespace Grouped

variable {t a b w : Text}
variable {ws us vs : List Text}
variable {groups left right : List (List Nat)}

theorem nil : Grouped [] [] [] where
  words_eq := rfl
  flatten_eq := rfl
  whole := nofun
  apart := .nil

theorem word (h : w.IsUnbroken) :
    Grouped w [w] [List.range w.length] where
  words_eq := by
    rw [List.map_singleton, charsAt_range]
  flatten_eq := by
    rw [h.wordPlaces_eq, List.flatten_singleton]
  whole := fun _ _ _ _ _ _ k _ _ => h.separatesAt_eq_false k
  apart := List.pairwise_singleton _ _

theorem lt_length
    (h : t.Grouped ws groups)
    {g : List Nat}
    (hGroup : g ∈ groups) : ∀ i ∈ g, i < t.length := by
  intro i hMem
  have hPlace : i ∈ t.wordPlaces := by
    rw [← h.flatten_eq]
    exact List.mem_flatten_of_mem hGroup hMem
  exact List.mem_range.1 (List.mem_filter.1 hPlace).1

/-
  Two texts with a separator between them: the places in the
  second are counted on.
-/
theorem append
    {c : Char}
    (ha : a.Grouped us left)
    (hb : b.Grouped vs right)
    (hDepth : a.foldl nest 0 = 0)
    (hClass : separatesWords c = true) :
    Grouped (a ++ c :: b) (us ++ vs)
      (left ++ right.map (List.map ((a ++ [c]).length + ·))) where
  words_eq := by
    have hLeft : left.map (charsAt (a ++ c :: b)) =
        left.map a.charsAt := by
      refine List.map_congr_left (fun g hGroup => ?_)
      exact charsAt_append_left (ha.lt_length hGroup) _
    rw [List.map_append, hLeft, ha.words_eq, ← hb.words_eq,
      List.map_map, List.append_cons a c b]
    refine congrArg (us ++ ·) (List.map_congr_left ?_)
    exact fun g _ => charsAt_append_right (a ++ [c]) b g
  flatten_eq := by
    have hNone : wordPlaces [c] = [] := by
      simpa [wordPlaces] using separatesAt_cons hClass []
    rw [List.flatten_append, ← List.map_flatten, ha.flatten_eq,
      hb.flatten_eq, List.append_cons a c b,
      wordPlaces_append (foldl_nest_concat hDepth hClass),
      wordPlaces_append hDepth, hNone, List.map_nil,
      List.append_nil]
  whole := by
    refine List.forall_mem_append.2 ⟨?_, ?_⟩
    · intro g hGroup
      exact (ha.whole g hGroup).append_left
        (ha.lt_length hGroup) _
    · rw [List.append_cons a c b]
      exact List.forall_mem_map.2 (fun g hGroup =>
        (hb.whole g hGroup).append_right
          (foldl_nest_concat hDepth hClass))
  apart := by
    refine List.pairwise_append.2 ⟨?_, ?_, ?_⟩
    · exact ha.apart.imp (fun h => h.append_left _)
    · rw [List.append_cons a c b]
      exact List.pairwise_map.2 (hb.apart.imp (fun h =>
        h.append_right (foldl_nest_concat hDepth hClass)))
    · -- the separator itself stands between the two
      intro g hGroup h hOther
      rcases List.mem_map.1 hOther with ⟨h', _, rfl⟩
      refine ⟨a.length, ?_, ?_, ?_⟩
      · exact (separatesAt_append_right hDepth (c :: b) 0).trans
          (separatesAt_cons hClass b)
      · exact ha.lt_length hGroup
      · refine List.forall_mem_map.2 (fun j _ => ?_)
        rw [List.length_append, List.length_singleton]
        omega

/-
  Two places belong to the same word if and only if no separator
  stands between them.
-/
theorem exists_group_iff
    (h : t.Grouped ws groups)
    {i j : Nat}
    (hi : i ∈ t.wordPlaces)
    (hj : j ∈ t.wordPlaces)
    (hLe : i ≤ j) :
    (∃ g ∈ groups, i ∈ g ∧ j ∈ g) ↔
      ∀ k, i < k → k < j → t.separatesAt k = false := by
  constructor
  · rintro ⟨g, hGroup, hFirst, hLast⟩
    exact h.whole g hGroup i hFirst j hLast
  · intro hNone
    rw [← h.flatten_eq] at hi hj
    rcases List.mem_flatten.1 hi with ⟨g, hGroup, hFirst⟩
    rcases List.mem_flatten.1 hj with ⟨g', hGroup', hLast⟩
    rcases List.getElem_of_mem hGroup with ⟨m, hm, rfl⟩
    rcases List.getElem_of_mem hGroup' with ⟨n, hn, rfl⟩
    have hApart := List.pairwise_iff_getElem.1 h.apart
    rcases Nat.lt_trichotomy m n with hLt | rfl | hGt
    · rcases hApart m n hm hn hLt with ⟨k, hk, hBefore, hBehind⟩
      rw [hNone k (hBefore i hFirst) (hBehind j hLast)] at hk
      cases hk
    · exact ⟨_, hGroup, hFirst, hLast⟩
    · rcases hApart n m hn hm hGt with ⟨k, _, hBefore, hBehind⟩
      have hLess := hBefore j hLast
      have hMore := hBehind i hFirst
      omega

end Grouped

/- The words of a text have places, which follow its division. -/
theorem DividedIntoWords.exists_grouped
    {t : Text}
    {ws : List Text}
    (h : DividedIntoWords t ws) : ∃ groups, t.Grouped ws groups := by
  induction h with
  | nil => exact ⟨[], .nil⟩
  | separator hClass _ ih =>
      rcases ih with ⟨groups, hGroups⟩
      exact ⟨_, Grouped.nil.append hGroups rfl hClass⟩
  | last hWord => exact ⟨_, .word hWord⟩
  | word hWord hDepth hClass _ ih =>
      rcases ih with ⟨groups, hGroups⟩
      exact ⟨_, (Grouped.word hWord).append hGroups hDepth hClass⟩

------------------------------------------------------------
-- Words Partition the Text
------------------------------------------------------------

/-
  The words of a text, balanced or not.  None is empty, and one
  behind the other they are the text without its separators at
  depth zero.  Each word is what stands at its places, which leaves
  one way to group them, and two places belong to the same word if
  and only if no separator stands between them.  With any gaps
  between them the words are found again, and those of a balanced
  text are balanced.
-/
theorem words_partition (t : Text) :
    (∀ w ∈ t.words, w ≠ []) ∧
      t.words.flatten = t.charsAt t.wordPlaces ∧
      (∃ groups : List (List Nat),
        groups.map t.charsAt = t.words ∧
          groups.flatten = t.wordPlaces ∧
          ∀ i ∈ t.wordPlaces, ∀ j ∈ t.wordPlaces, i ≤ j →
            ((∃ g ∈ groups, i ∈ g ∧ j ∈ g) ↔
              ∀ k, i < k → k < j → t.separatesAt k = false)) ∧
      (∀ gap : Nat → Text, (∀ n, (gap n).IsGap) →
        (joinWith gap t.words).words = t.words) ∧
      (t.isBalanced = true →
        ∀ w ∈ t.words, w.isBalanced = true) := by
  have hDivided := dividedIntoWords_words t
  rcases hDivided.exists_grouped with ⟨groups, hGroups⟩
  refine ⟨?_, ?_, ⟨groups, hGroups.words_eq, hGroups.flatten_eq, ?_⟩,
    ?_, ?_⟩
  · exact fun w hMem => (hDivided.forall_isUnbroken w hMem).nonempty
  · rw [← hGroups.words_eq, ← hGroups.flatten_eq]
    exact List.filterMap_flatten.symm
  · exact fun i hi j hj hLe => hGroups.exists_group_iff hi hj hLe
  · exact fun gap hGap => (hDivided.joinWith hGap).words_eq
  · exact fun hBalanced w hMem =>
      isBalanced_of_mem_words hBalanced hMem

/-
  Words with a brace too many, with separators in a group, and
  with a group that is left open.
-/
def unevenWords : Text :=
  "a\x7d \x7bb c\x7d~ \x7bd e".toList

theorem words_partition_unevenWords :
    unevenWords.isBalanced = false ∧
      unevenWords.words =
        ["a\x7d".toList, "\x7bb c\x7d".toList, "\x7bd e".toList] ∧
      (∀ n, IsGap (List.replicate (n + 1) '~')) ∧
      words "a\x7d~\x7bb c\x7d~~\x7bd e".toList =
        unevenWords.words ∧
      ∃ groups : List (List Nat),
        groups.map unevenWords.charsAt = unevenWords.words ∧
          (∃ g ∈ groups, 4 ∈ g ∧ 6 ∈ g) ∧
          ¬ ∃ g ∈ groups, 1 ∈ g ∧ 3 ∈ g := by
  have hGap : ∀ n, IsGap (List.replicate (n + 1) '~') := by
    intro n
    refine ⟨List.cons_ne_nil _ _, fun c hMem => ?_⟩
    rw [List.eq_of_mem_replicate hMem]
    decide
  rcases words_partition unevenWords with
    ⟨_, _, ⟨groups, hChars, _, hSame⟩, hJoin, _⟩
  refine ⟨by decide, by decide, hGap, hJoin _ hGap, groups, hChars,
    ?_, ?_⟩
  · refine (hSame 4 (by decide) 6 (by decide) (by decide)).2 ?_
    intro k hLow hHigh
    obtain rfl : k = 5 := by omega
    decide
  · intro hGroup
    have hNone := (hSame 1 (by decide) 3 (by decide) (by decide)).1
      hGroup 2 (by decide) (by decide)
    exact absurd hNone (by decide)

end Text

end Bibliography
