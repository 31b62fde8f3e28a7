import Bibliography.Proofs.Text.Spacing
import Bibliography.Proofs.Unicode.Ascii

/-
  Balanced texts and the pieces into which they are divided.

  The depth after a text is followed from left to right; where a
  group is closed that was not opened there is none.  Only the
  braces of a text matter.  What is cut from a balanced text at
  depth zero is balanced.

  Key definitions include:
    * `Text.depthAfter?`

  Key statements include:
    * `Text.isBalanced_append`
    * `Text.isBalanced_of_filter_eq`
    * `Text.isBalanced_of_mem_splitOutside`
    * `Text.isBalanced_of_mem_words`
-/

------------------------------------------------------------
-- The Depth after a Text
------------------------------------------------------------

namespace Bibliography

namespace Text

/- The depth after a text, unless it falls below zero. -/
def depthAfter? : Nat → Text → Option Nat
  | depth, [] => some depth
  | depth, c :: rest =>
      if c = '}' ∧ depth = 0 then none
      else depthAfter? (nest depth c) rest

theorem depthAfter?_append
    (depth : Nat)
    (a b : Text) :
    depthAfter? depth (a ++ b) =
      (depthAfter? depth a).bind (fun d => depthAfter? d b) := by
  induction a generalizing depth with
  | nil => rfl
  | cons c rest ih =>
      rw [List.cons_append, depthAfter?, depthAfter?]
      split
      · rfl
      · exact ih (nest depth c)

/- Balance is that the depth falls to zero at the end. -/
theorem balancedFrom_iff
    {depth : Nat}
    {t : Text} :
    balancedFrom depth t = true ↔
      depthAfter? depth t = some 0 := by
  induction t generalizing depth with
  | nil => simp [balancedFrom, depthAfter?]
  | cons c rest ih =>
      rw [balancedFrom, depthAfter?]
      split
      · simp
      · exact ih

theorem isBalanced_iff
    {t : Text} :
    t.isBalanced = true ↔ depthAfter? 0 t = some 0 :=
  balancedFrom_iff

------------------------------------------------------------
-- Balance of Joined Texts
------------------------------------------------------------

@[simp]
theorem isBalanced_nil : isBalanced [] = true := rfl

/- Two balanced texts make a balanced text. -/
theorem isBalanced_append
    {a b : Text}
    (ha : a.isBalanced = true)
    (hb : b.isBalanced = true) :
    (a ++ b).isBalanced = true := by
  rw [isBalanced_iff] at *
  rw [depthAfter?_append, ha]
  exact hb

/- What follows a balanced beginning is balanced. -/
theorem isBalanced_of_append
    {a b : Text}
    (h : (a ++ b).isBalanced = true)
    (ha : a.isBalanced = true) :
    b.isBalanced = true := by
  rw [isBalanced_iff] at *
  rw [depthAfter?_append, ha] at h
  exact h

/- Other characters than braces leave the depth as it is. -/
theorem nest_of_not_isBrace
    {c : Char}
    (h : isBrace c = false)
    (depth : Nat) : nest depth c = depth := by
  rw [isBrace, Bool.or_eq_false_iff, beq_eq_false_iff_ne,
    beq_eq_false_iff_ne] at h
  rw [nest, if_neg h.1, if_neg h.2]

/- A text without braces leaves the depth as it is. -/
theorem foldl_nest_of_forall_not
    {t : Text}
    (h : ∀ c ∈ t, isBrace c = false)
    (depth : Nat) : t.foldl nest depth = depth := by
  induction t generalizing depth with
  | nil => rfl
  | cons c rest ih =>
      rcases List.forall_mem_cons.1 h with ⟨hFirst, hRest⟩
      rw [List.foldl_cons, nest_of_not_isBrace hFirst, ih hRest]

/- Only the braces of a text decide its balance. -/
theorem depthAfter?_filter_isBrace
    (depth : Nat)
    (t : Text) :
    depthAfter? depth (t.filter isBrace) =
      depthAfter? depth t := by
  induction t generalizing depth with
  | nil => rfl
  | cons c rest ih =>
      cases hBrace : isBrace c with
      | true =>
          rw [List.filter_cons_of_pos hBrace, depthAfter?,
            depthAfter?, ih]
      | false =>
          have hClose : c ≠ '}' := by
            rintro rfl
            cases hBrace
          rw [List.filter_cons_of_neg (by simp [hBrace]),
            depthAfter?, if_neg (fun h => hClose h.1),
            nest_of_not_isBrace hBrace, ih]

/- Texts with the same braces are balanced together. -/
theorem isBalanced_of_filter_eq
    {a b : Text}
    (hBraces : a.filter isBrace = b.filter isBrace)
    (h : a.isBalanced = true) : b.isBalanced = true := by
  rw [isBalanced_iff] at *
  rw [← depthAfter?_filter_isBrace, ← hBraces,
    depthAfter?_filter_isBrace, h]

/- A text without braces is balanced. -/
theorem isBalanced_of_forall_not
    {t : Text}
    (h : ∀ c ∈ t, isBrace c = false) : t.isBalanced = true := by
  refine isBalanced_of_filter_eq (a := []) ?_ isBalanced_nil
  rw [List.filter_nil, eq_comm, List.filter_eq_nil_iff]
  intro c hMem
  simp [h c hMem]

/- Balanced texts joined by a balanced separator are balanced. -/
theorem isBalanced_join
    {separator : Text}
    {parts : List Text}
    (hSeparator : separator.isBalanced = true)
    (hParts : ∀ t ∈ parts, t.isBalanced = true) :
    (join separator parts).isBalanced = true := by
  induction parts with
  | nil => rfl
  | cons t rest ih =>
      rcases List.forall_mem_cons.1 hParts with ⟨hFirst, hRest⟩
      cases rest with
      | nil => rwa [join_singleton]
      | cons u more =>
          rw [join_cons_cons]
          exact isBalanced_append hFirst
            (isBalanced_append hSeparator (ih hRest))

/- White space is no brace. -/
theorem not_isBrace_of_isSpace
    (c : Char)
    (h : Character.isSpace c = true) : isBrace c = false := by
  apply Bool.eq_false_iff.2
  intro hBrace
  rw [isBrace, Bool.or_eq_true, beq_iff_eq, beq_iff_eq] at hBrace
  rcases hBrace with rfl | rfl <;> exact absurd h (by decide)

theorem isBalanced_trim
    {t : Text}
    (h : t.isBalanced = true) : t.trim.isBalanced = true :=
  isBalanced_of_filter_eq
    (filter_trim not_isBrace_of_isSpace t).symm h

theorem isBalanced_normalizeSpace
    {t : Text}
    (h : t.isBalanced = true) :
    t.normalizeSpace.isBalanced = true :=
  isBalanced_of_filter_eq
    (filter_normalizeSpace not_isBrace_of_isSpace t).symm h

------------------------------------------------------------
-- Pieces of Balanced Texts
------------------------------------------------------------

theorem balancedFrom_cons
    {depth : Nat}
    {c : Char}
    {rest : Text} :
    balancedFrom depth (c :: rest) = true ↔
      ¬ (c = '}' ∧ depth = 0) ∧
        balancedFrom (nest depth c) rest = true := by
  rw [balancedFrom]
  split <;> simp_all

/- ASCII case does not make or hide a brace. -/
theorem isBrace_lowerAscii (c : Char) :
    isBrace (Character.lowerAscii c) = isBrace c := by
  cases h : Character.isAscii c with
  | true =>
      exact Character.forall_ascii
        (P := fun c =>
          isBrace (Character.lowerAscii c) = isBrace c)
        (by decide) h
  | false => rw [Character.lowerAscii_of_not_isAscii h]

/- A separator without braces is found in a text without braces. -/
theorem not_isBrace_of_beginsWith
    {separator t : Text}
    (hSeparator : ∀ c ∈ separator, isBrace c = false)
    (h : beginsWith separator t = true) :
    ∀ c ∈ t.take separator.length, isBrace c = false := by
  induction separator generalizing t with
  | nil => simp
  | cons s more ih =>
      rcases List.forall_mem_cons.1 hSeparator with ⟨hFirst, hMore⟩
      cases t with
      | nil => simp
      | cons c rest =>
          rw [beginsWith, Bool.and_eq_true, beq_iff_eq] at h
          rw [List.length_cons, List.take_succ_cons,
            List.forall_mem_cons]
          constructor
          · rw [← isBrace_lowerAscii, ← h.1, isBrace_lowerAscii,
              hFirst]
          · exact ih hMore h.2

/- A cut at depth zero leaves balance on both sides. -/
theorem balancedFrom_of_cut?
    {separator : Text}
    (hSeparator : ∀ c ∈ separator, isBrace c = false)
    {depth : Nat}
    {t piece after : Text}
    (h : cut? separator depth t = some (piece, after))
    (hBalanced : balancedFrom depth t = true) :
    balancedFrom depth piece = true ∧
      after.isBalanced = true := by
  induction t generalizing depth piece with
  | nil => simp [cut?] at h
  | cons c rest ih =>
      rw [cut?] at h
      split at h
      · rename_i hCut
        rcases hCut with ⟨rfl, _, hBegins⟩
        cases h
        constructor
        · rfl
        · have hFound :=
            not_isBrace_of_beginsWith hSeparator hBegins
          rw [← List.take_append_drop separator.length (c :: rest)]
            at hBalanced
          exact isBalanced_of_append hBalanced
            (isBalanced_of_forall_not hFound)
      · rcases balancedFrom_cons.1 hBalanced with ⟨hOpen, hRest⟩
        cases hCut : cut? separator (nest depth c) rest with
        | none => simp [hCut] at h
        | some found =>
            rcases found with ⟨piece', after'⟩
            simp only [hCut, Option.some.injEq,
              Prod.mk.injEq] at h
            rcases h with ⟨rfl, rfl⟩
            rcases ih hCut hRest with ⟨hPiece, hAfter⟩
            exact ⟨balancedFrom_cons.2 ⟨hOpen, hPiece⟩, hAfter⟩

/- The pieces of a balanced text are balanced. -/
theorem isBalanced_of_mem_splitOutside
    {separator t piece : Text}
    (hSeparator : separator.any isBrace = false)
    (hBalanced : t.isBalanced = true)
    (hMem : piece ∈ splitOutside separator t) :
    piece.isBalanced = true := by
  have hNone : ∀ c ∈ separator, isBrace c = false := by
    intro c hIn
    exact Bool.eq_false_iff.2 (List.any_eq_false.1 hSeparator c hIn)
  fun_induction splitOutside separator t with
  | case1 t hNonempty hCut =>
      rw [List.mem_singleton.1 hMem]
      exact hBalanced
  | case2 t hNonempty first after hCut ih =>
      rcases balancedFrom_of_cut? hNone hCut hBalanced with
        ⟨hFirst, hAfter⟩
      rcases List.mem_cons.1 hMem with rfl | hRest
      · exact hFirst
      · exact ih hAfter hRest
  | case3 t hEmpty =>
      rw [List.mem_singleton.1 hMem]
      exact hBalanced

/- Separators of words are no braces. -/
theorem not_isBrace_of_separatesWords
    {c : Char}
    (h : separatesWords c = true) : isBrace c = false := by
  rw [separatesWords, Bool.or_eq_true, beq_iff_eq] at h
  rcases h with hSpace | rfl
  · exact not_isBrace_of_isSpace c hSpace
  · rfl

/-
  The words of a balanced text are balanced, also when a word is
  under way that has opened `depth` groups.
-/
theorem isBalanced_of_mem_wordsFrom
    {depth : Nat}
    {word t w : Text}
    (hWord : depthAfter? 0 word.reverse = some depth)
    (hBalanced : balancedFrom depth t = true)
    (hMem : w ∈ wordsFrom depth word t) :
    w.isBalanced = true := by
  induction t generalizing depth word with
  | nil =>
      rw [wordsFrom] at hMem
      split at hMem
      · cases hMem
      · rw [List.mem_singleton.1 hMem, isBalanced_iff, hWord]
        exact balancedFrom_iff.1 hBalanced
  | cons c rest ih =>
      rcases balancedFrom_cons.1 hBalanced with ⟨hOpen, hRest⟩
      rw [wordsFrom] at hMem
      split at hMem
      · rename_i hSeparates
        rcases hSeparates with ⟨rfl, hClass⟩
        have hZero : nest 0 c = 0 :=
          nest_of_not_isBrace (not_isBrace_of_separatesWords hClass) 0
        rw [hZero] at hRest
        split at hMem
        · exact ih rfl hRest hMem
        · rcases List.mem_cons.1 hMem with rfl | hLater
          · exact isBalanced_iff.2 hWord
          · exact ih rfl hRest hLater
      · refine ih ?_ hRest hMem
        rw [List.reverse_cons, depthAfter?_append, hWord,
          Option.bind_some, depthAfter?, if_neg hOpen, depthAfter?]

/- The words of a balanced text are balanced. -/
theorem isBalanced_of_mem_words
    {t w : Text}
    (hBalanced : t.isBalanced = true)
    (hMem : w ∈ t.words) : w.isBalanced = true :=
  isBalanced_of_mem_wordsFrom rfl hBalanced hMem

/- The names of a balanced list are balanced. -/
theorem isBalanced_of_mem_splitNames
    {t name : Text}
    (hBalanced : t.isBalanced = true)
    (hMem : name ∈ t.splitNames) : name.isBalanced = true := by
  rw [splitNames] at hMem
  split at hMem
  · cases hMem
  · rcases List.mem_map.1 hMem with ⟨piece, hPiece, rfl⟩
    exact isBalanced_trim
      (isBalanced_of_mem_splitOutside rfl hBalanced hPiece)

end Text

end Bibliography
