import Bibliography.Proofs.Text.Utf8

/-
  Splitting text outside of braces loses nothing and misses
  nothing.

  A cut is where the separator stands first, in whatever case, at
  depth zero.  So the pieces and the separators between them make
  up the text, and no piece can be split again.  Where the text is
  read byte by byte, as its UTF-8 form, the cuts are the same: no
  character is ever divided.

  Key definitions include:
    * `Bytes.cut?`
    * `Bytes.split`
    * `Text.Cut`

  Key statements include:
    * `Text.exists_of_cut?`
    * `Bytes.split_toBytes`
    * `Text.splitOutside_exact`
-/

------------------------------------------------------------
-- Splitting Bytes
------------------------------------------------------------

namespace Bibliography

namespace Bytes

/- The bytes of the braces. -/
def isBrace (b : UInt8) : Bool :=
  b == 123 || b == 125

/- The brace depth after one more byte. -/
def nest
    (depth : Nat)
    (b : UInt8) : Nat :=
  if b = 123 then depth + 1
  else if b = 125 then depth - 1
  else depth

/-
  Whether bytes begin with the separator, those of ASCII letters
  being compared without regard to case.
-/
def beginsWith (separator bs : Bytes) : Bool :=
  (separator.map lowerAscii).isPrefixOf (bs.map lowerAscii)

/- The bytes before and after the first separator at depth zero. -/
def cut? (separator : Bytes) : Nat → Bytes → Option (Bytes × Bytes)
  | _, [] => none
  | depth, b :: rest =>
      if depth = 0 ∧ isBrace b = false ∧
          beginsWith separator (b :: rest) = true then
        some ([], (b :: rest).drop separator.length)
      else
        match cut? separator (nest depth b) rest with
        | none => none
        | some (piece, after) => some (b :: piece, after)

/- What follows a cut is shorter. -/
theorem cut?_length_lt
    {separator : Bytes}
    (hNonempty : separator ≠ [])
    {depth : Nat}
    {bs piece after : Bytes}
    (h : cut? separator depth bs = some (piece, after)) :
    after.length < bs.length := by
  have hPos : 0 < separator.length :=
    List.length_pos_iff.2 hNonempty
  induction bs generalizing depth piece with
  | nil => simp [cut?] at h
  | cons b rest ih =>
      rw [cut?] at h
      split at h
      · cases h
        simp only [List.length_drop, List.length_cons]
        omega
      · split at h
        · cases h
        · rename_i hCut
          cases h
          have hShorter := ih hCut
          rw [List.length_cons]
          omega

/- The pieces between the separators at depth zero. -/
def split
    (separator bs : Bytes) : List Bytes :=
  if _hNonempty : separator ≠ [] then
    match _hCut : cut? separator 0 bs with
    | none => [bs]
    | some (piece, after) => piece :: split separator after
  else [bs]
termination_by bs.length
decreasing_by exact cut?_length_lt _hNonempty _hCut

theorem split_of_cut?_none
    {separator bs : Bytes}
    (h : cut? separator 0 bs = none) :
    split separator bs = [bs] := by
  rw [split]
  split
  · split
    · rfl
    · rename_i hCut
      rw [h] at hCut
      cases hCut
  · rfl

theorem split_of_cut?_some
    {separator bs piece after : Bytes}
    (hNonempty : separator ≠ [])
    (h : cut? separator 0 bs = some (piece, after)) :
    split separator bs = piece :: split separator after := by
  rw [split, dif_pos hNonempty]
  split
  · rename_i hCut
    rw [h] at hCut
    cases hCut
  · rename_i hCut
    rw [h] at hCut
    cases hCut
    rfl

/- Inside of a character nothing is cut. -/
theorem cut?_append_of_inner
    {first : UInt8}
    (hFirst : first.IsUTF8FirstByte)
    {inner : Bytes}
    (hInner : ∀ b ∈ inner, ¬ b.IsUTF8FirstByte)
    (separator : Bytes)
    (depth : Nat)
    (bs : Bytes) :
    cut? (first :: separator) depth (inner ++ bs) =
      (cut? (first :: separator) depth bs).map
        (fun found => (inner ++ found.1, found.2)) := by
  induction inner with
  | nil => simp
  | cons b more ih =>
      rcases List.forall_mem_cons.1 hInner with ⟨hNot, hMore⟩
      have hOpens : b ≠ 123 := by
        rintro rfl
        exact hNot (by decide)
      have hCloses : b ≠ 125 := by
        rintro rfl
        exact hNot (by decide)
      have hBegins : ¬ (depth = 0 ∧ isBrace b = false ∧
          beginsWith (first :: separator) (b :: (more ++ bs)) =
            true) := by
        rintro ⟨_, _, hPrefix⟩
        rw [beginsWith, List.isPrefixOf_iff_prefix, List.map_cons,
          List.map_cons, List.cons_prefix_cons] at hPrefix
        apply hNot
        rwa [← isUTF8FirstByte_lowerAscii, ← hPrefix.1,
          isUTF8FirstByte_lowerAscii]
      rw [List.cons_append, cut?, if_neg hBegins, nest, if_neg hOpens,
        if_neg hCloses, ih hMore]
      cases cut? (first :: separator) depth bs with
      | none => rfl
      | some found => rfl

end Bytes

------------------------------------------------------------
-- Splitting the UTF-8 Form
------------------------------------------------------------

namespace Text

/- The first byte of a character tells whether it is an ASCII one. -/
theorem first_eq_iff
    {c d : Char}
    {first byte : UInt8}
    {more : Bytes}
    (hBytes : String.utf8EncodeChar c = first :: more)
    (hByte : String.utf8EncodeChar d = [byte]) :
    first = byte ↔ c = d := by
  constructor
  · intro hSame
    have hPrefix : toBytes [d] <+: toBytes [c] := by
      rw [toBytes_cons, toBytes_cons, hBytes, hByte, hSame]
      exact ⟨more, by simp [toBytes]⟩
    have hChars := toBytes_prefix_iff.1 hPrefix
    rw [List.cons_prefix_cons] at hChars
    exact hChars.1.symm
  · rintro rfl
    rw [hBytes] at hByte
    exact (List.cons.inj hByte).1

theorem isBrace_first
    {c : Char}
    {first : UInt8}
    {more : Bytes}
    (h : String.utf8EncodeChar c = first :: more) :
    Bytes.isBrace first = isBrace c := by
  rw [Bytes.isBrace, isBrace, Bool.eq_iff_iff, Bool.or_eq_true,
    Bool.or_eq_true, beq_iff_eq, beq_iff_eq, beq_iff_eq, beq_iff_eq,
    @first_eq_iff c '{' first 123 more h (by decide),
    @first_eq_iff c '}' first 125 more h (by decide)]

theorem nest_first
    {c : Char}
    {first : UInt8}
    {more : Bytes}
    (h : String.utf8EncodeChar c = first :: more)
    (depth : Nat) : Bytes.nest depth first = nest depth c := by
  have hOpens := @first_eq_iff c '{' first 123 more h (by decide)
  have hCloses := @first_eq_iff c '}' first 125 more h (by decide)
  simp only [Bytes.nest, nest, hOpens, hCloses]

/- A text begins with the separator where its bytes do. -/
theorem beginsWith_toBytes
    (separator t : Text) :
    Bytes.beginsWith separator.toBytes t.toBytes =
      beginsWith separator t := by
  rw [Bool.eq_iff_iff, Bytes.beginsWith, List.isPrefixOf_iff_prefix,
    ← toBytes_lowerAscii, ← toBytes_lowerAscii, toBytes_prefix_iff,
    beginsWith_iff]
  constructor
  · rintro ⟨more, hLower⟩
    rcases List.map_eq_append_iff.1 hLower.symm with
      ⟨u, v, rfl, hFound, _⟩
    exact ⟨u, v, rfl, hFound⟩
  · rintro ⟨u, v, rfl, hLower⟩
    refine ⟨v.lowerAscii, ?_⟩
    rw [← hLower]
    exact List.map_append.symm

/- Passing over the separator is passing over its bytes. -/
theorem drop_toBytes
    {separator t : Text}
    (h : beginsWith separator t = true) :
    t.toBytes.drop separator.toBytes.length =
      toBytes (t.drop separator.length) := by
  rcases beginsWith_iff.1 h with ⟨u, v, rfl, hLower⟩
  have hLength : u.length = separator.length := by
    simpa [lowerAscii] using congrArg List.length hLower
  have hBytes : u.toBytes.length = separator.toBytes.length := by
    have hSame := congrArg (fun t => (toBytes t).length) hLower
    simpa [toBytes_lowerAscii] using hSame
  rw [← hLength, ← hBytes, toBytes_append, List.drop_left,
    List.drop_left]

/- The first cut in the bytes is the one in the text. -/
theorem cut?_toBytes
    {separator : Text}
    (hNonempty : separator ≠ [])
    (depth : Nat)
    (t : Text) :
    Bytes.cut? separator.toBytes depth t.toBytes =
      (cut? separator depth t).map
        (fun found => (found.1.toBytes, found.2.toBytes)) := by
  induction t generalizing depth with
  | nil => rfl
  | cons c rest ih =>
      rcases exists_utf8EncodeChar c with
        ⟨first, more, hBytes, _, hInner⟩
      have hText : toBytes (c :: rest) =
          first :: (more ++ toBytes rest) := by
        rw [toBytes_cons, hBytes, List.cons_append]
      have hBegins := beginsWith_toBytes separator (c :: rest)
      rw [hText] at hBegins
      rw [hText, Bytes.cut?, cut?, hBegins, isBrace_first hBytes,
        nest_first hBytes]
      split
      · rename_i hCut
        rw [← hText, drop_toBytes hCut.2.2]
        rfl
      · rcases List.exists_cons_of_ne_nil hNonempty with
          ⟨s, others, rfl⟩
        rcases exists_utf8EncodeChar s with
          ⟨head, tail, hHead, hFirst, _⟩
        have hSeparator : toBytes (s :: others) =
            head :: (tail ++ toBytes others) := by
          rw [toBytes_cons, hHead, List.cons_append]
        have hInside := Bytes.cut?_append_of_inner hFirst hInner
          (tail ++ toBytes others) (nest depth c) (toBytes rest)
        rw [← hSeparator] at hInside
        rw [hInside, ih]
        cases cut? (s :: others) (nest depth c) rest with
        | none => rfl
        | some found =>
            simp only [Option.map_some, Option.some.injEq,
              Prod.mk.injEq, and_true]
            rw [toBytes_cons, hBytes, List.cons_append]

/- The bytes are split into the bytes of the pieces. -/
theorem split_toBytes
    {separator : Text}
    (hNonempty : separator ≠ [])
    (t : Text) :
    Bytes.split separator.toBytes t.toBytes =
      (splitOutside separator t).map toBytes := by
  have hBytes : separator.toBytes ≠ [] := by
    intro hNil
    have hPrefix : separator <+: [] :=
      toBytes_prefix_iff.1 ⟨[], by rw [hNil]; rfl⟩
    exact hNonempty (List.prefix_nil.1 hPrefix)
  fun_induction splitOutside separator t with
  | case1 t _ hCut =>
      apply Bytes.split_of_cut?_none
      rw [cut?_toBytes hNonempty, hCut]
      rfl
  | case2 t _ piece after hCut ih =>
      have hFound := cut?_toBytes hNonempty 0 t
      rw [hCut] at hFound
      rw [Bytes.split_of_cut?_some hBytes hFound, ih,
        List.map_cons]
  | case3 t hEmpty => exact absurd hNonempty hEmpty

------------------------------------------------------------
-- Cuts
------------------------------------------------------------

/- A cut is a separator at depth zero, in whatever case. -/
theorem exists_of_cut?
    {separator : Text}
    {depth : Nat}
    {t piece after : Text}
    (h : cut? separator depth t = some (piece, after)) :
    ∃ found : Text, t = piece ++ found ++ after ∧
      found.lowerAscii = separator.lowerAscii ∧
      piece.foldl nest depth = 0 := by
  induction t generalizing depth piece with
  | nil => simp [cut?] at h
  | cons c rest ih =>
      rw [cut?] at h
      split at h
      · rename_i hCut
        rcases hCut with ⟨rfl, _, hBegins⟩
        rcases beginsWith_iff.1 hBegins with
          ⟨found, more, hText, hLower⟩
        have hLength : found.length = separator.length := by
          simpa [lowerAscii] using congrArg List.length hLower
        cases h
        refine ⟨found, ?_, hLower, rfl⟩
        rw [hText, ← hLength, List.drop_left, List.nil_append]
      · split at h
        · cases h
        · rename_i hCut
          cases h
          rcases ih hCut with ⟨found, rfl, hLower, hDepth⟩
          exact ⟨found, rfl, hLower, hDepth⟩

/- Before the cut there is none. -/
theorem cut?_piece_eq_none
    {separator : Text}
    {depth : Nat}
    {t piece after : Text}
    (h : cut? separator depth t = some (piece, after)) :
    cut? separator depth piece = none := by
  induction t generalizing depth piece with
  | nil => simp [cut?] at h
  | cons c rest ih =>
      rw [cut?] at h
      split at h
      · cases h
        rfl
      · rename_i hNot
        split at h
        · cases h
        · rename_i hCut
          cases h
          rcases exists_of_cut? hCut with ⟨found, rfl, _, _⟩
          rw [cut?, if_neg, ih hCut]
          rintro ⟨hZero, hBrace, hBegins⟩
          rcases beginsWith_iff.1 hBegins with ⟨u, v, hText, hLower⟩
          refine hNot ⟨hZero, hBrace, beginsWith_iff.2
            ⟨u, v ++ (found ++ after), ?_, hLower⟩⟩
          rw [← List.append_assoc u, ← hText, List.cons_append,
            List.append_assoc]

/- A piece and the separator in front of it. -/
structure Cut where
  separator : Text
  piece : Text

/- The text of both. -/
def Cut.text (c : Cut) : Text :=
  c.separator ++ c.piece

/- What equals the separator up to case has no braces, either. -/
theorem forall_not_isBrace_of_lowerAscii
    {separator found : Text}
    (hSeparator : separator.any isBrace = false)
    (h : found.lowerAscii = separator.lowerAscii) :
    ∀ c ∈ found, isBrace c = false := by
  intro c hMem
  have hLower : Character.lowerAscii c ∈ separator.lowerAscii := by
    rw [← h]
    exact List.mem_map_of_mem hMem
  rcases List.mem_map.1 hLower with ⟨s, hIn, hSame⟩
  have hBrace := Bool.eq_false_iff.2
    (List.any_eq_false.1 hSeparator s hIn)
  rwa [← isBrace_lowerAscii, ← hSame, isBrace_lowerAscii]

/- The pieces and separators make up the text, in order. -/
theorem exists_cuts
    {separator : Text}
    (hSeparator : separator.any isBrace = false)
    (t : Text) :
    ∃ (first : Text) (cuts : List Cut),
      splitOutside separator t = first :: cuts.map Cut.piece ∧
        t = first ++ cuts.flatMap Cut.text ∧
        ∀ before c after, cuts = before ++ c :: after →
          c.separator.lowerAscii = separator.lowerAscii ∧
            (first ++ before.flatMap Cut.text).foldl nest 0 = 0 := by
  fun_induction splitOutside separator t with
  | case1 t _ hCut =>
      refine ⟨t, [], rfl, (List.append_nil t).symm, ?_⟩
      intro before c after hCuts
      cases before <;> cases hCuts
  | case2 t _ piece after hCut ih =>
      rcases exists_of_cut? hCut with ⟨found, rfl, hLower, hDepth⟩
      rcases ih with ⟨first, cuts, hSplit, rfl, hCuts⟩
      refine ⟨piece, ⟨found, first⟩ :: cuts, ?_, ?_, ?_⟩
      · rw [hSplit]
        rfl
      · rw [List.flatMap_cons, Cut.text]
        simp only [List.append_assoc]
      · intro before c others hEq
        rcases before with _ | ⟨head, before⟩
        · cases hEq
          refine ⟨hLower, ?_⟩
          rw [List.flatMap_nil, List.append_nil, hDepth]
        · rcases List.cons.inj hEq with ⟨rfl, hRest⟩
          rcases hCuts before c others hRest with ⟨hSame, hZero⟩
          refine ⟨hSame, ?_⟩
          have hPlain :=
            forall_not_isBrace_of_lowerAscii hSeparator hLower
          rw [List.foldl_append] at hZero
          rw [List.flatMap_cons, Cut.text, List.foldl_append,
            List.foldl_append, List.foldl_append, hDepth,
            foldl_nest_of_forall_not hPlain, hZero]
  | case3 t _ =>
      refine ⟨t, [], rfl, (List.append_nil t).symm, ?_⟩
      intro before c after hCuts
      cases before <;> cases hCuts

/- No cut is left in a piece. -/
theorem splitOutside_of_mem_splitOutside
    {separator t piece : Text}
    (h : piece ∈ splitOutside separator t) :
    splitOutside separator piece = [piece] := by
  fun_induction splitOutside separator t with
  | case1 t _ hCut =>
      rw [List.mem_singleton.1 h, splitOutside_of_cut?_none hCut]
  | case2 t _ first after hCut ih =>
      rcases List.mem_cons.1 h with rfl | hLater
      · exact splitOutside_of_cut?_none (cut?_piece_eq_none hCut)
      · exact ih hLater
  | case3 t hEmpty =>
      rw [List.mem_singleton.1 h, splitOutside, dif_neg hEmpty]

/-
  Splitting at a separator without braces.  The text is the pieces
  with separators between them, which equal the given one up to
  ASCII case and begin at depth zero of the whole text.  Its UTF-8
  form, read byte by byte, is split into the UTF-8 forms of the
  pieces, so every cut is at the boundary of a character.  No
  piece is split again, and the pieces of a balanced text are
  balanced.
-/
theorem splitOutside_exact
    (separator t : Text)
    (hNonempty : separator ≠ [])
    (hBraces : separator.any isBrace = false) :
    (∃ (first : Text) (cuts : List Cut),
      splitOutside separator t = first :: cuts.map Cut.piece ∧
        t = first ++ cuts.flatMap Cut.text ∧
        ∀ before c after, cuts = before ++ c :: after →
          c.separator.lowerAscii = separator.lowerAscii ∧
            (first ++ before.flatMap Cut.text).foldl nest 0 = 0) ∧
      Bytes.split separator.toBytes t.toBytes =
        (splitOutside separator t).map toBytes ∧
      (∀ piece ∈ splitOutside separator t,
        splitOutside separator piece = [piece]) ∧
      (t.isBalanced = true →
        ∀ piece ∈ splitOutside separator t,
          piece.isBalanced = true) := by
  refine ⟨exists_cuts hBraces t, split_toBytes hNonempty t, ?_, ?_⟩
  · intro piece hMem
    exact splitOutside_of_mem_splitOutside hMem
  · intro hBalanced piece hMem
    exact isBalanced_of_mem_splitOutside hBraces hBalanced hMem

/- Names in two alphabets, with stray braces and a doubled `and`. -/
def unevenNames : Text :=
  "é\x7d\x7d and and \x7bx and y\x7d AND z".toList

def unevenPieces : List Text :=
  ["é\x7d\x7d".toList, "and \x7bx and y\x7d".toList, "z".toList]

theorem splitOutside_unevenNames :
    splitOutside " and ".toList unevenNames = unevenPieces := by
  rw [splitOutside_of_cut?_some (by decide)
      (show cut? " and ".toList 0 unevenNames =
        some ("é\x7d\x7d".toList,
          "and \x7bx and y\x7d AND z".toList) from rfl),
    splitOutside_of_cut?_some (by decide)
      (show cut? " and ".toList 0
          "and \x7bx and y\x7d AND z".toList =
        some ("and \x7bx and y\x7d".toList, "z".toList) from rfl),
    splitOutside_of_cut?_none rfl]
  rfl

theorem splitOutside_exact_unevenNames :
    " and ".toList ≠ [] ∧
      " and ".toList.any isBrace = false ∧
      isBalanced unevenNames = false ∧
      Bytes.split (toBytes " and ".toList) unevenNames.toBytes =
        unevenPieces.map toBytes ∧
      ∀ piece ∈ unevenPieces,
        splitOutside " and ".toList piece = [piece] := by
  have hNonempty : " and ".toList ≠ [] := by decide
  have hBraces : " and ".toList.any isBrace = false := by decide
  rcases splitOutside_exact " and ".toList unevenNames hNonempty
    hBraces with ⟨_, hBytes, hAgain, _⟩
  rw [splitOutside_unevenNames] at hBytes hAgain
  exact ⟨hNonempty, hBraces, by decide, hBytes, hAgain⟩

end Text

end Bibliography
