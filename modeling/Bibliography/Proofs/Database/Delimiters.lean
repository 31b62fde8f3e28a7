import Mathlib.Data.List.TakeWhile
import Bibliography.Proofs.Database.Body
import Bibliography.Proofs.Database.Positions

/-
  The delimiter that ends the body of a value.

  A body can be read from mark to mark: the nearest brace, or at
  depth zero of quoted text also the nearest quote, is looked for
  and passed until one ends the body.  What is passed between two
  marks changes nothing, so this is the same as following the
  depth character by character, and the body is the only balanced
  text with a delimiter behind it.

  Key definitions include:
    * `Scanner.bodyMarks`
    * `Scanner.jumpBody`
    * `Text.QuotesNested`
    * `Text.BodyBefore`

  Key statements include:
    * `Pattern.nearest?_cons`
    * `Scanner.jumpBody_between`
    * `Text.delimited?_eq_some_iff`
    * `Scanner.readBody_exact`
-/

------------------------------------------------------------
-- The Nearest Mark
------------------------------------------------------------

namespace Bibliography

namespace Pattern

/- A mark is the whole of its token. -/
theorem reach?_cons_of_literal?
    {p : Pattern}
    (hMark : p.literal?.isSome = true)
    (c : Char)
    (rest : Text) :
    p.reach? (c :: rest) =
      if p.starts c then some 1
      else (p.reach? rest).map (· + 1) := by
  have hNone : ∀ d, p.continues d = false := by
    intro d
    cases p with
    | name => cases hMark
    | key => cases hMark
    | number => cases hMark
    | _ => rfl
  have hTake : rest.takeWhile p.continues = [] := by
    cases rest with
    | nil => rfl
    | cons d more => simp [hNone d]
  rw [reach?, search?, lexeme?]
  cases hStarts : p.starts c with
  | true => simp [hTake]
  | false =>
      simp only [Bool.false_eq_true, if_false, reach?]
      cases p.search? rest with
      | none => rfl
      | some found => simp [Nat.add_right_comm]

/-
  Of several marks the nearest is the first character of the
  text, if it is one of them, and else the nearest of the rest.
-/
theorem nearest?_cons
    {marks : List Pattern}
    (hMarks : ∀ p ∈ marks, p.literal?.isSome = true)
    (c : Char)
    (rest : Text) :
    nearest? (c :: rest) marks =
      match marks.find? (fun p => p.starts c) with
      | some p => some (1, p)
      | none =>
          (nearest? rest marks).map
            (fun found => (found.1 + 1, found.2)) := by
  induction marks with
  | nil => rfl
  | cons p more ih =>
      rcases List.forall_mem_cons.1 hMarks with ⟨hMark, hMore⟩
      rw [nearest?, nearest?, reach?_cons_of_literal? hMark,
        ih hMore, List.find?_cons]
      cases hStarts : p.starts c with
      | true =>
          cases hLater : more.find? (fun p => p.starts c) with
          | some q => rfl
          | none =>
              cases hNearest : nearest? rest more with
              | none => rfl
              | some found =>
                  simp
      | false =>
          cases hLater : more.find? (fun p => p.starts c) with
          | some q =>
              cases hReach : p.reach? rest with
              | none => rfl
              | some stop =>
                  have hPos := (reach?_bounds hReach).1
                  simp [hPos]
          | none =>
              cases p.reach? rest with
              | none => rfl
              | some stop =>
                  cases nearest? rest more with
                  | none => rfl
                  | some found =>
                      by_cases hLess : found.1 < stop
                      · simp [hLess]
                      · simp [hLess]

/- Characters that are no marks are passed over. -/
theorem nearest?_append
    {marks : List Pattern}
    (hMarks : ∀ p ∈ marks, p.literal?.isSome = true)
    {plain : Text}
    (hPlain : ∀ c ∈ plain,
      marks.find? (fun p => p.starts c) = none)
    (t : Text) :
    nearest? (plain ++ t) marks =
      (nearest? t marks).map
        (fun found => (plain.length + found.1, found.2)) := by
  induction plain with
  | nil => simp
  | cons c rest ih =>
      rcases List.forall_mem_cons.1 hPlain with ⟨hFirst, hRest⟩
      rw [List.cons_append, nearest?_cons hMarks, hFirst, ih hRest]
      cases nearest? t marks with
      | none => rfl
      | some found => simp [Nat.add_right_comm]

theorem nearest?_nil (marks : List Pattern) :
    nearest? [] marks = none := by
  induction marks with
  | nil => rfl
  | cons p more ih =>
      rw [nearest?, ih]
      rfl

end Pattern

------------------------------------------------------------
-- From Mark to Mark
------------------------------------------------------------

namespace Scanner

/- The marks that matter at a depth of quoted or braced text. -/
def bodyMarks
    (quoted : Bool)
    (depth : Nat) : List Pattern :=
  if depth = 0 ∧ quoted = true then
    [.quote, .openBrace, .closeBrace]
  else [.openBrace, .closeBrace]

/-
  Read a body that begins at the offset `start`, from one mark to
  the next.
-/
def jumpBody
    (quoted : Bool)
    (start depth : Nat)
    (s : Scanner) : Scanned Text :=
  match _hSkip : s.skipTo (bodyMarks quoted depth) with
  | none => (.error (.of (.prematureEnd s.endLocation)), s)
  | some (token, s') =>
      if token.pattern = .openBrace then
        jumpBody quoted start (depth + 1) s'
      else if token.pattern = .closeBrace ∧ 0 < depth then
        jumpBody quoted start (depth - 1) s'
      else if token.pattern = .closeBrace ∧ quoted = true then
        (.error (.of (.unbalancedBrace
          (.locate s'.source (token.span.stop - 1)))), s')
      else
        (.ok ((s'.source.dropBytes start).takeBytes
          (token.span.stop - 1 - start)), s')
termination_by s.rest.length
decreasing_by
  all_goals exact length_rest_skipTo _hSkip

/- The mark that a character is, if it is one. -/
def bodyMark?
    (quoted : Bool)
    (depth : Nat)
    (c : Char) : Option Pattern :=
  (bodyMarks quoted depth).find? (fun p => p.starts c)

theorem bodyMark?_eq
    (quoted : Bool)
    (depth : Nat)
    (c : Char) :
    bodyMark? quoted depth c =
      if c = '{' then some .openBrace
      else if c = '}' then some .closeBrace
      else if c = '"' ∧ depth = 0 ∧ quoted = true then
        some .quote
      else none := by
  have hStarts : ∀ (p : Pattern) (d : Char),
      p.literal? = some d → p.starts c = decide (c = d) := by
    intro p d hLiteral
    have hMark : p.starts c = (p.literal? == some c) := by
      cases p with
      | name => cases hLiteral
      | key => cases hLiteral
      | number => cases hLiteral
      | _ => rfl
    rw [hMark, hLiteral]
    by_cases hSame : c = d
    · simp [hSame]
    · simp [hSame, Ne.symm hSame]
  rw [bodyMark?, bodyMarks]
  split
  · rename_i hQuoted
    simp only [List.find?_cons, List.find?_nil,
      hStarts .quote '"' rfl, hStarts .openBrace '{' rfl,
      hStarts .closeBrace '}' rfl]
    by_cases hOpen : c = '{'
    · simp [hOpen]
    · by_cases hClose : c = '}'
      · simp [hClose]
      · by_cases hQuote : c = '"'
        · simp [hQuote, hQuoted]
        · simp [hOpen, hClose, hQuote]
  · rename_i hOther
    simp only [List.find?_cons, List.find?_nil,
      hStarts .openBrace '{' rfl, hStarts .closeBrace '}' rfl]
    by_cases hOpen : c = '{'
    · simp [hOpen]
    · by_cases hClose : c = '}'
      · simp [hClose]
      · simp [hOpen, hClose, hOther]

theorem isSome_literal?_of_mem_bodyMarks
    {quoted : Bool}
    {depth : Nat} :
    ∀ p ∈ bodyMarks quoted depth, p.literal?.isSome = true := by
  rw [bodyMarks]
  split <;> decide

/- Other characters do not end a body and leave the depth. -/
theorem plain_of_bodyMark?_eq_none
    {quoted : Bool}
    {depth : Nat}
    {c : Char}
    (h : bodyMark? quoted depth c = none) :
    Text.isBrace c = false ∧
      ¬ (depth = 0 ∧ Text.endsBody quoted c) := by
  rw [bodyMark?_eq] at h
  split at h
  · cases h
  · split at h
    · cases h
    · split at h
      · cases h
      · rename_i hOpen hClose hQuote
        constructor
        · simp [Text.isBrace, hOpen, hClose]
        · rintro ⟨hZero, hEnds⟩
          rcases hEnds with hBrace | ⟨hQuoted, hMark⟩
          · exact hClose hBrace
          · exact hQuote ⟨hMark, hZero, hQuoted⟩

/- Skipping goes to the nearest mark. -/
theorem skipTo_bodyMarks
    {quoted : Bool}
    {depth : Nat}
    {plain : Text}
    (hPlain : ∀ c ∈ plain, bodyMark? quoted depth c = none)
    {c : Char}
    {p : Pattern}
    (hMark : bodyMark? quoted depth c = some p)
    (before after : Text) :
    (between before (plain ++ [c] ++ after)).skipTo
        (bodyMarks quoted depth) =
      some (⟨plain ++ [c], p, .covering before (plain ++ [c])⟩,
        between (before ++ (plain ++ [c])) after) := by
  have hNearest :
      Pattern.nearest? (plain ++ [c] ++ after)
          (bodyMarks quoted depth) =
        some ((plain ++ [c]).length, p) := by
    rw [bodyMark?] at hMark
    rw [List.append_assoc,
      Pattern.nearest?_append isSome_literal?_of_mem_bodyMarks
        hPlain, List.singleton_append,
      Pattern.nearest?_cons isSome_literal?_of_mem_bodyMarks,
      hMark]
    simp
  have hRest : (between before (plain ++ [c] ++ after)).rest =
      plain ++ [c] ++ after := rfl
  rw [skipTo, hRest, hNearest]
  simp only [token_between, read_between]

/- Where there is no mark, skipping fails. -/
theorem skipTo_bodyMarks_eq_none
    {quoted : Bool}
    {depth : Nat}
    {rest : Text}
    (hPlain : ∀ c ∈ rest, bodyMark? quoted depth c = none)
    (before : Text) :
    (between before rest).skipTo (bodyMarks quoted depth) =
      none := by
  have hNearest :
      Pattern.nearest? rest (bodyMarks quoted depth) = none := by
    have hAppend := Pattern.nearest?_append
      isSome_literal?_of_mem_bodyMarks hPlain []
    rwa [List.append_nil, Pattern.nearest?_nil] at hAppend
  have hRest : (between before rest).rest = rest := rfl
  rw [skipTo, hRest, hNearest]

end Scanner

namespace Text

/- Between two marks no body ends. -/
theorem delimited?_of_plain
    {quoted : Bool}
    {depth : Nat}
    {plain : Text}
    (hPlain : ∀ c ∈ plain,
      Scanner.bodyMark? quoted depth c = none) :
    delimited? quoted depth plain = none ∧
      plain.foldl nest depth = depth := by
  have hBraces : ∀ c ∈ plain, isBrace c = false := by
    intro c hMem
    exact (Scanner.plain_of_bodyMark?_eq_none (hPlain c hMem)).1
  refine ⟨?_, foldl_nest_of_forall_not hBraces depth⟩
  induction plain with
  | nil => rfl
  | cons c rest ih =>
      rcases List.forall_mem_cons.1 hPlain with ⟨hFirst, hRest⟩
      rcases List.forall_mem_cons.1 hBraces with ⟨hBrace, hMore⟩
      have hOpen :
          ¬ (depth = 0 ∧ (c = '}' ∨ quoted = true ∧ c = '"')) :=
        (Scanner.plain_of_bodyMark?_eq_none hFirst).2
      rw [delimited?, if_neg hOpen, nest_of_not_isBrace hBrace,
        ih hRest hMore]

/- A brace that is no delimiter does not end a body, either. -/
theorem delimited?_concat_of_plain
    {quoted : Bool}
    {depth : Nat}
    {plain : Text}
    (hPlain : ∀ c ∈ plain,
      Scanner.bodyMark? quoted depth c = none)
    {c : Char}
    (hOpen : ¬ (depth = 0 ∧ endsBody quoted c)) :
    delimited? quoted depth (plain ++ [c]) = none ∧
      (plain ++ [c]).foldl nest depth = nest depth c := by
  rcases delimited?_of_plain hPlain with ⟨hNone, hDepth⟩
  have hOne : delimited? quoted depth [c] = none := by
    rw [delimited?]
    exact if_neg hOpen
  constructor
  · rw [delimited?_append_of_none hNone, hDepth, hOne]
    rfl
  · rw [List.foldl_append, hDepth]
    rfl

theorem reachLastBrace_append
    {c : Char}
    (hBrace : isBrace c = true)
    (plain after : Text) :
    reachLastBrace (plain ++ [c] ++ after) =
      (plain ++ [c]).length + after.reachLastBrace := by
  have hTail : (after.reverse.takeWhile
      (fun d => !isBrace d)).length ≤ after.length := by
    have hLe := List.Sublist.length_le (List.takeWhile_sublist
      (l := after.reverse) (fun d => !isBrace d))
    rwa [List.length_reverse] at hLe
  have hWhole : ((plain ++ [c] ++ after).reverse.takeWhile
        (fun d => !isBrace d)).length =
      (after.reverse.takeWhile (fun d => !isBrace d)).length := by
    rw [List.reverse_append, List.reverse_concat,
      List.takeWhile_append]
    split
    · rename_i hAll
      simp [hBrace, hAll]
    · rfl
  rw [reachLastBrace, reachLastBrace, hWhole, List.length_append]
  omega

theorem reachLastBrace_of_forall_not
    {t : Text}
    (h : ∀ c ∈ t, isBrace c = false) : reachLastBrace t = 0 := by
  have hAll : t.reverse.takeWhile (fun c => !isBrace c) =
      t.reverse := by
    rw [List.takeWhile_eq_self_iff]
    intro c hMem
    rw [h c (List.mem_reverse.1 hMem)]
    rfl
  rw [reachLastBrace, hAll, List.length_reverse, Nat.sub_self]

end Text

namespace Scanner

theorem read_read
    (s : Scanner)
    (m n : Nat) : (s.read m).read n = s.read (m + n) := by
  simp only [read, List.drop_drop, List.take_add,
    Cursor.advance_append]

/-
  The outcome of reading a body of which a part has been passed,
  when the rest is followed character by character.
-/
def bodyFrom
    (quoted : Bool)
    (before passed : Text)
    (depth : Nat)
    (rest : Text) : Scanned Text :=
  let s := between (before ++ passed) rest
  match Text.delimited? quoted depth rest with
  | none =>
      (.error (.of (.prematureEnd s.endLocation)),
        s.read rest.reachLastBrace)
  | some (body, stop, _) =>
      if quoted = true ∧ stop = '}' then
        (.error
          (.of (.unbalancedBrace (s.read body.length).location)),
          s.read (body.length + 1))
      else (.ok (passed ++ body), s.read (body.length + 1))

theorem readBody_between
    (quoted : Bool)
    (before rest : Text) :
    (between before rest).readBody quoted =
      bodyFrom quoted before [] 0 rest := by
  rw [bodyFrom, List.append_nil]
  rfl

/- A part that does not end the body is passed. -/
theorem bodyFrom_append
    {quoted : Bool}
    {depth : Nat}
    {plain : Text}
    {c : Char}
    (hPart : Text.delimited? quoted depth (plain ++ [c]) = none)
    (hBrace : Text.isBrace c = true)
    (before passed after : Text) :
    bodyFrom quoted before passed depth (plain ++ [c] ++ after) =
      bodyFrom quoted before (passed ++ (plain ++ [c]))
        ((plain ++ [c]).foldl Text.nest depth) after := by
  have hRead : ∀ n,
      (between (before ++ passed) (plain ++ [c] ++ after)).read
          ((plain ++ [c]).length + n) =
        (between (before ++ (passed ++ (plain ++ [c]))) after).read
          n := by
    intro n
    rw [← read_read, read_between, List.append_assoc]
  have hEnd :
      (between (before ++ passed)
          (plain ++ [c] ++ after)).endLocation =
        (between (before ++ (passed ++ (plain ++ [c])))
          after).endLocation := by
    simp only [endLocation, between, List.append_assoc]
  rw [bodyFrom, bodyFrom, Text.delimited?_append_of_none hPart,
    Text.reachLastBrace_append hBrace, hRead, hEnd]
  cases Text.delimited? quoted
    ((plain ++ [c]).foldl Text.nest depth) after with
  | none => rfl
  | some found =>
      simp only [Option.map_some]
      have hLength : (plain ++ [c] ++ found.1).length =
          (plain ++ [c]).length + found.1.length :=
        List.length_append
      rw [hLength, Nat.add_assoc, hRead, hRead,
        List.append_assoc passed]

/- A delimiter behind a part that does not end the body ends it. -/
theorem bodyFrom_stop
    {quoted : Bool}
    {plain : Text}
    (hPlain : Text.delimited? quoted 0 plain = none)
    (hDepth : plain.foldl Text.nest 0 = 0)
    {stop : Char}
    (hStop : Text.endsBody quoted stop)
    (before passed after : Text) :
    bodyFrom quoted before passed 0 (plain ++ [stop] ++ after) =
      (if quoted = true ∧ stop = '}' then
          .error (.of (.unbalancedBrace (.between
            (before ++ (passed ++ plain)) (stop :: after))))
        else .ok (passed ++ plain),
        between (before ++ (passed ++ (plain ++ [stop]))) after) := by
  have hFound :
      Text.delimited? quoted 0 (plain ++ [stop] ++ after) =
        some (plain, stop, after) := by
    rw [List.append_assoc, Text.delimited?_append_of_none hPlain,
      hDepth, List.singleton_append, Text.delimited?,
      if_pos ⟨rfl, hStop⟩]
    simp
  have hPlace : (between (before ++ passed)
        (plain ++ [stop] ++ after)).read plain.length =
      between (before ++ (passed ++ plain)) (stop :: after) := by
    rw [List.append_assoc, read_between, List.append_assoc]
    rfl
  have hAfter : (between (before ++ passed)
        (plain ++ [stop] ++ after)).read (plain.length + 1) =
      between (before ++ (passed ++ (plain ++ [stop]))) after := by
    have hRead := read_between (before ++ passed) (plain ++ [stop])
      after
    rwa [List.length_append, List.append_assoc before] at hRead
  rw [bodyFrom, hFound]
  simp only [hPlace, hAfter, location_between]
  split <;> rfl

/- Where nothing is a mark, the body does not end. -/
theorem bodyFrom_of_plain
    {quoted : Bool}
    {depth : Nat}
    {rest : Text}
    (hPlain : ∀ c ∈ rest, bodyMark? quoted depth c = none)
    (before passed : Text) :
    bodyFrom quoted before passed depth rest =
      (.error (.of (.prematureEnd
        (between (before ++ passed) rest).endLocation)),
        between (before ++ passed) rest) := by
  have hBraces : ∀ c ∈ rest, Text.isBrace c = false := by
    intro c hMem
    exact (plain_of_bodyMark?_eq_none (hPlain c hMem)).1
  rw [bodyFrom, (Text.delimited?_of_plain hPlain).1,
    Text.reachLastBrace_of_forall_not hBraces]
  rfl

/- One jump, to a mark. -/
theorem jumpBody_eq
    {quoted : Bool}
    {depth : Nat}
    {s s' : Scanner}
    {token : Token}
    (hSkip : s.skipTo (bodyMarks quoted depth) = some (token, s'))
    (start : Nat) :
    jumpBody quoted start depth s =
      if token.pattern = .openBrace then
        jumpBody quoted start (depth + 1) s'
      else if token.pattern = .closeBrace ∧ 0 < depth then
        jumpBody quoted start (depth - 1) s'
      else if token.pattern = .closeBrace ∧ quoted = true then
        (.error (.of (.unbalancedBrace
          (.locate s'.source (token.span.stop - 1)))), s')
      else
        (.ok ((s'.source.dropBytes start).takeBytes
          (token.span.stop - 1 - start)), s') := by
  rw [jumpBody]
  split
  · rename_i hNone
    rw [hSkip] at hNone
    cases hNone
  · rename_i hSome
    rw [hSkip] at hSome
    cases hSome
    rfl

/- A jump to a delimiter ends the body. -/
theorem jumpBody_stop
    {quoted : Bool}
    {plain : Text}
    (hPlain : ∀ c ∈ plain, bodyMark? quoted 0 c = none)
    {stop : Char}
    (hStop : Text.endsBody quoted stop)
    (before passed after : Text) :
    jumpBody quoted before.byteLength 0
        (between (before ++ passed) (plain ++ [stop] ++ after)) =
      bodyFrom quoted before passed 0
        (plain ++ [stop] ++ after) := by
  rcases Text.delimited?_of_plain hPlain with ⟨hNone, hDepth⟩
  rw [bodyFrom_stop hNone hDepth hStop]
  let p : Pattern := if stop = '}' then .closeBrace else .quote
  have hMark : bodyMark? quoted 0 stop = some p := by
    rw [bodyMark?_eq]
    rcases hStop with rfl | ⟨rfl, rfl⟩ <;> rfl
  have hSize : stop.utf8Size = 1 := by
    rcases hStop with rfl | ⟨_, rfl⟩ <;> rfl
  have hPlace : (before ++ passed ++ (plain ++ [stop])).byteLength -
      1 = (before ++ (passed ++ plain)).byteLength := by
    simp only [Text.byteLength_append, Text.byteLength, hSize]
    omega
  have hSource : before ++ passed ++ (plain ++ [stop]) ++ after =
      before ++ (passed ++ plain) ++ stop :: after := by
    simp only [List.append_assoc, List.singleton_append]
  have hLocation : Location.locate
        (before ++ passed ++ (plain ++ [stop]) ++ after)
        (before ++ (passed ++ plain)).byteLength =
      .between (before ++ (passed ++ plain)) (stop :: after) := by
    rw [hSource, Location.locate_append]
  have hBody : Text.takeBytes
        ((before ++ (passed ++ plain)).byteLength -
          before.byteLength)
        (Text.dropBytes before.byteLength
          (before ++ passed ++ (plain ++ [stop]) ++ after)) =
      passed ++ plain := by
    rw [hSource, List.append_assoc, Text.dropBytes_append,
      Text.byteLength_append, Nat.add_sub_cancel_left,
      Text.takeBytes_append]
  rw [jumpBody_eq (skipTo_bodyMarks hPlain hMark _ _)]
  simp only [Span.covering, between, hPlace, hLocation, hBody]
  rcases hStop with rfl | ⟨rfl, rfl⟩
  · cases quoted <;> simp [p, List.append_assoc]
  · simp [p, List.append_assoc]

/- A jump to another mark goes on behind it. -/
theorem jumpBody_pass
    {quoted : Bool}
    {depth : Nat}
    {plain : Text}
    (hPlain : ∀ c ∈ plain, bodyMark? quoted depth c = none)
    {c : Char}
    (hBrace : Text.isBrace c = true)
    (hOpen : ¬ (depth = 0 ∧ Text.endsBody quoted c))
    (start : Nat)
    (before after : Text) :
    jumpBody quoted start depth
        (between before (plain ++ [c] ++ after)) =
      jumpBody quoted start (Text.nest depth c)
        (between (before ++ (plain ++ [c])) after) := by
  rcases Bool.or_eq_true_iff.1 hBrace with hEq | hEq
  · have hChar : c = '{' := eq_of_beq hEq
    subst hChar
    have hMark : bodyMark? quoted depth '{' = some .openBrace :=
      bodyMark?_eq quoted depth '{'
    rw [jumpBody_eq (skipTo_bodyMarks hPlain hMark _ _)]
    rfl
  · have hChar : c = '}' := eq_of_beq hEq
    subst hChar
    have hMark : bodyMark? quoted depth '}' = some .closeBrace :=
      bodyMark?_eq quoted depth '}'
    have hPos : 0 < depth := by
      apply Nat.pos_of_ne_zero
      intro hZero
      exact hOpen ⟨hZero, Or.inl rfl⟩
    rw [jumpBody_eq (skipTo_bodyMarks hPlain hMark _ _),
      if_neg (by simp), if_pos ⟨rfl, hPos⟩]
    rfl

/- A mark that does not end the body is a brace. -/
theorem isBrace_of_bodyMark?
    {quoted : Bool}
    {depth : Nat}
    {c : Char}
    (hMark : (bodyMark? quoted depth c).isSome = true)
    (hOpen : ¬ (depth = 0 ∧ Text.endsBody quoted c)) :
    Text.isBrace c = true := by
  rw [bodyMark?_eq] at hMark
  split at hMark
  · rename_i hChar
    rw [hChar]
    rfl
  · split at hMark
    · rename_i hChar
      rw [hChar]
      rfl
    · split at hMark
      · rename_i hQuote
        rcases hQuote with ⟨hChar, hZero, hQuoted⟩
        exact absurd ⟨hZero, Or.inr ⟨hQuoted, hChar⟩⟩ hOpen
      · cases hMark

/-
  Jumping from mark to mark reads what following the depth does.
-/
theorem jumpBody_between
    (quoted : Bool)
    (before passed : Text)
    (depth : Nat)
    (rest : Text) :
    jumpBody quoted before.byteLength depth
        (between (before ++ passed) rest) =
      bodyFrom quoted before passed depth rest := by
  induction hLength : rest.length using Nat.strong_induction_on
    generalizing passed depth rest with
  | h n ih =>
      cases hFind : rest.find?
          (fun c => (bodyMark? quoted depth c).isSome) with
      | none =>
          have hPlain : ∀ c ∈ rest,
              bodyMark? quoted depth c = none := by
            intro c hMem
            have hNot := List.find?_eq_none.1 hFind c hMem
            exact Option.not_isSome_iff_eq_none.1 hNot
          have hSkip :=
            skipTo_bodyMarks_eq_none hPlain (before ++ passed)
          rw [bodyFrom_of_plain hPlain, jumpBody]
          split
          · rfl
          · rename_i hSome
            rw [hSkip] at hSome
            cases hSome
      | some c =>
          rcases List.find?_eq_some_iff_append.1 hFind with
            ⟨hMark, plain, after, rfl, hNone⟩
          have hPlain : ∀ d ∈ plain,
              bodyMark? quoted depth d = none := by
            intro d hMem
            simpa using hNone d hMem
          rw [List.append_cons]
          by_cases hStop : depth = 0 ∧ Text.endsBody quoted c
          · rcases hStop with ⟨rfl, hEnds⟩
            exact jumpBody_stop hPlain hEnds before passed after
          · rcases Text.delimited?_concat_of_plain hPlain hStop with
              ⟨hPart, hDepth⟩
            have hBrace := isBrace_of_bodyMark? hMark hStop
            have hShorter : after.length < n := by
              rw [← hLength, List.length_append, List.length_cons]
              omega
            rw [jumpBody_pass hPlain hBrace hStop,
              bodyFrom_append hPart hBrace, hDepth,
              List.append_assoc before,
              ih after.length hShorter _ _ after rfl]

end Scanner

------------------------------------------------------------
-- The Only Body
------------------------------------------------------------

namespace Text

/- Whether every quote stands in a group. -/
def QuotesNested (t : Text) : Prop :=
  ∀ ahead behind, t = ahead ++ '"' :: behind →
    0 < ahead.foldl nest 0

theorem quotesNestedFrom_iff
    {depth : Nat}
    {t : Text} :
    quotesNestedFrom depth t = true ↔
      ∀ ahead behind, t = ahead ++ '"' :: behind →
        0 < ahead.foldl nest depth := by
  induction t generalizing depth with
  | nil => simp [quotesNestedFrom]
  | cons c rest ih =>
      rw [quotesNestedFrom, Bool.and_eq_true, ih]
      constructor
      · rintro ⟨hFirst, hRest⟩ ahead behind hEq
        rcases List.cons_eq_append_iff.1 hEq with
          ⟨rfl, hHere⟩ | ⟨more, rfl, hLater⟩
        · cases hHere
          apply Nat.pos_of_ne_zero
          rintro rfl
          cases hFirst
        · exact hRest more behind hLater
      · intro hAll
        constructor
        · by_cases hQuote : c = '"'
          · have hPos := hAll [] rest (by rw [hQuote]; rfl)
            have hNonzero : depth ≠ 0 := Nat.ne_of_gt hPos
            simp [hNonzero]
          · simp [hQuote]
        · intro more behind hEq
          exact hAll (c :: more) behind (by rw [hEq]; rfl)

/-
  Whether a rest begins with a body and a character behind it: a
  balanced text and, in quoted text, without bare quotes.
-/
structure BodyBefore
    (quoted : Bool)
    (stop : Char)
    (body after rest : Text) : Prop where
  rest_eq : rest = body ++ stop :: after
  balanced : body.isBalanced = true
  nested : quoted = true → body.QuotesNested

theorem delimited?_eq_some_iff
    {quoted : Bool}
    {rest body after : Text}
    {stop : Char} :
    delimited? quoted 0 rest = some (body, stop, after) ↔
      endsBody quoted stop ∧
        BodyBefore quoted stop body after rest := by
  constructor
  · intro h
    rcases isBody_of_delimited? h with ⟨hBody, hRest, hStop⟩
    rw [isBodyFrom, Bool.and_eq_true] at hBody
    refine ⟨hStop, hRest, hBody.1, ?_⟩
    rintro rfl
    exact quotesNestedFrom_iff.1 (by simpa using hBody.2)
  · rintro ⟨hStop, rfl, hBalanced, hNested⟩
    refine delimited?_append ?_ hStop after
    rw [isBodyFrom, Bool.and_eq_true]
    refine ⟨hBalanced, ?_⟩
    cases quoted with
    | false => rfl
    | true => exact quotesNestedFrom_iff.2 (hNested rfl)

/- A rest begins with one body and delimiter at most. -/
theorem BodyBefore.unique
    {quoted : Bool}
    {stop stop' : Char}
    {body body' after after' rest : Text}
    (hStop : endsBody quoted stop)
    (hStop' : endsBody quoted stop')
    (h : BodyBefore quoted stop body after rest)
    (h' : BodyBefore quoted stop' body' after' rest) :
    body = body' ∧ stop = stop' ∧ after = after' := by
  have hFound := delimited?_eq_some_iff.2 ⟨hStop, h⟩
  rw [delimited?_eq_some_iff.2 ⟨hStop', h'⟩] at hFound
  simpa [eq_comm] using hFound

end Text

namespace Scanner

/- A body is returned, or the brace behind it is reported. -/
theorem readBody_of_bodyBefore
    {quoted : Bool}
    {stop : Char}
    {body after rest : Text}
    (hStop : Text.endsBody quoted stop)
    (hBody : Text.BodyBefore quoted stop body after rest)
    (before : Text) :
    (between before rest).readBody quoted =
      (if quoted = true ∧ stop = '}' then
          .error (.of (.unbalancedBrace (.locate
            (before ++ rest) (before ++ body).byteLength)))
        else .ok body,
        between (before ++ body ++ [stop]) after) := by
  have hFound := Text.delimited?_eq_some_iff.2 ⟨hStop, hBody⟩
  have hRest : rest = body ++ stop :: after := hBody.rest_eq
  have hPlace : ((between before rest).read body.length).location =
      .locate (before ++ rest) (before ++ body).byteLength := by
    rw [hRest, read_between, location_between,
      ← List.append_assoc, Location.locate_append]
  have hAfter : (between before rest).read (body.length + 1) =
      between (before ++ body ++ [stop]) after := by
    have hRead := read_between before (body ++ [stop]) after
    rwa [List.length_append, List.append_assoc body,
      List.singleton_append, ← hRest, ← List.append_assoc] at hRead
  have hSame : (between before rest).rest = rest := rfl
  rw [readBody, hSame, hFound]
  simp only [hPlace, hAfter]
  split <;> rfl

/- Where there is no body, the end of the text is reported. -/
theorem readBody_of_forall_not
    {quoted : Bool}
    {rest : Text}
    (h : ∀ stop body after, Text.endsBody quoted stop →
      ¬ Text.BodyBefore quoted stop body after rest)
    (before : Text) :
    ((between before rest).readBody quoted).1 =
      .error (.of (.prematureEnd (.locate
        (before ++ rest) (before ++ rest).byteLength))) := by
  have hSame : (between before rest).rest = rest := rfl
  rw [readBody, hSame]
  cases hFound : Text.delimited? quoted 0 rest with
  | none => rfl
  | some found =>
      rcases Text.delimited?_eq_some_iff.1 hFound with
        ⟨hStop, hBody⟩
      exact absurd hBody (h _ _ _ hStop)

/- There is a body or there is none. -/
theorem exists_bodyBefore_or
    (quoted : Bool)
    (rest : Text) :
    (∃ stop body after, Text.endsBody quoted stop ∧
        Text.BodyBefore quoted stop body after rest) ∨
      ∀ stop body after, Text.endsBody quoted stop →
        ¬ Text.BodyBefore quoted stop body after rest := by
  by_cases h : ∃ stop body after, Text.endsBody quoted stop ∧
      Text.BodyBefore quoted stop body after rest
  · exact Or.inl h
  · exact Or.inr (fun stop body after hStop hBody =>
      h ⟨stop, body, after, hStop, hBody⟩)

/- A text is returned if and only if it is a body. -/
theorem readBody_eq_ok_iff
    (quoted : Bool)
    (before rest body : Text)
    (s' : Scanner) :
    (between before rest).readBody quoted = (.ok body, s') ↔
      ∃ after,
        Text.BodyBefore quoted (Text.bodyEnd quoted) body after
          rest ∧
        s' = between (before ++ body ++ [Text.bodyEnd quoted])
          after := by
  have hEnd := Text.endsBody_bodyEnd quoted
  constructor
  · intro hRead
    rcases exists_bodyBefore_or quoted rest with hSome | hNone
    · rcases hSome with ⟨stop, body', after, hStop, hBody⟩
      rw [readBody_of_bodyBefore hStop hBody] at hRead
      split at hRead
      · cases hRead
      · rename_i hOther
        cases hRead
        have hSame : stop = Text.bodyEnd quoted := by
          rcases hStop with rfl | ⟨rfl, rfl⟩
          · cases quoted with
            | false => rfl
            | true => exact absurd ⟨rfl, rfl⟩ hOther
          · rfl
        rw [hSame] at hBody
        exact ⟨after, hBody, by rw [hSame]⟩
    · have hError := readBody_of_forall_not hNone before
      rw [hRead] at hError
      cases hError
  · rintro ⟨after, hBody, rfl⟩
    rw [readBody_of_bodyBefore hEnd hBody, if_neg]
    rintro ⟨rfl, hClose⟩
    cases hClose

/- A brace is reported if and only if it ends a quoted body. -/
theorem readBody_eq_unbalanced_iff
    (before rest : Text)
    (place : Location) :
    ((between before rest).readBody true).1 =
        .error (.of (.unbalancedBrace place)) ↔
      ∃ body after, Text.BodyBefore true '}' body after rest ∧
        place =
          .locate (before ++ rest) (before ++ body).byteLength := by
  constructor
  · intro hRead
    rcases exists_bodyBefore_or true rest with hSome | hNone
    · rcases hSome with ⟨stop, body, after, hStop, hBody⟩
      rw [readBody_of_bodyBefore hStop hBody] at hRead
      split at hRead
      · rename_i hClose
        rw [hClose.2] at hBody
        cases hRead
        exact ⟨body, after, hBody, rfl⟩
      · cases hRead
    · rw [readBody_of_forall_not hNone before] at hRead
      cases hRead
  · rintro ⟨body, after, hBody, rfl⟩
    rw [readBody_of_bodyBefore (Or.inl rfl) hBody,
      if_pos ⟨rfl, rfl⟩]

/-
  What is read behind any beginning of any source.  Jumping from
  mark to mark and following the depth are the same.  A quoted
  text is returned if and only if it is a body before a quote, a
  brace is reported, where it stands, if and only if a body comes
  before it, and else the end of the source is reported.  A braced
  text is returned if and only if it is a body before a brace, and
  else the end is reported.  There is one such body at most, and
  every text that is returned is balanced.
-/
theorem readBody_exact (before rest : Text) :
    let s := between before rest
    let source := before ++ rest
    (∀ quoted,
      s.readBody quoted =
        jumpBody quoted before.byteLength 0 s) ∧
      (∀ body s', s.readBody true = (.ok body, s') ↔
        ∃ after, Text.BodyBefore true '"' body after rest ∧
          s' = between (before ++ body ++ ['"']) after) ∧
      (∀ place,
        (s.readBody true).1 =
            .error (.of (.unbalancedBrace place)) ↔
          ∃ body after, Text.BodyBefore true '}' body after rest ∧
            place = .locate source (before ++ body).byteLength) ∧
      ((∀ body after, ¬ Text.BodyBefore true '"' body after rest ∧
          ¬ Text.BodyBefore true '}' body after rest) →
        (s.readBody true).1 = .error (.of (.prematureEnd
          (.locate source source.byteLength)))) ∧
      (∀ body s', s.readBody false = (.ok body, s') ↔
        ∃ after, Text.BodyBefore false '}' body after rest ∧
          s' = between (before ++ body ++ ['}']) after) ∧
      ((∀ body after,
          ¬ Text.BodyBefore false '}' body after rest) →
        (s.readBody false).1 = .error (.of (.prematureEnd
          (.locate source source.byteLength)))) ∧
      (∀ quoted stop stop' body body' after after',
        Text.endsBody quoted stop → Text.endsBody quoted stop' →
        Text.BodyBefore quoted stop body after rest →
        Text.BodyBefore quoted stop' body' after' rest →
        body = body' ∧ stop = stop' ∧ after = after') ∧
      ∀ quoted body s', s.readBody quoted = (.ok body, s') →
        body.isBalanced = true := by
  intro s source
  refine ⟨?_, readBody_eq_ok_iff true before rest,
    readBody_eq_unbalanced_iff before rest, ?_,
    readBody_eq_ok_iff false before rest, ?_, ?_, ?_⟩
  · intro quoted
    have hJump := jumpBody_between quoted before [] 0 rest
    rw [List.append_nil] at hJump
    exact (readBody_between quoted before rest).trans hJump.symm
  · intro hNone
    refine readBody_of_forall_not ?_ before
    intro stop body after hStop
    rcases hStop with rfl | ⟨_, rfl⟩
    · exact (hNone body after).2
    · exact (hNone body after).1
  · intro hNone
    refine readBody_of_forall_not ?_ before
    intro stop body after hStop
    rcases hStop with rfl | ⟨hQuoted, _⟩
    · exact hNone body after
    · cases hQuoted
  · intro quoted stop stop' body body' after after' hStop hStop' h h'
    exact h.unique hStop hStop' h'
  · intro quoted body s' hRead
    rcases (readBody_eq_ok_iff quoted before rest body s').1 hRead
      with ⟨after, hBody, _⟩
    exact hBody.balanced

end Scanner

end Bibliography
