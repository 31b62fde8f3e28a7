import Bibliography.Proofs.Database.Reading
import Bibliography.Proofs.Text.Balance

/-
  Where the bodies of quoted and braced values end.

  A balanced text is read as a body up to the delimiter behind
  it, provided that in quoted text every quote stands in a group.
  Every body that is read is of this kind.

  Key definitions include:
    * `Text.quotesNestedFrom`
    * `Text.isBody`
    * `Text.endsBody`

  Key statements include:
    * `Text.delimited?_append`
    * `Text.isBody_of_delimited?`
    * `Text.delimited?_append_of_none`
    * `Scanner.reads_readBody`
-/

------------------------------------------------------------
-- Bodies
------------------------------------------------------------

namespace Bibliography

namespace Text

/- Whether every quote stands in a group, from a depth on. -/
def quotesNestedFrom : Nat → Text → Bool
  | _, [] => true
  | depth, c :: rest =>
      !(depth == 0 && c == '"') &&
        quotesNestedFrom (nest depth c) rest

/- A balanced text, without bare quotes if it is quoted. -/
def isBodyFrom
    (quoted : Bool)
    (depth : Nat)
    (t : Text) : Bool :=
  balancedFrom depth t && (!quoted || quotesNestedFrom depth t)

/- The texts that can be the body of a value. -/
def isBody
    (quoted : Bool)
    (t : Text) : Bool :=
  isBodyFrom quoted 0 t

/- The delimiter that ends a body. -/
def bodyEnd (quoted : Bool) : Char :=
  if quoted then '"' else '}'

theorem isBodyFrom_cons
    {quoted : Bool}
    {depth : Nat}
    {c : Char}
    {rest : Text} :
    isBodyFrom quoted depth (c :: rest) = true ↔
      ¬ (depth = 0 ∧ (c = '}' ∨ quoted = true ∧ c = '"')) ∧
        isBodyFrom quoted (nest depth c) rest = true := by
  rw [isBodyFrom, isBodyFrom, Bool.and_eq_true,
    Bool.and_eq_true, balancedFrom_cons, quotesNestedFrom]
  cases quoted with
  | false => simp [and_comm]
  | true =>
      simp only [Bool.not_true, Bool.false_or, Bool.and_eq_true,
        Bool.not_eq_true', Bool.and_eq_false_iff,
        beq_eq_false_iff_ne, true_and, not_and, not_or]
      constructor
      · rintro ⟨⟨hClose, hRest⟩, hQuote, hNested⟩
        refine ⟨?_, hRest, hNested⟩
        intro hZero
        constructor
        · exact fun hEq => hClose hEq hZero
        · rcases hQuote with hDeep | hOther
          · exact absurd hZero hDeep
          · exact hOther
      · rintro ⟨hOpen, hRest, hNested⟩
        refine ⟨⟨fun hEq hZero => (hOpen hZero).1 hEq, hRest⟩,
          ?_, hNested⟩
        by_cases hZero : depth = 0
        · exact Or.inr (hOpen hZero).2
        · exact Or.inl hZero

/- Whether a character ends a body at depth zero. -/
def endsBody
    (quoted : Bool)
    (c : Char) : Prop :=
  c = '}' ∨ quoted = true ∧ c = '"'

theorem endsBody_bodyEnd (quoted : Bool) :
    endsBody quoted (bodyEnd quoted) := by
  cases quoted with
  | false => exact Or.inl rfl
  | true => exact Or.inr ⟨rfl, rfl⟩

/- A body is read up to the delimiter behind it. -/
theorem delimited?_append
    {quoted : Bool}
    {depth : Nat}
    {body : Text}
    (h : isBodyFrom quoted depth body = true)
    {stop : Char}
    (hStop : endsBody quoted stop)
    (after : Text) :
    delimited? quoted depth (body ++ stop :: after) =
      some (body, stop, after) := by
  induction body generalizing depth with
  | nil =>
      have hZero : depth = 0 := by
        cases depth with
        | zero => rfl
        | succ n => simp [isBodyFrom, balancedFrom] at h
      rw [List.nil_append, delimited?, if_pos ⟨hZero, hStop⟩]
  | cons c rest ih =>
      rcases isBodyFrom_cons.1 h with ⟨hOpen, hRest⟩
      rw [List.cons_append, delimited?, if_neg hOpen, ih hRest]

/- What is read up to a delimiter is a body. -/
theorem isBody_of_delimited?
    {quoted : Bool}
    {depth : Nat}
    {t body after : Text}
    {stop : Char}
    (h : delimited? quoted depth t = some (body, stop, after)) :
    isBodyFrom quoted depth body = true ∧
      t = body ++ stop :: after ∧
      endsBody quoted stop := by
  induction t generalizing depth body with
  | nil => simp [delimited?] at h
  | cons c rest ih =>
      rw [delimited?] at h
      split at h
      · rename_i hStop
        rcases hStop with ⟨rfl, hDelimiter⟩
        cases h
        refine ⟨?_, rfl, hDelimiter⟩
        cases quoted <;> rfl
      · rename_i hOpen
        cases hFound : delimited? quoted (nest depth c) rest with
        | none => simp [hFound] at h
        | some found =>
            rcases found with ⟨body', stop', after'⟩
            simp only [hFound, Option.some.injEq,
              Prod.mk.injEq] at h
            rcases h with ⟨rfl, rfl, rfl⟩
            rcases ih hFound with ⟨hBody, rfl, hDelimiter⟩
            exact ⟨isBodyFrom_cons.2 ⟨hOpen, hBody⟩, rfl,
              hDelimiter⟩

/- A body that ends in the first text ends in both. -/
theorem delimited?_append_right
    {quoted : Bool}
    {depth : Nat}
    {t body after : Text}
    {stop : Char}
    (h : delimited? quoted depth t = some (body, stop, after))
    (tail : Text) :
    delimited? quoted depth (t ++ tail) =
      some (body, stop, after ++ tail) := by
  induction t generalizing depth body with
  | nil => simp [delimited?] at h
  | cons c rest ih =>
      rw [delimited?] at h
      rw [List.cons_append, delimited?]
      split at h
      · rename_i hStop
        cases h
        rw [if_pos hStop]
      · rename_i hOpen
        rw [if_neg hOpen]
        cases hFound : delimited? quoted (nest depth c) rest with
        | none => simp [hFound] at h
        | some found =>
            rcases found with ⟨body', stop', after'⟩
            simp only [hFound, Option.some.injEq,
              Prod.mk.injEq] at h
            rcases h with ⟨rfl, rfl, rfl⟩
            rw [ih hFound]

/- A body that does not end in the first text goes on behind it. -/
theorem delimited?_append_of_none
    {quoted : Bool}
    {depth : Nat}
    {t : Text}
    (h : delimited? quoted depth t = none)
    (tail : Text) :
    delimited? quoted depth (t ++ tail) =
      (delimited? quoted (t.foldl nest depth) tail).map
        (fun found => (t ++ found.1, found.2)) := by
  induction t generalizing depth with
  | nil => simp
  | cons c rest ih =>
      rw [delimited?] at h
      rw [List.cons_append, delimited?, List.foldl_cons]
      split at h
      · cases h
      · rename_i hOpen
        rw [if_neg hOpen]
        cases hFound : delimited? quoted (nest depth c) rest with
        | some found => simp [hFound] at h
        | none =>
            rw [ih hFound]
            cases delimited? quoted (rest.foldl nest (nest depth c))
              tail with
            | none => rfl
            | some found => rfl

/- A body is balanced. -/
theorem isBalanced_of_isBody
    {quoted : Bool}
    {t : Text}
    (h : t.isBody quoted = true) : t.isBalanced = true := by
  rw [isBody, isBodyFrom, Bool.and_eq_true] at h
  exact h.1

/- A balanced text can be braced. -/
theorem isBody_false (t : Text) :
    t.isBody false = t.isBalanced := by
  simp [isBody, isBodyFrom, isBalanced]

end Text

------------------------------------------------------------
-- Reading Bodies
------------------------------------------------------------

namespace Scanner

/- A body and its delimiter are read. -/
theorem reads_readBody
    {quoted : Bool}
    {s : Scanner}
    {body after : Text}
    (hBody : body.isBody quoted = true)
    (hRest : s.rest = body ++ Text.bodyEnd quoted :: after) :
    (s.readBody quoted).Reads (fun text => text = body) after := by
  have hEnd : ¬ (quoted = true ∧ Text.bodyEnd quoted = '}') := by
    rintro ⟨rfl, hClose⟩
    exact absurd hClose (by decide)
  rw [readBody, hRest, Text.delimited?_append hBody
    (Text.endsBody_bodyEnd quoted)]
  simp only [if_neg hEnd]
  refine Scanned.reads_ok rfl ?_
  simp [read, hRest]

/- A body that has been read is one. -/
theorem isBody_of_readBody
    {quoted : Bool}
    {s s' : Scanner}
    {body : Text}
    (h : s.readBody quoted = (.ok body, s')) :
    body.isBody quoted = true := by
  rw [readBody] at h
  split at h
  · cases h
  · rename_i hFound
    split at h
    · cases h
    · cases h
      exact (Text.isBody_of_delimited? hFound).1

end Scanner

end Bibliography
