import Bibliography.Proofs.Table.Keys
import Bibliography.Table.Citation

/-
  What a list of citations is resolved to.

  The resolved list has two parts.  The first holds the citations
  with wildcards replaced, each key at its first place only.  The
  second holds the keys that enough of them refer to, each at the
  place where the references became enough.  Both are described
  here by positions in a list, without the state of any loop.

  Key definitions include:
    * `atPositions`
    * `Table.firstSpellings`
    * `Table.refersTo`
    * `Table.reachedAt?`
    * `Table.Resolution`

  Key statements include:
    * `Table.dropRepeats_eq`
    * `Table.reaching_eq`
    * `Table.resolveCitations_exact`
-/

------------------------------------------------------------
-- Positions
------------------------------------------------------------

namespace Bibliography

variable {α β : Type}

/-
  What a function gives for the positions of a list, in order.  It
  is told the items before a position and the item there.
-/
def atPositions
    (f : List α → α → Option β)
    (as : List α) : List β :=
  (List.range as.length).filterMap
    (fun i => as[i]?.bind (f (as.take i)))

/- The first item comes before all other positions. -/
theorem atPositions_cons
    (f : List α → α → Option β)
    (a : α)
    (as : List α) :
    atPositions f (a :: as) =
      (f [] a).toList ++
        atPositions (fun before => f (a :: before)) as := by
  unfold atPositions
  rw [List.length_cons, List.range_succ_eq_map, List.filterMap_cons,
    List.filterMap_map]
  cases h : f [] a with
  | none => simp [h, Function.comp_def]
  | some b => simp [h, Function.comp_def]

/- What is given may be changed afterwards. -/
theorem map_atPositions
    {γ : Type}
    (g : β → γ)
    (f : List α → α → Option β)
    (as : List α) :
    (atPositions f as).map g =
      atPositions (fun before a => (f before a).map g) as := by
  unfold atPositions
  rw [List.map_filterMap]
  simp only [Option.map_bind, Function.comp_def]

namespace Table

------------------------------------------------------------
-- Resolutions
------------------------------------------------------------

/- The keys at positions before which no key is the same. -/
def firstSpellings : List Text → List Text :=
  atPositions (fun before key =>
    if ∀ earlier ∈ before, sameKey earlier key = false then some key
    else none)

/- Whether a citation has an entry that refers to a key. -/
def refersTo
    (t : Table)
    (target citation : Text) : Bool :=
  (t.get? citation).any (fun e =>
    e.reference?.any (sameKey · target))

/-
  What the entry of a citation refers to, if that is not cited
  itself and the citation makes the number of references to it
  `count`.  It is in the spelling of the table if the table has
  it.
-/
def reachedAt?
    (t : Table)
    (cited : List Text)
    (count : Nat)
    (before : List Text)
    (citation : Text) : Option Text := do
  let e ← t.get? citation
  let target ← e.reference?
  if (∀ other ∈ cited, sameKey other target = false) ∧
      (before ++ [citation]).countP (t.refersTo target) = count then
    some ((t.canonicalKey? target).getD target)
  else none

/- The two parts of what citations are resolved to. -/
structure Resolution
    (t : Table)
    (citations : List Text)
    (minimum : Nat)
    (cited found : List Text) : Prop where
  distinct : (cited ++ found).Pairwise
    (fun a b => sameKey a b = false)
  cited_eq : cited = firstSpellings
    (citations.flatMap (fun c => if c = ['*'] then t.keys else [c]))
  found_eq : found =
    atPositions (t.reachedAt? cited (max minimum 1)) cited
  found_iff : ∀ key, (∃ target ∈ found, sameKey target key = true) ↔
    (∀ other ∈ cited, sameKey other key = false) ∧
      max minimum 1 ≤ cited.countP (t.refersTo key)

------------------------------------------------------------
-- First Spellings
------------------------------------------------------------

/- The first key is left if its like has not been seen. -/
theorem dropRepeats_cons
    (seen : List Text)
    (key : Text)
    (rest : List Text) :
    dropRepeats seen (key :: rest) =
      if key.lower ∈ seen then dropRepeats seen rest
      else key :: dropRepeats (key.lower :: seen) rest := rfl

/-
  What is left of keys after others have been seen, by positions.
  The induction is on the keys; a key that is read moves from the
  keys before a position to those seen.
-/
theorem dropRepeats_eq
    (seen keys : List Text) :
    dropRepeats seen keys =
      atPositions (fun before key =>
        if key.lower ∉ seen ∧
            ∀ earlier ∈ before, sameKey earlier key = false then
          some key
        else none) keys := by
  induction keys generalizing seen with
  | nil => rfl
  | cons key rest ih =>
      rw [atPositions_cons, dropRepeats_cons]
      by_cases hSeen : key.lower ∈ seen
      · rw [if_pos hSeen, if_neg (fun h => h.1 hSeen), ih]
        rw [Option.toList_none, List.nil_append]
        congr 1
        funext before other
        congr 1
        rw [List.forall_mem_cons, eq_iff_iff]
        refine and_congr_right ?_
        intro hOther
        refine (and_iff_right ?_).symm
        rw [← Bool.not_eq_true, sameKey_iff]
        intro hEq
        exact hOther (hEq ▸ hSeen)
      · have hFirst : ∀ earlier ∈ [], sameKey earlier key = false := by
          simp
        rw [if_neg hSeen, if_pos ⟨hSeen, hFirst⟩, ih]
        rw [Option.toList_some, List.singleton_append]
        congr 2
        funext before other
        congr 1
        rw [List.forall_mem_cons, List.mem_cons, not_or,
          ← Bool.not_eq_true, sameKey_iff, eq_iff_iff, ← and_assoc]
        refine and_congr_left' ?_
        rw [and_comm, eq_comm]

/- Keys that are left differ from those seen and from another. -/
theorem distinct_dropRepeats
    (seen keys : List Text) :
    (∀ key ∈ dropRepeats seen keys, key.lower ∉ seen) ∧
      (dropRepeats seen keys).Pairwise
        (fun a b => sameKey a b = false) := by
  induction keys generalizing seen with
  | nil => exact ⟨List.forall_mem_nil _, List.Pairwise.nil⟩
  | cons key rest ih =>
      rw [dropRepeats_cons]
      split
      · exact ih seen
      · rename_i hNew
        rcases ih (key.lower :: seen) with ⟨hOther, hRest⟩
        refine ⟨List.forall_mem_cons.2 ⟨hNew, ?_⟩,
          List.pairwise_cons.2 ⟨?_, hRest⟩⟩
        · intro other hMem hSeen
          exact hOther other hMem (List.mem_cons_of_mem _ hSeen)
        · intro other hMem
          rw [← Bool.not_eq_true, sameKey_iff]
          intro hSame
          exact hOther other hMem (hSame ▸ List.mem_cons_self)

------------------------------------------------------------
-- Counting References
------------------------------------------------------------

/-
  The references that reach a count, by the positions of those
  that make them.  The induction is on the latter; a reference
  that is passed is counted among those before.
-/
theorem reaching_eq
    (count : Nat)
    (counted : List Text)
    (refer : Text → Option Text)
    (citations : List Text) :
    reaching count counted (citations.filterMap refer) =
      atPositions (fun before citation => do
        let target ← refer citation
        if counted.count target.lower +
            (before ++ [citation]).countP
              (fun c => (refer c).any (sameKey · target)) = count then
          some target
        else none) citations := by
  induction citations generalizing counted with
  | nil => rfl
  | cons citation rest ih =>
      rw [atPositions_cons, List.filterMap_cons]
      cases hRefer : refer citation with
      | none =>
          dsimp only
          rw [ih]
          simp [hRefer]
      | some target =>
          have hLater : ∀ other : Text, ∀ before : List Text,
              counted.count other.lower +
                  (citation :: before).countP
                    (fun c => (refer c).any (sameKey · other)) =
                (target.lower :: counted).count other.lower +
                  before.countP
                    (fun c => (refer c).any (sameKey · other)) := by
            intro other before
            rw [List.countP_cons, List.count_cons, hRefer,
              Option.any_some, sameKey]
            omega
          dsimp only
          rw [reaching, ih]
          simp only [List.cons_append, List.nil_append, hLater]
          dsimp only [Option.bind_eq_bind, Option.bind_some]
          rw [List.count_cons_self, List.countP_nil]
          split <;> rfl

/- The references reach a count under the keys counted so often. -/
theorem mem_reaching_iff
    {count : Nat}
    {counted targets : List Text}
    {key : Text} :
    (∃ target ∈ reaching count counted targets,
        sameKey target key = true) ↔
      counted.count key.lower < count ∧
        count ≤ counted.count key.lower +
          targets.countP (sameKey · key) := by
  induction targets generalizing counted with
  | nil =>
      simp only [reaching, List.countP_nil]
      constructor
      · rintro ⟨target, hMem, _⟩
        cases hMem
      · omega
  | cons target rest ih =>
      have hLater := @ih (target.lower :: counted)
      rw [List.count_cons] at hLater
      rw [reaching, List.countP_cons]
      by_cases hSame : sameKey target key = true
      · have hEq := sameKey_iff.1 hSame
        rw [if_pos hSame]
        rw [if_pos (beq_iff_eq.2 hEq)] at hLater
        rw [hEq]
        split
        · rename_i hReached
          refine iff_of_true
            ⟨target, List.mem_cons_self, hSame⟩ ?_
          omega
        · rw [hEq] at hLater
          rw [hLater]
          omega
      · have hNe : target.lower ≠ key.lower :=
          fun hEq => hSame (sameKey_iff.2 hEq)
        rw [if_neg (fun h => hNe (beq_iff_eq.1 h))] at hLater
        simp only [if_neg hSame, Nat.add_zero] at hLater ⊢
        rw [← hLater]
        split
        · constructor
          · rintro ⟨other, hMem, hOther⟩
            rcases List.mem_cons.1 hMem with rfl | hMem
            · exact absurd hOther hSame
            · exact ⟨other, hMem, hOther⟩
          · rintro ⟨other, hMem, hOther⟩
            exact ⟨other, List.mem_cons_of_mem _ hMem, hOther⟩
        · exact Iff.rfl

/- A count is reached once only. -/
theorem pairwise_reaching
    (count : Nat)
    (counted targets : List Text) :
    (reaching count counted targets).Pairwise
      (fun a b => sameKey a b = false) := by
  induction targets generalizing counted with
  | nil => exact List.Pairwise.nil
  | cons target rest ih =>
      rw [reaching]
      split
      · rename_i hReached
        refine List.pairwise_cons.2 ⟨?_, ih _⟩
        intro other hMem
        rw [← Bool.not_eq_true, sameKey_comm]
        intro hSame
        have hLess := (mem_reaching_iff.1 ⟨other, hMem, hSame⟩).1
        rw [List.count_cons_self] at hLess
        omega
      · exact ih _

------------------------------------------------------------
-- Cross-References
------------------------------------------------------------

variable {t : Table}
variable {cited : List Text}

/- A citation without an entry refers to nothing. -/
theorem crossrefOf?_eq
    (t : Table)
    (citation : Text) :
    t.crossrefOf? citation =
      (t.get? citation).bind Entry.reference? :=
  congrArg (t.get? citation).bind (funext Entry.crossref?_eq)

theorem refersTo_eq
    (t : Table)
    (target citation : Text) :
    t.refersTo target citation =
      (t.crossrefOf? citation).any (sameKey · target) := by
  rw [refersTo, crossrefOf?_eq]
  cases t.get? citation <;> rfl

theorem reachedAt?_eq
    (t : Table)
    (cited : List Text)
    (count : Nat)
    (before : List Text)
    (citation : Text) :
    t.reachedAt? cited count before citation =
      (t.crossrefOf? citation).bind (fun target =>
        if (∀ other ∈ cited, sameKey other target = false) ∧
            (before ++ [citation]).countP (t.refersTo target) =
              count then
          some ((t.canonicalKey? target).getD target)
        else none) := by
  rw [reachedAt?, crossrefOf?_eq]
  cases t.get? citation <;> rfl

/- The reference of a citation to a key that is not cited. -/
def outsideRef?
    (t : Table)
    (cited : List Text)
    (citation : Text) : Option Text :=
  (t.crossrefOf? citation).filter
    (fun target => !(cited.map Text.lower).contains target.lower)

theorem outsideRefs_eq
    (t : Table)
    (cited : List Text) :
    t.outsideRefs cited = cited.filterMap (t.outsideRef? cited) :=
  List.filter_filterMap

theorem countP_outsideRefs
    (key : Text) :
    (t.outsideRefs cited).countP (sameKey · key) =
      cited.countP
        (fun c => (t.outsideRef? cited c).any (sameKey · key)) := by
  rw [outsideRefs_eq, List.countP_filterMap]
  congr 1
  funext c
  cases t.outsideRef? cited c <;> rfl

/- A key is cited or not, whatever its case. -/
theorem not_contains_lower_iff
    {target : Text} :
    (!(cited.map Text.lower).contains target.lower) = true ↔
      ∀ other ∈ cited, sameKey other target = false := by
  rw [Bool.not_eq_true', ← Bool.not_eq_true, List.contains_iff_mem,
    List.mem_map]
  constructor
  · intro hNot other hMem
    rw [← Bool.not_eq_true, sameKey_iff]
    intro hEq
    exact hNot ⟨other, hMem, hEq⟩
  · rintro hNot ⟨other, hMem, hEq⟩
    have hDiffers := hNot other hMem
    rw [sameKey_iff.2 hEq] at hDiffers
    cases hDiffers

/- All references to a key that is not cited are counted. -/
theorem any_outsideRef?
    {target : Text}
    (h : ∀ other ∈ cited, sameKey other target = false)
    (citation : Text) :
    (t.outsideRef? cited citation).any (sameKey · target) =
      t.refersTo target citation := by
  rw [refersTo_eq, outsideRef?]
  cases t.crossrefOf? citation with
  | none => rfl
  | some written =>
      rw [Option.any_some, Option.filter_some]
      split
      · rfl
      · rename_i hCited
        rw [not_contains_lower_iff] at hCited
        symm
        rw [Option.any_none, ← Bool.not_eq_true]
        intro hSame
        apply hCited
        intro other hMem
        rw [sameKey, sameKey_iff.1 hSame]
        exact h other hMem

/- The spelling of a target differs from it in case at most. -/
theorem lower_spelling
    (t : Table)
    (target : Text) :
    ((t.canonicalKey? target).getD target).lower = target.lower := by
  cases h : t.canonicalKey? target with
  | none => rfl
  | some canonical => exact lower_of_canonicalKey? h

/- The keys that are referred to often enough, by positions. -/
theorem crossreferenced_eq
    (t : Table)
    (cited : List Text)
    (minimum : Nat) :
    t.crossreferenced cited minimum =
      atPositions (t.reachedAt? cited (max minimum 1)) cited := by
  unfold crossreferenced
  rw [outsideRefs_eq, reaching_eq, map_atPositions]
  congr 1
  funext before citation
  rw [reachedAt?_eq]
  cases hRefer : t.crossrefOf? citation with
  | none => simp [outsideRef?, hRefer]
  | some target =>
      rw [outsideRef?, hRefer, Option.filter_some]
      by_cases hOutside :
          ∀ other ∈ cited, sameKey other target = false
      · rw [if_pos (not_contains_lower_iff.2 hOutside)]
        dsimp only [Option.bind_eq_bind, Option.bind_some]
        simp only [any_outsideRef? hOutside]
        rw [List.count_nil, Nat.zero_add]
        simp only [and_iff_right hOutside]
        split <;> rfl
      · rw [if_neg (fun h => hOutside (not_contains_lower_iff.1 h))]
        dsimp only [Option.bind_eq_bind, Option.bind_some]
        rw [if_neg (fun h => hOutside h.1)]
        rfl

/- The keys that are referred to often enough, as a set. -/
theorem mem_crossreferenced_iff
    {minimum : Nat}
    {key : Text} :
    (∃ target ∈ t.crossreferenced cited minimum,
        sameKey target key = true) ↔
      (∀ other ∈ cited, sameKey other key = false) ∧
        max minimum 1 ≤ cited.countP (t.refersTo key) := by
  have hSpelling : (∃ target ∈ t.crossreferenced cited minimum,
      sameKey target key = true) ↔
        ∃ target ∈ reaching (max minimum 1) [] (t.outsideRefs cited),
          sameKey target key = true := by
    unfold crossreferenced
    simp only [List.mem_map, sameKey_iff]
    constructor
    · rintro ⟨_, ⟨target, hMem, rfl⟩, hSame⟩
      exact ⟨target, hMem, (lower_spelling t target).symm.trans hSame⟩
    · rintro ⟨target, hMem, hSame⟩
      exact ⟨_, ⟨target, hMem, rfl⟩,
        (lower_spelling t target).trans hSame⟩
  have hPositive : 0 < max minimum 1 := by omega
  rw [hSpelling, mem_reaching_iff, List.count_nil, countP_outsideRefs,
    Nat.zero_add, and_iff_right hPositive]
  by_cases hOutside : ∀ other ∈ cited, sameKey other key = false
  · rw [and_iff_right hOutside]
    simp only [any_outsideRef? hOutside]
  · refine iff_of_false ?_ (fun h => hOutside h.1)
    have hNone : ∀ c ∈ cited,
        ¬ (t.outsideRef? cited c).any (sameKey · key) = true := by
      intro c _ hAny
      rcases (Option.any_eq_true ..).1 hAny with ⟨target, hRef, hSame⟩
      have hTarget := (Option.filter_eq_some_iff.1 hRef).2
      rw [not_contains_lower_iff] at hTarget
      apply hOutside
      intro other hMem
      rw [sameKey, ← sameKey_iff.1 hSame]
      exact hTarget other hMem
    rw [List.countP_eq_zero.2 hNone]
    omega

/- No two keys of a resolved list are the same. -/
theorem pairwise_resolveCitations
    (t : Table)
    (citations : List Text)
    (minimum : Nat) :
    (t.resolveCitations citations minimum).Pairwise
      (fun a b => sameKey a b = false) := by
  unfold resolveCitations
  refine List.pairwise_append.2
    ⟨(distinct_dropRepeats [] _).2, ?_, ?_⟩
  · unfold crossreferenced
    rw [List.pairwise_map]
    refine (pairwise_reaching _ _ _).imp ?_
    intro a b hDiffer
    rw [sameKey, lower_spelling, lower_spelling]
    exact hDiffer
  · intro key hKey target hTarget
    exact (mem_crossreferenced_iff.1
      ⟨target, hTarget, sameKey_self target⟩).1 key hKey

/-
  Citations are resolved to the keys they stand for, each once,
  followed by the keys that enough of those refer to.
-/
theorem resolveCitations_exact
    (t : Table)
    (citations : List Text)
    (minimum : Nat) :
    ∃ cited found,
      t.resolveCitations citations minimum = cited ++ found ∧
        Resolution t citations minimum cited found := by
  refine ⟨t.expandCitations citations,
    t.crossreferenced (t.expandCitations citations) minimum, rfl,
    ?_, ?_, crossreferenced_eq .., fun _ => mem_crossreferenced_iff⟩
  · exact pairwise_resolveCitations t citations minimum
  · rw [expandCitations, dropRepeats_eq, firstSpellings]
    simp only [List.not_mem_nil, not_false_iff, true_and]
    rfl

/- A missing key that two of four citations refer to. -/
example :
    let entry := fun (target : Text) =>
      (Entry.ofType "misc".toList).insertField
        Entry.crossrefField target
    let t : Table :=
      ⟨[("a".toList, entry "P".toList),
        ("B".toList, entry "p".toList),
        ("c".toList, entry "a".toList)], []⟩
    t.resolveCitations ["A".toList, "*".toList, "z".toList] 2 =
      ["A".toList, "B".toList, "c".toList, "z".toList,
        "p".toList] := by
  decide

end Table

end Bibliography
