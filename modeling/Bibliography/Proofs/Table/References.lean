import Bibliography.Proofs.Table.Keys
import Bibliography.Table.Lookup
import Mathlib.Data.List.Chain

/-
  What looking a field up through references finds.

  The entries that are reached from a key form a chain: each one
  refers to the next, none comes twice, and the chain ends where
  the next entry would be missing or would be one of its own.  A
  lookup visits the entries of the chain up to the first that has
  the field.  If none has it, a reference of the last entry to a
  key that the table does not have is an error.

  Key definitions include:
    * `Entry.supplied?`
    * `Table.Chain`
    * `Table.chainFrom`
    * `Table.answer`
    * `Table.watchLookup`
    * `Table.SameButKey`

  Key statements include:
    * `Table.chainInduction`
    * `Table.chain_iff`
    * `Table.fst_watchLookup`
    * `Table.lookupFrom_eq_answer`
    * `Table.lookupField_along_chain`
-/

------------------------------------------------------------
-- Chains of References
------------------------------------------------------------

namespace Bibliography

/-
  What an entry supplies for a field: the field itself, or else
  its persons in the role of that name as one text.
-/
def Entry.supplied?
    (e : Entry)
    (field : Text) : Option Text :=
  (e.field? field).or (e.renderPersons? field)

/- A lookup takes from an entry what it supplies. -/
theorem Entry.ownValue?_eq
    (e : Entry)
    (field : Text) : e.ownValue? field = e.supplied? field := by
  rw [ownValue?, supplied?]
  cases e.field? field <;> rfl

namespace Table

variable {t : Table}
variable {visited : List Text}
variable {key field : Text}

/-
  The entries that are reached from a key through references, each
  with the key by which it is reached.  Before an entry that would
  come again the chain ends.
-/
structure Chain
    (t : Table)
    (key : Text)
    (chain : List (Text × Entry)) : Prop where
  starts : chain.head?.map (fun item => item.1) =
    if t.contains key = true then some key else none
  found : ∀ item ∈ chain, t.get? item.1 = some item.2
  linked : chain.IsChain (fun a b => a.2.reference? = some b.1)
  distinct : chain.Pairwise (fun a b => sameKey a.1 b.1 = false)
  ends : ∀ last ∈ chain.getLast?, ∀ target ∈ last.2.reference?,
    t.contains target = true →
      ∃ item ∈ chain, sameKey item.1 target = true

/- The chain from a key after the lower-case keys visited so far. -/
def chainFrom
    (t : Table)
    (visited : List Text)
    (key : Text) : List (Text × Entry) :=
  match t.get? key with
  | none => []
  | some e =>
      match e.reference? with
      | none => [(key, e)]
      | some target =>
          if _hFound : t.contains target = true then
            if _hSeen : target.lower ∈ key.lower :: visited then
              [(key, e)]
            else
              (key, e) :: chainFrom t (key.lower :: visited) target
          else [(key, e)]
termination_by t.unvisited (key.lower :: visited)
decreasing_by exact unvisited_lt _hFound _hSeen

theorem contains_of_get?
    {e : Entry}
    (h : t.get? key = some e) : t.contains key = true := by
  rcases Option.map_eq_some_iff.1 h with ⟨item, hFind, _⟩
  rw [contains, hFind]
  rfl

theorem contains_of_get?_eq_none
    (h : t.get? key = none) : t.contains key = false := by
  rw [contains, Option.map_eq_none_iff.1 h]
  rfl

theorem chainFrom_of_unknown
    (hGet : t.get? key = none) : t.chainFrom visited key = [] := by
  rw [chainFrom]
  simp only [hGet]

/- An entry that leads to no other one is the last. -/
theorem chainFrom_of_last
    {e : Entry}
    (hGet : t.get? key = some e)
    (hLast : ∀ target, e.reference? = some target →
      t.contains target = true → target.lower ∈ key.lower :: visited) :
    t.chainFrom visited key = [(key, e)] := by
  rw [chainFrom]
  simp only [hGet]
  split
  · rfl
  · rename_i target hRefers
    split
    · rename_i hFound
      rw [dif_pos (hLast target hRefers hFound)]
    · rfl

/- An entry that leads to another one comes before its chain. -/
theorem chainFrom_of_next
    {e : Entry}
    {target : Text}
    (hGet : t.get? key = some e)
    (hRefers : e.reference? = some target)
    (hFound : t.contains target = true)
    (hNew : target.lower ∉ key.lower :: visited) :
    t.chainFrom visited key =
      (key, e) :: t.chainFrom (key.lower :: visited) target := by
  rw [chainFrom]
  simp only [hGet, hRefers, dif_pos hFound, dif_neg hNew]

/-
  Induction along a chain: a key may be unknown, its entry may be
  the last one, or it may lead to the key of the next one.
-/
@[elab_as_elim]
theorem chainInduction
    (t : Table)
    {P : List Text → Text → Prop}
    (unknown : ∀ visited key, t.get? key = none → P visited key)
    (last : ∀ visited key e, t.get? key = some e →
      (∀ target, e.reference? = some target →
        t.contains target = true →
          target.lower ∈ key.lower :: visited) → P visited key)
    (next : ∀ visited key e target, t.get? key = some e →
      e.reference? = some target → t.contains target = true →
        target.lower ∉ key.lower :: visited →
          P (key.lower :: visited) target → P visited key)
    (visited : List Text)
    (key : Text) : P visited key := by
  fun_induction chainFrom t visited key with
  | case1 visited key hGet => exact unknown visited key hGet
  | case2 visited key e hGet hNone =>
      refine last visited key e hGet ?_
      intro target hRefers
      rw [hNone] at hRefers
      cases hRefers
  | case3 visited key e hGet target hRefers _ hSeen =>
      refine last visited key e hGet ?_
      intro target' hRefers' _
      cases hRefers.symm.trans hRefers'
      exact hSeen
  | case4 visited key e hGet target hRefers hFound hNew ih =>
      exact next visited key e target hGet hRefers hFound hNew ih
  | case5 visited key e hGet target hRefers hMissing =>
      refine last visited key e hGet ?_
      intro target' hRefers' hFound
      cases hRefers.symm.trans hRefers'
      exact absurd hFound hMissing

/- A chain from a known key begins with it. -/
theorem exists_chainFrom_cons
    (visited : List Text)
    (h : t.contains key = true) :
    ∃ e rest, t.get? key = some e ∧
      t.chainFrom visited key = (key, e) :: rest := by
  cases visited, key using t.chainInduction with
  | unknown visited key hGet =>
      rw [contains_of_get?_eq_none hGet] at h
      cases h
  | last visited key e hGet hLast =>
      exact ⟨e, [], hGet, chainFrom_of_last hGet hLast⟩
  | next visited key e target hGet hRefers hFound hNew _ =>
      exact ⟨e, _, hGet,
        chainFrom_of_next hGet hRefers hFound hNew⟩

/-
  A chain begins with its key, has the entries of the table, and
  is linked.
-/
theorem linked_chainFrom
    (t : Table)
    (visited : List Text)
    (key : Text) :
    (t.chainFrom visited key).head?.map (fun item => item.1) =
        (if t.contains key = true then some key else none) ∧
      (∀ item ∈ t.chainFrom visited key,
        t.get? item.1 = some item.2) ∧
      (t.chainFrom visited key).IsChain
        (fun a b => a.2.reference? = some b.1) := by
  induction visited, key using t.chainInduction with
  | unknown visited key hGet =>
      rw [chainFrom_of_unknown hGet, contains_of_get?_eq_none hGet]
      exact ⟨rfl, List.forall_mem_nil _, .nil⟩
  | last visited key e hGet hLast =>
      rw [chainFrom_of_last hGet hLast, contains_of_get? hGet]
      exact ⟨rfl, List.forall_mem_singleton.2 hGet, .singleton _⟩
  | next visited key e target hGet hRefers hFound hNew ih =>
      rcases ih with ⟨_, hItems, hLinked⟩
      rw [chainFrom_of_next hGet hRefers hFound hNew,
        contains_of_get? hGet]
      refine ⟨rfl, List.forall_mem_cons.2 ⟨hGet, hItems⟩, ?_⟩
      rcases exists_chainFrom_cons (key.lower :: visited) hFound with
        ⟨e', rest, _, hRest⟩
      rw [hRest] at hLinked ⊢
      exact .cons_cons hRefers hLinked

/-
  The keys of a chain differ from each other and from those
  visited before it.
-/
theorem distinct_chainFrom
    (t : Table)
    (visited : List Text)
    (key : Text)
    (hFresh : key.lower ∉ visited) :
    (∀ item ∈ t.chainFrom visited key, item.1.lower ∉ visited) ∧
      (t.chainFrom visited key).Pairwise
        (fun a b => sameKey a.1 b.1 = false) := by
  induction visited, key using t.chainInduction with
  | unknown visited key hGet =>
      rw [chainFrom_of_unknown hGet]
      exact ⟨List.forall_mem_nil _, .nil⟩
  | last visited key e hGet hLast =>
      rw [chainFrom_of_last hGet hLast]
      exact ⟨List.forall_mem_singleton.2 hFresh,
        List.pairwise_singleton ..⟩
  | next visited key e target hGet hRefers hFound hNew ih =>
      rcases ih hNew with ⟨hItems, hDistinct⟩
      rw [chainFrom_of_next hGet hRefers hFound hNew]
      constructor
      · refine List.forall_mem_cons.2 ⟨hFresh, ?_⟩
        intro item hMem hIn
        exact hItems item hMem (List.mem_cons_of_mem _ hIn)
      · refine List.pairwise_cons.2 ⟨?_, hDistinct⟩
        intro item hMem
        rw [← Bool.not_eq_true, sameKey_iff]
        intro hSame
        exact hItems item hMem (hSame ▸ List.mem_cons_self)

/-
  Where a chain ends, a reference to a key of the table leads back
  to the chain or to what was visited before it.
-/
theorem ends_chainFrom
    (t : Table)
    (visited : List Text)
    (key : Text) :
    ∀ last ∈ (t.chainFrom visited key).getLast?,
      ∀ target ∈ last.2.reference?, t.contains target = true →
        target.lower ∈ visited ∨
          ∃ item ∈ t.chainFrom visited key,
            sameKey item.1 target = true := by
  induction visited, key using t.chainInduction with
  | unknown visited key hGet =>
      rw [chainFrom_of_unknown hGet]
      intro last hLast
      cases hLast
  | last visited key e hGet hLast =>
      rw [chainFrom_of_last hGet hLast]
      intro last hMem target hTarget hContains
      cases hMem
      rcases List.mem_cons.1 (hLast target hTarget hContains) with
        hKey | hBefore
      · exact .inr ⟨_, List.mem_cons_self, sameKey_iff.2 hKey.symm⟩
      · exact .inl hBefore
  | next visited key e target hGet hRefers hFound hNew ih =>
      rcases exists_chainFrom_cons (key.lower :: visited) hFound with
        ⟨e', rest, _, hRest⟩
      rw [chainFrom_of_next hGet hRefers hFound hNew]
      intro last hMem target' hTarget hContains
      rw [hRest, List.getLast?_cons_cons, ← hRest] at hMem
      rcases ih last hMem target' hTarget hContains with
        hBefore | ⟨item, hItem, hSame⟩
      · rcases List.mem_cons.1 hBefore with hKey | hBefore
        · exact .inr
            ⟨_, List.mem_cons_self, sameKey_iff.2 hKey.symm⟩
        · exact .inl hBefore
      · exact .inr ⟨item, List.mem_cons_of_mem _ hItem, hSame⟩

theorem chain_chainFrom
    (t : Table)
    (key : Text) : t.Chain key (t.chainFrom [] key) := by
  rcases t.linked_chainFrom [] key with ⟨hStarts, hFound, hLinked⟩
  have hDistinct :=
    (t.distinct_chainFrom [] key List.not_mem_nil).2
  refine ⟨hStarts, hFound, hLinked, hDistinct, ?_⟩
  intro last hLast target hTarget hContains
  rcases t.ends_chainFrom [] key last hLast target hTarget hContains
    with hBefore | hItem
  · cases hBefore
  · exact hItem

/-
  Of two chains from one key one is the beginning of the other,
  as an entry refers to one key at most.
-/
theorem prefix_or_prefix
    {as bs : List (Text × Entry)}
    (hHead : as.head?.map (fun item => item.1) =
      bs.head?.map (fun item => item.1))
    (hAs : ∀ item ∈ as, t.get? item.1 = some item.2)
    (hBs : ∀ item ∈ bs, t.get? item.1 = some item.2)
    (hLinkAs : as.IsChain (fun a b => a.2.reference? = some b.1))
    (hLinkBs : bs.IsChain (fun a b => a.2.reference? = some b.1)) :
    as <+: bs ∨ bs <+: as := by
  induction as generalizing bs with
  | nil => exact .inl List.nil_prefix
  | cons a as ih =>
      cases bs with
      | nil => exact .inr List.nil_prefix
      | cons b bs =>
          have hKey : a.1 = b.1 := Option.some.inj hHead
          have hA := hAs a List.mem_cons_self
          have hB := hBs b List.mem_cons_self
          rw [hKey, hB] at hA
          have hItem : b = a :=
            Prod.ext hKey.symm (Option.some.inj hA)
          subst hItem
          rw [List.prefix_cons_inj, List.prefix_cons_inj]
          cases as with
          | nil => exact .inl List.nil_prefix
          | cons a' as =>
              cases bs with
              | nil => exact .inr List.nil_prefix
              | cons b' bs =>
                  rw [List.isChain_cons_cons] at hLinkAs hLinkBs
                  refine ih ?_ ?_ ?_ hLinkAs.2 hLinkBs.2
                  · exact hLinkAs.1.symm.trans hLinkBs.1
                  · exact (List.forall_mem_cons.1 hAs).2
                  · exact (List.forall_mem_cons.1 hBs).2

/-
  A chain is not longer than another that begins with it: the next
  entry would be one that it has already.
-/
theorem Chain.eq_of_prefix
    {as bs : List (Text × Entry)}
    (hAs : t.Chain key as)
    (hBs : t.Chain key bs)
    (h : as <+: bs) : as = bs := by
  rcases h with ⟨rest, rfl⟩
  cases rest with
  | nil => exact (List.append_nil as).symm
  | cons b rest =>
      cases hLast : as.getLast? with
      | none =>
          rw [List.getLast?_eq_none_iff.1 hLast] at hAs hBs
          have hStarts := hBs.starts
          rw [← hAs.starts] at hStarts
          cases hStarts
      | some last =>
          have hLink :=
            (List.isChain_append.1 hBs.linked).2.2 last hLast b rfl
          have hFound := hBs.found b
            (List.mem_append_right _ List.mem_cons_self)
          rcases hAs.ends last hLast b.1 hLink
            (contains_of_get? hFound) with ⟨item, hMem, hSame⟩
          have hDiffer := (List.pairwise_append.1 hBs.distinct).2.2
            item hMem b List.mem_cons_self
          rw [hSame] at hDiffer
          cases hDiffer

/- There is one chain from a key. -/
theorem chain_iff
    {chain : List (Text × Entry)} :
    t.Chain key chain ↔ chain = t.chainFrom [] key := by
  constructor
  · intro hChain
    have hOther := chain_chainFrom t key
    have hHead := hChain.starts.trans hOther.starts.symm
    rcases prefix_or_prefix hHead hChain.found hOther.found
      hChain.linked hOther.linked with hPrefix | hPrefix
    · exact hChain.eq_of_prefix hOther hPrefix
    · exact (hOther.eq_of_prefix hChain hPrefix).symm
  · rintro rfl
    exact chain_chainFrom t key

------------------------------------------------------------
-- Values on a Chain
------------------------------------------------------------

/-
  What the last entry of a chain gives for a field that it does
  not have: its reference must be to a key of the table.
-/
def atEnd
    (t : Table)
    (last : Text × Entry) : Except Error (Option Text) :=
  match last.2.reference? with
  | none => .ok none
  | some target =>
      if t.contains target = true then .ok none
      else .error (.of (.missingCrossref last.1 target))

/-
  The value of a field on a chain is that of the first entry that
  has it.  If none has it, the last entry decides.
-/
def answer
    (t : Table)
    (field : Text)
    (chain : List (Text × Entry)) : Except Error (Option Text) :=
  match chain.findSome? (fun item => item.2.supplied? field) with
  | some value => .ok (some value)
  | none =>
      match chain.getLast? with
      | none => .ok none
      | some last => t.atEnd last

/- A lookup together with the entries that it visits. -/
def watchLookup
    (t : Table)
    (field : Text)
    (visited : List Text)
    (key : Text) :
    List (Text × Entry) × Except Error (Option Text) :=
  match t.get? key with
  | none => ([], .ok none)
  | some e =>
      match e.ownValue? field with
      | some value => ([(key, e)], .ok (some value))
      | none =>
          match e.crossref? with
          | none => ([(key, e)], .ok none)
          | some target =>
              if _hFound : t.contains target = true then
                if _hSeen :
                    target.lower ∈ key.lower :: visited then
                  ([(key, e)], .ok none)
                else
                  let later :=
                    watchLookup t field (key.lower :: visited) target
                  ((key, e) :: later.1, later.2)
              else
                ([(key, e)],
                  .error (.of (.missingCrossref key target)))
termination_by t.unvisited (key.lower :: visited)
decreasing_by exact unvisited_lt _hFound _hSeen

/- Watching a lookup does not change what it gives. -/
theorem snd_watchLookup
    (t : Table)
    (field : Text)
    (visited : List Text)
    (key : Text) :
    (t.watchLookup field visited key).2 =
      t.lookupFrom field visited key := by
  fun_induction watchLookup t field visited key with
  | case1 visited key hGet =>
      rw [lookupFrom]
      simp only [hGet]
  | case2 visited key e hGet value hOwn =>
      rw [lookupFrom]
      simp only [hGet, hOwn]
  | case3 visited key e hGet hOwn hRefers =>
      rw [lookupFrom]
      simp only [hGet, hOwn, hRefers]
  | case4 visited key e hGet hOwn target hRefers hFound hSeen =>
      rw [lookupFrom]
      simp only [hGet, hOwn, hRefers, dif_pos hFound, dif_pos hSeen]
  | case5 visited key e hGet hOwn target hRefers hFound hSeen _ ih =>
      rw [lookupFrom]
      simp only [hGet, hOwn, hRefers, dif_pos hFound, dif_neg hSeen]
      exact ih
  | case6 visited key e hGet hOwn target hRefers hFound =>
      rw [lookupFrom]
      simp only [hGet, hOwn, hRefers, dif_neg hFound]

/-
  A lookup visits the entries of the chain up to the first that
  has the field.
-/
theorem fst_watchLookup
    (t : Table)
    (field : Text)
    (visited : List Text)
    (key : Text) :
    (t.watchLookup field visited key).1 =
      (t.chainFrom visited key).take
        ((t.chainFrom visited key).findIdx
          (fun item => (item.2.supplied? field).isSome) + 1) := by
  induction visited, key using t.chainInduction with
  | unknown visited key hGet =>
      rw [chainFrom_of_unknown hGet, watchLookup]
      simp only [hGet]
      rfl
  | last visited key e hGet hLast =>
      rw [chainFrom_of_last hGet hLast, watchLookup,
        List.take_succ_cons, List.take_nil]
      simp only [hGet, Entry.crossref?_eq]
      split
      · rfl
      · split
        · rfl
        · rename_i target hRefers
          split
          · rename_i hFound
            rw [dif_pos (hLast target hRefers hFound)]
          · rfl
  | next visited key e target hGet hRefers hFound hNew ih =>
      rw [chainFrom_of_next hGet hRefers hFound hNew, watchLookup,
        List.take_succ_cons, List.findIdx_cons]
      simp only [hGet, Entry.ownValue?_eq, Entry.crossref?_eq]
      cases hOwn : e.supplied? field with
      | some value => rfl
      | none =>
          simp only [hRefers, dif_pos hFound, dif_neg hNew]
          exact congrArg _ ih

/- An entry that has the field answers for all after it. -/
theorem answer_cons_of_some
    {item : Text × Entry}
    {rest : List (Text × Entry)}
    {value : Text}
    (hOwn : item.2.supplied? field = some value) :
    t.answer field (item :: rest) = .ok (some value) := by
  rw [answer, List.findSome?_cons, hOwn]

/- An entry that lacks the field leaves it to those after it. -/
theorem answer_cons_cons_of_none
    {item next : Text × Entry}
    {rest : List (Text × Entry)}
    (hOwn : item.2.supplied? field = none) :
    t.answer field (item :: next :: rest) =
      t.answer field (next :: rest) := by
  unfold answer
  rw [List.findSome?_cons, hOwn, List.getLast?_cons_cons]

theorem answer_singleton_of_none
    {item : Text × Entry}
    (hOwn : item.2.supplied? field = none) :
    t.answer field [item] = t.atEnd item := by
  rw [answer, List.findSome?_cons, hOwn]
  rfl

/- A lookup gives what the chain answers. -/
theorem lookupFrom_eq_answer
    (t : Table)
    (field : Text)
    (visited : List Text)
    (key : Text) :
    t.lookupFrom field visited key =
      t.answer field (t.chainFrom visited key) := by
  induction visited, key using t.chainInduction with
  | unknown visited key hGet =>
      rw [chainFrom_of_unknown hGet, lookupFrom]
      simp only [hGet]
      rfl
  | last visited key e hGet hLast =>
      rw [chainFrom_of_last hGet hLast, lookupFrom]
      simp only [hGet, Entry.ownValue?_eq, Entry.crossref?_eq]
      cases hOwn : e.supplied? field with
      | some value => rw [answer_cons_of_some hOwn]
      | none =>
          rw [answer_singleton_of_none hOwn, atEnd]
          cases hRefers : e.reference? with
          | none => rfl
          | some target =>
              by_cases hFound : t.contains target = true
              · have hSeen := hLast target hRefers hFound
                simp only [dif_pos hFound, dif_pos hSeen,
                  if_pos hFound]
              · simp only [dif_neg hFound, if_neg hFound]
  | next visited key e target hGet hRefers hFound hNew ih =>
      rw [chainFrom_of_next hGet hRefers hFound hNew, lookupFrom]
      simp only [hGet, Entry.ownValue?_eq, Entry.crossref?_eq]
      cases hOwn : e.supplied? field with
      | some value => rw [answer_cons_of_some hOwn]
      | none =>
          simp only [hRefers, dif_pos hFound, dif_neg hNew]
          rcases exists_chainFrom_cons (key.lower :: visited) hFound
            with ⟨e', rest, _, hRest⟩
          rw [ih, hRest, answer_cons_cons_of_none hOwn]

------------------------------------------------------------
-- Errors and Spellings
------------------------------------------------------------

/-
  A lookup fails only behind entries that all lack the field, and
  only for the reference of the last of them.
-/
theorem answer_eq_error
    {chain : List (Text × Entry)}
    {err : Error}
    (h : t.answer field chain = .error err) :
    (∀ item ∈ chain, item.2.supplied? field = none) ∧
      ∃ last ∈ chain.getLast?, ∃ target ∈ last.2.reference?,
        t.contains target = false ∧
          err = .of (.missingCrossref last.1 target) := by
  unfold answer at h
  split at h
  · cases h
  · rename_i hNone
    refine ⟨fun item hMem => List.findSome?_eq_none_iff.1 hNone item
      hMem, ?_⟩
    split at h
    · cases h
    · rename_i last hLast
      unfold atEnd at h
      split at h
      · cases h
      · rename_i target hRefers
        split at h
        · cases h
        · rename_i hMissing
          refine ⟨last, hLast, target, hRefers, ?_, ?_⟩
          · exact Bool.not_eq_true _ ▸ hMissing
          · exact (Except.error.inj h).symm

/-
  Equality of what two lookups give, but that the same dangling
  reference may come from differing spellings of one key.
-/
inductive SameButKey :
    Except Error (Option Text) →
    Except Error (Option Text) → Prop
  | same (given : Except Error (Option Text)) :
      SameButKey given given
  | dangling
      (key key' target : Text)
      (hSame : sameKey key key' = true) :
      SameButKey (.error (.of (.missingCrossref key target)))
        (.error (.of (.missingCrossref key' target)))

/- Chains from spellings of one key differ in their first key. -/
theorem chainFrom_of_sameKey
    {key' : Text}
    (visited : List Text)
    (h : sameKey key' key = true) :
    t.chainFrom visited key' = t.chainFrom visited key ∨
      ∃ e rest, t.chainFrom visited key' = (key', e) :: rest ∧
        t.chainFrom visited key = (key, e) :: rest := by
  have hGet : t.get? key' = t.get? key := by
    rw [get?, find?_congr h, get?]
  have hLower := sameKey_iff.1 h
  cases hFound : t.get? key with
  | none =>
      left
      rw [hFound] at hGet
      rw [chainFrom, chainFrom]
      simp only [hFound, hGet]
  | some e =>
      right
      rw [hFound] at hGet
      rw [chainFrom, chainFrom]
      simp only [hFound, hGet, hLower]
      split
      · exact ⟨e, [], rfl, rfl⟩
      · split
        · split
          · exact ⟨e, [], rfl, rfl⟩
          · exact ⟨e, _, rfl, rfl⟩
        · exact ⟨e, [], rfl, rfl⟩

theorem sameButKey_atEnd
    {key' : Text}
    (h : sameKey key' key = true)
    (e : Entry) :
    SameButKey (t.atEnd (key', e)) (t.atEnd (key, e)) := by
  unfold atEnd
  cases e.reference? with
  | none =>
      dsimp only
      exact .same _
  | some target =>
      dsimp only
      split
      · exact .same _
      · exact .dangling _ _ _ h

/- A first key matters only where its entry is the last. -/
theorem sameButKey_answer_cons
    {key' : Text}
    (h : sameKey key' key = true)
    (e : Entry)
    (rest : List (Text × Entry)) :
    SameButKey (t.answer field ((key', e) :: rest))
      (t.answer field ((key, e) :: rest)) := by
  cases hOwn : e.supplied? field with
  | some value =>
      rw [answer_cons_of_some hOwn, answer_cons_of_some hOwn]
      exact .same _
  | none =>
      cases rest with
      | nil =>
          rw [answer_singleton_of_none hOwn,
            answer_singleton_of_none hOwn]
          exact sameButKey_atEnd h e
      | cons next rest =>
          rw [answer_cons_cons_of_none hOwn,
            answer_cons_cons_of_none hOwn]
          exact .same _

/- Fields that differ in case only have the same values. -/
theorem answer_congr
    {field' : Text}
    (h : field'.lower = field.lower)
    (chain : List (Text × Entry)) :
    t.answer field' chain = t.answer field chain := by
  unfold answer Entry.supplied? Entry.field? Entry.renderPersons?
  rw [h]

theorem sameButKey_lookupField
    {key' field' : Text}
    (hKey : sameKey key' key = true)
    (hField : field'.lower = field.lower) :
    SameButKey (t.lookupField key' field')
      (t.lookupField key field) := by
  unfold lookupField
  rw [lookupFrom_eq_answer, lookupFrom_eq_answer,
    answer_congr hField]
  rcases chainFrom_of_sameKey [] hKey with
    hEq | ⟨e, rest, hChain', hChain⟩
  · rw [hEq]
    exact .same _
  · rw [hChain', hChain]
    exact sameButKey_answer_cons hKey e rest

------------------------------------------------------------
-- Lookups along a Chain
------------------------------------------------------------

/-
  From every key there is one chain of references.  A lookup gives
  what it answers and visits its entries up to the first that has
  the field, none of them twice.  It fails only for a dangling
  reference behind entries that lack the field.  Other spellings
  of the key and the field change the key of that error at most.
-/
theorem lookupField_along_chain
    (t : Table)
    (key field : Text) :
    ∃ chain, (∀ other, t.Chain key other ↔ other = chain) ∧
      t.lookupField key field = t.answer field chain ∧
      (t.watchLookup field [] key).2 = t.lookupField key field ∧
      (t.watchLookup field [] key).1 = chain.take (chain.findIdx
        (fun item => (item.2.supplied? field).isSome) + 1) ∧
      (t.watchLookup field [] key).1.Pairwise
        (fun a b => sameKey a.1 b.1 = false) ∧
      (∀ err, t.lookupField key field = .error err →
        (∀ item ∈ chain, item.2.supplied? field = none) ∧
          ∃ last ∈ chain.getLast?, ∃ target ∈ last.2.reference?,
            t.contains target = false ∧
              err = .of (.missingCrossref last.1 target)) ∧
      ∀ key' field', sameKey key' key = true →
        field'.lower = field.lower →
          SameButKey (t.lookupField key' field')
            (t.lookupField key field) := by
  have hAnswer := t.lookupFrom_eq_answer field [] key
  refine ⟨t.chainFrom [] key, fun _ => chain_iff, hAnswer,
    t.snd_watchLookup field [] key,
    t.fst_watchLookup field [] key, ?_, ?_, ?_⟩
  · rw [fst_watchLookup]
    exact (chain_chainFrom t key).distinct.sublist
      (List.take_sublist _ _)
  · intro err hErr
    exact answer_eq_error (hAnswer.symm.trans hErr)
  · intro key' field' hKey hField
    exact sameButKey_lookupField hKey hField

/-
  A book with a dangling reference, a title, two authors, and an
  editor as a field and as a person.
-/
def referredBook : Entry :=
  (Entry.ofType "book".toList)
    |>.insertField Entry.crossrefField "x".toList
    |>.insertField "title".toList "T".toList
    |>.insertField "editor".toList "E".toList
    |>.addPerson "author".toList ⟨["Ann".toList], [], [],
        ["Lee".toList], []⟩
    |>.addPerson "author".toList ⟨["Bob".toList], [], [],
        ["Ray".toList], []⟩
    |>.addPerson "editor".toList ⟨[], [], [], ["Eve".toList], []⟩

/- An entry that refers to the book, in another case. -/
def referringEntry : Entry :=
  (Entry.ofType "misc".toList).insertField Entry.crossrefField
    "B".toList

def referringTable : Table where
  entries :=
    [("A".toList, referringEntry), ("b".toList, referredBook)]
  preamble := []

/-
  From the entry the title, the authors and the editor of the book
  are found, and the dangling reference only for another field.
-/
theorem lookupField_along_chain_sample :
    referringTable.lookupField "A".toList "title".toList =
        .ok (some "T".toList) ∧
      referringTable.lookupField "A".toList "Author".toList =
        .ok (some "Lee, Ann and Ray, Bob".toList) ∧
      referringTable.lookupField "A".toList "editor".toList =
        .ok (some "E".toList) ∧
      referringTable.lookupField "A".toList "year".toList =
        .error (.of (.missingCrossref "B".toList "x".toList)) ∧
      referringTable.contains "x".toList = false ∧
      SameButKey
        (referringTable.lookupField "a".toList "YEAR".toList)
        (referringTable.lookupField "A".toList "year".toList) := by
  have hSample : referringTable.Chain "A".toList
      [("A".toList, referringEntry), ("B".toList, referredBook)] :=
    ⟨by decide, by decide, by decide, by decide, by decide⟩
  have hValue : ∀ field,
      referringTable.lookupField "A".toList field =
        referringTable.answer field
          [("A".toList, referringEntry),
            ("B".toList, referredBook)] := by
    intro field
    rcases lookupField_along_chain referringTable "A".toList field
      with ⟨chain, hChain, hAnswer, _⟩
    rw [hAnswer, (hChain _).1 hSample]
  rcases lookupField_along_chain referringTable "A".toList
    "year".toList with
      ⟨chain, hChain, _, _, _, _, hError, hSpelling⟩
  rcases (hChain _).1 hSample
  have hDangling : referringTable.lookupField "A".toList
      "year".toList =
        .error (.of (.missingCrossref "B".toList "x".toList)) := by
    rw [hValue]
    decide
  rcases (hError _ hDangling).2 with
    ⟨last, hLast, target, hTarget, hMissing, _⟩
  cases hLast
  cases hTarget
  refine ⟨?_, ?_, ?_, hDangling, hMissing,
    hSpelling _ _ (by decide) (by decide)⟩
  · rw [hValue]
    decide
  · rw [hValue]
    decide
  · rw [hValue]
    decide

end Table

end Bibliography
