import Bibliography.Proofs.MessagePack.Bounds
import Bibliography.Proofs.MessagePack.Values

/-
  Reading takes no notice of what follows.

  A reader is local if it reads the same value when more bytes are
  put behind, and leaves these with the rest.  All readers are, so
  of bytes that decode to a value no shorter part from the front
  is read at all: what is missing would have been left over.

  Key definitions include:
    * `IsLocal`

  Key statements include:
    * `isLocal_readHeader`
    * `skipValues_append`
    * `isLocal_readRecord`
    * `Decodes.eq_none_of_truncated`
-/

------------------------------------------------------------
-- Local Readers
------------------------------------------------------------

namespace Bibliography

namespace MessagePack

variable {α β δ : Type}
variable {room : Nat}

/- More bytes behind those of a value change nothing. -/
def IsLocal (read : Reader α) : Prop :=
  ∀ bs a rest, read bs = some (a, rest) →
    ∀ tail, read (bs ++ tail) = some (a, rest ++ tail)

theorem isLocal_none : IsLocal (fun _ => none : Reader α) := by
  intro bs a rest h
  cases h

theorem isLocal_some (a : α) : IsLocal (fun bs => some (a, bs)) := by
  intro bs a' rest h tail
  cases h
  rfl

theorem IsLocal.map
    {read : Reader α}
    (h : IsLocal read)
    (f : α → β) :
    IsLocal (fun bs =>
      (read bs).map (fun found => (f found.1, found.2))) := by
  intro bs b rest hRead tail
  rcases Option.map_eq_some_iff.1 hRead with ⟨found, hFound, hEq⟩
  cases hEq
  dsimp only
  rw [h bs found.1 found.2 hFound tail]
  rfl

------------------------------------------------------------
-- Headers
------------------------------------------------------------

theorem isLocal_takeExactly (n : Nat) : IsLocal (takeExactly n) := by
  intro bs taken rest h tail
  unfold takeExactly at h
  split at h
  · rename_i hLength
    cases h
    have hLonger : n ≤ (bs ++ tail).length := by
      rw [List.length_append]
      exact Nat.le_add_right_of_le hLength
    rw [takeExactly, if_pos hLonger,
      List.take_append_of_le_length hLength,
      List.drop_append_of_le_length hLength]
  · cases h

theorem isLocal_headerOf
    (width : Nat)
    (f : Nat → Header) : IsLocal (headerOf width f) :=
  ((isLocal_takeExactly width).map ofBigEndian).map f

theorem isLocal_readMarked (marker : Nat) :
    IsLocal (readMarked marker) := by
  unfold readMarked
  split
  all_goals first
    | exact isLocal_headerOf _ _
    | exact isLocal_some _
    | exact isLocal_none

theorem isLocal_readHeader : IsLocal readHeader := by
  intro bs header rest h tail
  cases bs with
  | nil => cases h
  | cons b bs =>
      rw [readHeader] at h
      rw [List.cons_append, readHeader]
      -- The first byte decides, and only a marker of its own has
      -- more of the header behind it.
      split at h
      · rename_i hUnsigned
        cases h
        rw [if_pos hUnsigned]
      · rename_i hUnsigned
        rw [if_neg hUnsigned]
        split at h
        · rename_i hMap
          cases h
          rw [if_pos hMap]
        · rename_i hMap
          rw [if_neg hMap]
          split at h
          · rename_i hArray
            cases h
            rw [if_pos hArray]
          · rename_i hArray
            rw [if_neg hArray]
            split at h
            · rename_i hText
              cases h
              rw [if_pos hText]
            · rename_i hText
              rw [if_neg hText]
              split at h
              · rename_i hMarked
                rw [if_pos hMarked]
                exact isLocal_readMarked _ bs header rest h tail
              · rename_i hMarked
                cases h
                rw [if_neg hMarked]

------------------------------------------------------------
-- Values
------------------------------------------------------------

theorem skipValues_append
    {room count : Nat}
    {bs rest : Bytes}
    (h : skipValues room count bs = some rest)
    (tail : Bytes) :
    skipValues room count (bs ++ tail) = some (rest ++ tail) := by
  fun_induction skipValues room count bs generalizing rest with
  | case1 room bs =>
      cases h
      rw [skipValues]
  | case2 | case3 | case4 | case5 => cases h
  | case6 bs more header after hHeader payload behind hPayload hNests
      deeper between hParts ihParts ihMore =>
      rw [skipValues, isLocal_readHeader bs header after hHeader]
      dsimp only
      rw [isLocal_takeExactly _ after payload behind hPayload]
      dsimp only
      rw [if_pos hNests, ihParts hParts]
      exact ihMore h
  | case7 room bs more header after hHeader payload behind hPayload
      hNests ih =>
      rw [skipValues, isLocal_readHeader bs header after hHeader]
      dsimp only
      rw [isLocal_takeExactly _ after payload behind hPayload]
      dsimp only
      rw [if_neg hNests]
      exact ih h

theorem isLocal_readNat : IsLocal readNat := by
  intro bs n rest h tail
  unfold readNat at h
  split at h
  · rename_i hHeader
    cases h
    rw [readNat, isLocal_readHeader bs _ _ hHeader]
  · rename_i number after hHeader
    rw [readNat, isLocal_readHeader bs _ _ hHeader]
    dsimp only
    split at h
    · rename_i hSign
      cases h
      rw [if_pos hSign]
    · cases h
  · cases h

theorem isLocal_readRaw : IsLocal readRaw := by
  intro bs raw rest h tail
  unfold readRaw at h
  split at h
  · rename_i n after hHeader
    rw [readRaw, isLocal_readHeader bs _ _ hHeader]
    exact isLocal_takeExactly n after raw rest h tail
  · rename_i n after hHeader
    rw [readRaw, isLocal_readHeader bs _ _ hHeader]
    exact isLocal_takeExactly n after raw rest h tail
  · cases h

theorem isLocal_readText : IsLocal readText := by
  intro bs t rest h tail
  unfold readText at h
  split at h
  · cases h
  · rename_i raw after hRaw
    rcases Option.map_eq_some_iff.1 h with ⟨t, hText, hEq⟩
    cases hEq
    rw [readText, isLocal_readRaw bs _ _ hRaw]
    dsimp only
    rw [hText]
    rfl

/-
  Whether a value is absent shows in its header, so the reader of
  a value that is there must not do without one.
-/
theorem isLocal_readOption
    {read : ValueReader α}
    (h : IsLocal (read room))
    (hHeader : ∀ bs, readHeader bs = none → read room bs = none) :
    IsLocal (readOption read room) := by
  intro bs value rest hRead tail
  unfold readOption at hRead
  split at hRead
  · rename_i after hNil
    cases hRead
    rw [readOption, isLocal_readHeader bs _ _ hNil]
  · rename_i hNotNil
    rcases Option.map_eq_some_iff.1 hRead with ⟨found, hFound, hEq⟩
    cases hEq
    have hTail := h bs found.1 found.2 hFound tail
    cases hFirst : readHeader bs with
    | none =>
        rw [hHeader bs hFirst] at hFound
        cases hFound
    | some first =>
        rcases first with ⟨header, after⟩
        rw [readOption, isLocal_readHeader bs header after hFirst]
        split
        · rename_i hNil
          cases hNil
          exact absurd hFirst (hNotNil _)
        · rw [hTail]
          rfl

theorem isLocal_inside
    {read : ValueReader α}
    (h : ∀ room, IsLocal (read room))
    (room : Nat) : IsLocal (inside read room) := by
  cases room with
  | zero => exact isLocal_none
  | succ room => exact h room

theorem isLocal_readMany
    {read : ValueReader α}
    (h : ∀ room, IsLocal (read room))
    (count room : Nat) : IsLocal (readMany read count room) := by
  intro bs items rest hRead tail
  induction count generalizing bs items with
  | zero =>
      cases hRead
      rfl
  | succ count ih =>
      unfold readMany at hRead
      split at hRead
      · cases hRead
      · rename_i first after hFirst
        split at hRead
        · cases hRead
        · rename_i items' behind hItems
          cases hRead
          rw [readMany, h room bs first after hFirst]
          dsimp only
          rw [ih after items' hItems]

theorem isLocal_readArray
    {read : ValueReader α}
    (h : ∀ room, IsLocal (read room)) :
    IsLocal (readArray read room) := by
  intro bs items rest hRead tail
  unfold readArray at hRead
  split at hRead
  · rename_i n after hHeader
    rw [readArray, isLocal_readHeader bs _ _ hHeader]
    exact isLocal_inside (isLocal_readMany h n) room after items rest
      hRead tail
  · rename_i after hHeader
    cases hRead
    rw [readArray, isLocal_readHeader bs _ _ hHeader]
    rfl
  · cases hRead

theorem isLocal_readBoth
    {first : ValueReader α}
    {second : ValueReader β}
    (hFirst : ∀ room, IsLocal (first room))
    (hSecond : ∀ room, IsLocal (second room))
    (room : Nat) : IsLocal (readBoth first second room) := by
  intro bs pair rest hRead tail
  unfold readBoth at hRead
  split at hRead
  · cases hRead
  · rename_i a after hFound
    rw [readBoth, hFirst room bs a after hFound]
    exact (hSecond room).map (fun b => (a, b)) after pair rest hRead
      tail

theorem isLocal_readPair
    {first : ValueReader α}
    {second : ValueReader β}
    (hFirst : ∀ room, IsLocal (first room))
    (hSecond : ∀ room, IsLocal (second room)) :
    IsLocal (readPair first second room) := by
  intro bs pair rest hRead tail
  unfold readPair at hRead
  split at hRead
  · rename_i after hHeader
    rw [readPair, isLocal_readHeader bs _ _ hHeader]
    exact isLocal_inside (isLocal_readBoth hFirst hSecond) room after
      pair rest hRead tail
  · cases hRead

theorem isLocal_readMap
    {read : ValueReader α}
    (h : ∀ room, IsLocal (read room)) :
    IsLocal (readMap read room) := by
  intro bs m rest hRead tail
  unfold readMap at hRead
  split at hRead
  · rename_i n after hHeader
    rw [readMap, isLocal_readHeader bs _ _ hHeader]
    have hItems := isLocal_readMany
      (isLocal_readBoth (fun _ => isLocal_readText) h) n
    exact (isLocal_inside hItems room).map SortedMap.ofList after m
      rest hRead tail
  · cases hRead

------------------------------------------------------------
-- Records
------------------------------------------------------------

/- A member that reads its value locally, whatever the draft. -/
def Member.IsLocal (f : Member δ) : Prop :=
  ∀ d room, MessagePack.IsLocal (f.read d room)

theorem Member.isLocal_once
    {name : String}
    {read : ValueReader α}
    {get : δ → Option α}
    {set : δ → α → δ}
    (h : ∀ room, MessagePack.IsLocal (read room)) :
    (Member.once name read get set).IsLocal := by
  intro d room
  unfold once
  dsimp only
  split
  · exact isLocal_none
  · exact (h room).map (set d)

variable {members : List (Member δ)}

theorem isLocal_readMemberKey : IsLocal (readMemberKey members) := by
  intro bs found rest hRead tail
  unfold readMemberKey at hRead
  split at hRead
  · rename_i n after hHeader
    cases hRead
    rw [readMemberKey, isLocal_readHeader bs _ _ hHeader]
  · rename_i hName
    have hRaw := isLocal_readRaw.map
      (fun raw => members.find?
        (fun f => Text.toBytes f.name.toList == raw))
      bs found rest hRead tail
    cases hFirst : readHeader bs with
    | none =>
        rw [readRaw, hFirst] at hRead
        cases hRead
    | some first =>
        rcases first with ⟨header, after⟩
        rw [readMemberKey, isLocal_readHeader bs header after hFirst]
        split
        · rename_i hIndex
          cases hIndex
          exact absurd hFirst (hName _ _)
        · exact hRaw

theorem isLocal_readNamed
    (hMembers : ∀ f ∈ members, f.IsLocal)
    (count : Nat)
    (d : δ)
    (room : Nat) : IsLocal (readNamed members count d room) := by
  intro bs d' rest h tail
  induction count generalizing bs d with
  | zero =>
      cases h
      rfl
  | succ count ih =>
      unfold readNamed at h
      split at h
      · cases h
      · rename_i after hKey
        split at h
        · cases h
        · rename_i behind hSkip
          rw [readNamed, isLocal_readMemberKey bs _ _ hKey]
          dsimp only
          rw [skipValues_append hSkip]
          exact ih d behind h
      · rename_i f after hKey
        split at h
        · cases h
        · rename_i d'' behind hRead
          have hMember := hMembers f (mem_of_readMemberKey hKey)
          rw [readNamed, isLocal_readMemberKey bs _ _ hKey]
          dsimp only
          rw [hMember d room after d'' behind hRead]
          exact ih d'' behind h

theorem isLocal_readOrdered
    (hMembers : ∀ f ∈ members, f.IsLocal)
    (d : δ)
    (room : Nat) : IsLocal (readOrdered members d room) := by
  intro bs d' rest h tail
  induction members generalizing bs d with
  | nil =>
      cases h
      rfl
  | cons f more ih =>
      rcases List.forall_mem_cons.1 hMembers with ⟨hFirst, hMore⟩
      unfold readOrdered at h
      split at h
      · cases h
      · rename_i d'' after hRead
        rw [readOrdered, hFirst d room bs d'' after hRead]
        exact ih hMore d'' after h

theorem isLocal_readRecord
    {start : δ}
    {complete : δ → Option α}
    (hMembers : ∀ f ∈ members, f.IsLocal) :
    IsLocal (readRecord members start complete room) := by
  intro bs a rest h tail
  unfold readRecord at h
  dsimp only at h
  split at h
  · cases h
  · rename_i d after hDraft
    rcases Option.map_eq_some_iff.1 h with ⟨a, hRecord, hEq⟩
    cases hEq
    split at hDraft
    · rename_i n behind hHeader
      have hTail := isLocal_inside
        (isLocal_readNamed hMembers n start) room behind d rest
        hDraft tail
      rw [readRecord, isLocal_readHeader bs _ _ hHeader]
      dsimp only
      rw [hTail]
      dsimp only
      rw [hRecord]
      rfl
    · rename_i n behind hHeader
      split at hDraft
      · rename_i hLength
        have hTail := isLocal_inside
          (isLocal_readOrdered hMembers start) room behind d rest
          hDraft tail
        rw [readRecord, isLocal_readHeader bs _ _ hHeader]
        dsimp only
        rw [if_pos hLength, hTail]
        dsimp only
        rw [hRecord]
        rfl
      · cases hDraft
    · cases hDraft

------------------------------------------------------------
-- Parts of What Was Written
------------------------------------------------------------

/-
  Of bytes that decode to a value the whole is needed.  If a part
  from the front were read, the missing bytes would be left over
  when they are put behind, but nothing is.
-/
theorem Decodes.eq_none_of_truncated
    {levels : Nat}
    {read : ValueReader α}
    {bs p : Bytes}
    {a : α}
    (h : Decodes levels read bs a)
    (hLocal : ∀ room, IsLocal (read room))
    (room : Nat)
    (hRoom : levels ≤ room)
    (hPrefix : p <+: bs)
    (hShorter : p ≠ bs) : read room p = none := by
  rcases hPrefix with ⟨missing, rfl⟩
  cases hRead : read room p with
  | none => rfl
  | some found =>
      rcases found with ⟨b, rest⟩
      have hLeft := hLocal room p b rest hRead missing
      have hNothing := h room hRoom []
      rw [List.append_nil, hLeft] at hNothing
      have hRest : rest ++ missing = [] :=
        (Prod.mk.inj (Option.some.inj hNothing)).2
      have hMissing : missing = [] :=
        (List.append_eq_nil_iff.1 hRest).2
      rw [hMissing, List.append_nil] at hShorter
      exact absurd rfl hShorter

end MessagePack

end Bibliography
