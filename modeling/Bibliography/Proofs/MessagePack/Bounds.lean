import Bibliography.Proofs.MessagePack.Headers

/-
  What values that are read have in common.

  A number that is read, in whatever form, is one of at most eight
  bytes.  A property of the items of an array, or one that the
  members of a record keep, holds of whatever is read.

  Key definitions include:
    * `Yields`
    * `Header.IsBounded`

  Key statements include:
    * `isBounded_readHeader`
    * `yields_readNat`
    * `yields_readRecord`
-/

------------------------------------------------------------
-- Numbers in Headers
------------------------------------------------------------

namespace Bibliography

namespace MessagePack

theorem foldl_bytes_lt
    (bs : Bytes)
    (n : Nat) :
    bs.foldl (fun n b => 256 * n + b.toNat) n <
      (n + 1) * 256 ^ bs.length := by
  induction bs generalizing n with
  | nil => simp
  | cons b bs ih =>
      have hByte : 256 * n + b.toNat + 1 ≤ (n + 1) * 256 := by
        have hLess := b.toNat_lt
        omega
      rw [List.foldl_cons, List.length_cons, Nat.pow_succ,
        Nat.mul_comm (256 ^ bs.length) 256, ← Nat.mul_assoc]
      exact Nat.lt_of_lt_of_le (ih _)
        (Nat.mul_le_mul_right _ hByte)

/- A number of some bytes is below what so many bytes can hold. -/
theorem lt_of_readFixed
    {width n : Nat}
    {bs rest : Bytes}
    (h : readFixed width bs = some (n, rest)) :
    n < 256 ^ width := by
  rcases Option.map_eq_some_iff.1 h with ⟨taken, hTaken, hEq⟩
  unfold takeExactly at hTaken
  split at hTaken
  · rename_i hLength
    cases hTaken
    cases hEq
    have hLess := foldl_bytes_lt (bs.take width) 0
    rw [List.length_take_of_le hLength, Nat.zero_add,
      Nat.one_mul] at hLess
    exact hLess
  · cases hTaken

/- A header whose number, if it is not negative, can be written. -/
def Header.IsBounded : Header → Prop
  | .unsigned n => n < numberLimit
  | .signed n => n < numberLimit
  | _ => True

/- A header of a number is as bounded as all of its width are. -/
theorem isBounded_headerOf
    {width : Nat}
    {f : Nat → Header}
    {header : Header}
    {bs rest : Bytes}
    (hf : ∀ n, n < 256 ^ width → (f n).IsBounded)
    (h : headerOf width f bs = some (header, rest)) :
    header.IsBounded := by
  rcases Option.map_eq_some_iff.1 h with ⟨taken, hTaken, hEq⟩
  cases hEq
  exact hf taken.1 (lt_of_readFixed hTaken)

theorem isBounded_unsigned
    {width : Nat}
    (hWidth : 256 ^ width ≤ numberLimit) :
    ∀ n, n < 256 ^ width → (Header.unsigned n).IsBounded :=
  fun _ hLess => Nat.lt_of_lt_of_le hLess hWidth

theorem isBounded_signedOf
    {width : Nat}
    (hWidth : 256 ^ width ≤ numberLimit) :
    ∀ n, n < 256 ^ width → (signedOf (256 ^ width) n).IsBounded := by
  intro n hLess
  unfold signedOf
  split
  · show (n : Int) < numberLimit
    omega
  · show (n : Int) - (256 ^ width : Nat) < numberLimit
    omega

theorem isBounded_readMarked
    {marker : Nat}
    {header : Header}
    {bs rest : Bytes}
    (h : readMarked marker bs = some (header, rest)) :
    header.IsBounded := by
  -- A marker stands alone, or a length follows it, or a number
  -- without a sign, or one with a sign.
  unfold readMarked at h
  split at h
  all_goals first
    | (cases h <;> trivial)
    | (refine isBounded_headerOf ?_ h; intro _ _; trivial)
    | exact isBounded_headerOf (isBounded_unsigned (by decide)) h
    | exact isBounded_headerOf (@isBounded_signedOf 1 (by decide)) h
    | exact isBounded_headerOf (@isBounded_signedOf 2 (by decide)) h
    | exact isBounded_headerOf (@isBounded_signedOf 4 (by decide)) h
    | exact isBounded_headerOf (@isBounded_signedOf 8 (by decide)) h

theorem isBounded_readHeader
    {header : Header}
    {bs rest : Bytes}
    (h : readHeader bs = some (header, rest)) : header.IsBounded := by
  cases bs with
  | nil => cases h
  | cons b bs =>
      have hByte := b.toNat_lt
      rw [readHeader] at h
      split at h
      · cases h
        exact Nat.lt_of_lt_of_le hByte (by decide)
      · split at h
        · cases h
          trivial
        · split at h
          · cases h
            trivial
          · split at h
            · cases h
              trivial
            · split at h
              · exact isBounded_readMarked h
              · cases h
                show (b.toNat : Int) - 256 < numberLimit
                omega

------------------------------------------------------------
-- Properties of What Is Read
------------------------------------------------------------

variable {α β δ : Type}

/- Whatever is read has the property. -/
def Yields
    (read : ValueReader α)
    (P : α → Prop) : Prop :=
  ∀ room bs a rest, read room bs = some (a, rest) → P a

theorem yields_readNat : Yields (leaf readNat) (· < numberLimit) := by
  intro room bs n rest h
  unfold leaf readNat at h
  split at h
  · rename_i hHeader
    cases h
    exact isBounded_readHeader hHeader
  · rename_i number after hHeader
    have hBounded : number < numberLimit :=
      isBounded_readHeader hHeader
    split at h
    · cases h
      omega
    · cases h
  · cases h

theorem Yields.option
    {read : ValueReader α}
    {P : α → Prop}
    (h : Yields read P) :
    Yields (readOption read) (fun value => ∀ a ∈ value, P a) := by
  intro room bs value rest hRead
  unfold readOption at hRead
  split at hRead
  · cases hRead
    intro a hMem
    cases hMem
  · rcases Option.map_eq_some_iff.1 hRead with ⟨found, hFound, hEq⟩
    cases hEq
    intro a hMem
    cases hMem
    exact h room bs found.1 found.2 hFound

theorem Yields.inside
    {read : ValueReader α}
    {P : α → Prop}
    (h : Yields read P) : Yields (MessagePack.inside read) P := by
  intro room bs a rest hRead
  cases room with
  | zero => cases hRead
  | succ room => exact h room bs a rest hRead

theorem Yields.many
    {read : ValueReader α}
    {P : α → Prop}
    (h : Yields read P)
    (count : Nat) :
    Yields (readMany read count) (fun items => ∀ a ∈ items, P a) := by
  intro room bs items rest hRead
  induction count generalizing bs items with
  | zero =>
      cases hRead
      intro a hMem
      cases hMem
  | succ count ih =>
      unfold readMany at hRead
      split at hRead
      · cases hRead
      · rename_i first after hFirst
        split at hRead
        · cases hRead
        · rename_i items' behind hItems
          cases hRead
          exact List.forall_mem_cons.2
            ⟨h room bs first after hFirst, ih after items' hItems⟩

theorem Yields.array
    {read : ValueReader α}
    {P : α → Prop}
    (h : Yields read P) :
    Yields (readArray read) (fun items => ∀ a ∈ items, P a) := by
  intro room bs items rest hRead
  unfold readArray at hRead
  split at hRead
  · exact (h.many _).inside room _ items rest hRead
  · cases hRead
    intro a hMem
    cases hMem
  · cases hRead

/- Of a pair, what the second value has. -/
theorem Yields.pair
    {first : ValueReader α}
    {second : ValueReader β}
    {P : β → Prop}
    (h : Yields second P) :
    Yields (readPair first second) (fun pair => P pair.2) := by
  have hBoth : Yields (readBoth first second)
      (fun pair => P pair.2) := by
    intro room bs pair rest hRead
    unfold readBoth at hRead
    split at hRead
    · cases hRead
    · rcases Option.map_eq_some_iff.1 hRead with ⟨found, hFound, hEq⟩
      cases hEq
      exact h room _ found.1 found.2 hFound
  intro room bs pair rest hRead
  unfold readPair at hRead
  split at hRead
  · exact hBoth.inside room _ pair rest hRead
  · cases hRead

------------------------------------------------------------
-- Records
------------------------------------------------------------

/- A member that keeps an invariant of the drafts. -/
def Member.Keeps
    (f : Member δ)
    (I : δ → Prop) : Prop :=
  ∀ d, I d → Yields (f.read d) I

theorem Member.keeps_once
    {name : String}
    {read : ValueReader α}
    {get : δ → Option α}
    {set : δ → α → δ}
    {P : α → Prop}
    {I : δ → Prop}
    (hRead : Yields read P)
    (hSet : ∀ d a, I d → P a → I (set d a)) :
    (Member.once name read get set).Keeps I := by
  intro d hDraft room bs d' rest h
  unfold once at h
  dsimp only at h
  split at h
  · cases h
  · rcases Option.map_eq_some_iff.1 h with ⟨found, hFound, hEq⟩
    cases hEq
    exact hSet d found.1 hDraft (hRead room bs found.1 found.2 hFound)

/- A member of which the invariant says nothing. -/
theorem Member.keeps_other
    {name : String}
    {read : ValueReader α}
    {get : δ → Option α}
    {set : δ → α → δ}
    {I : δ → Prop}
    (hSet : ∀ d a, I d → I (set d a)) :
    (Member.once name read get set).Keeps I := by
  have hRead : Yields read (fun _ => True) :=
    fun _ _ _ _ _ => trivial
  exact keeps_once hRead (fun d a hDraft _ => hSet d a hDraft)

variable {members : List (Member δ)}
variable {I : δ → Prop}

theorem mem_of_readMemberKey
    {f : Member δ}
    {bs rest : Bytes}
    (h : readMemberKey members bs = some (some f, rest)) :
    f ∈ members := by
  unfold readMemberKey at h
  split at h
  · rename_i n after hHeader
    have hPlace := (Prod.mk.inj (Option.some.inj h)).1
    exact List.mem_of_getElem? hPlace
  · rcases Option.map_eq_some_iff.1 h with ⟨found, _, hEq⟩
    exact List.mem_of_find?_eq_some (Prod.mk.inj hEq).1

theorem yields_readNamed
    (hMembers : ∀ f ∈ members, f.Keeps I)
    {d : δ}
    (hDraft : I d)
    (count : Nat) : Yields (readNamed members count d) I := by
  intro room bs d' rest h
  induction count generalizing bs d with
  | zero =>
      cases h
      exact hDraft
  | succ count ih =>
      unfold readNamed at h
      split at h
      · cases h
      · split at h
        · cases h
        · exact ih hDraft _ h
      · rename_i f after hKey
        split at h
        · cases h
        · rename_i d'' behind hRead
          have hMember := hMembers f (mem_of_readMemberKey hKey)
          exact ih (hMember d hDraft room after d'' behind hRead) _ h

theorem yields_readOrdered
    (hMembers : ∀ f ∈ members, f.Keeps I)
    {d : δ}
    (hDraft : I d) : Yields (readOrdered members d) I := by
  intro room bs d' rest h
  induction members generalizing bs d with
  | nil =>
      cases h
      exact hDraft
  | cons f more ih =>
      rcases List.forall_mem_cons.1 hMembers with ⟨hFirst, hMore⟩
      unfold readOrdered at h
      split at h
      · cases h
      · rename_i d'' after hRead
        exact ih hMore (hFirst d hDraft room bs d'' after hRead) _ h

/- An invariant of the drafts says something about the record. -/
theorem yields_readRecord
    {start : δ}
    {complete : δ → Option α}
    {P : α → Prop}
    (hMembers : ∀ f ∈ members, f.Keeps I)
    (hStart : I start)
    (hComplete : ∀ d a, I d → complete d = some a → P a) :
    Yields (readRecord members start complete) P := by
  intro room bs a rest h
  unfold readRecord at h
  dsimp only at h
  split at h
  · cases h
  · rename_i d after hRead
    have hDraft : I d := by
      split at hRead
      · exact (yields_readNamed hMembers hStart _).inside room _ d
          after hRead
      · split at hRead
        · exact (yields_readOrdered hMembers hStart).inside room _ d
            after hRead
        · cases hRead
      · cases hRead
    rcases Option.map_eq_some_iff.1 h with ⟨a, hRecord, hEq⟩
    cases hEq
    exact hComplete d a hDraft hRecord

end MessagePack

end Bibliography
