import Bibliography.Proofs.MessagePack.Headers
import Bibliography.Proofs.SortedMap

/-
  Values that are read back.

  Bytes decode to a value if reading them gives the value, whatever
  follows them, wherever enough levels are left.  What is written
  for a value decodes to it, and an array, a map or a record takes
  one level more than what it holds.

  Key definitions include:
    * `Text.IsShort`
    * `Decodes`
    * `Fills`

  Key statements include:
    * `decodes_writeText`
    * `decodes_writeOption`
    * `decodes_writeArray`
    * `decodes_writeMap`
    * `decodes_writeNamed`
-/

------------------------------------------------------------
-- Texts
------------------------------------------------------------

namespace Bibliography

namespace Text

/- A text whose UTF-8 form is not too long to be written. -/
def IsShort (t : Text) : Prop :=
  t.toBytes.length < MessagePack.lengthLimit

instance (t : Text) : Decidable t.IsShort :=
  inferInstanceAs (Decidable (_ < _))

/- A text is known from its UTF-8 form. -/
theorem ofBytes?_toBytes (t : Text) : ofBytes? t.toBytes = some t := by
  have hDecode := @List.utf8Decode?_utf8Encode t
  rw [List.utf8Encode] at hDecode
  rw [ofBytes?, toBytes, hDecode]
  rfl

end Text

namespace MessagePack

theorem readRaw_writeText
    {t : Text}
    (h : t.IsShort)
    (rest : Bytes) :
    readRaw (writeText t ++ rest) = some (t.toBytes, rest) := by
  rw [readRaw, writeText, List.append_assoc, readHeader_textHeader h]
  exact takeExactly_append t.toBytes rest

------------------------------------------------------------
-- Decoding
------------------------------------------------------------

variable {α β δ : Type}
variable {levels : Nat}

/-
  The bytes are read as the value, whatever follows them, if so
  many levels are left.
-/
def Decodes
    (levels : Nat)
    (read : ValueReader α)
    (bs : Bytes)
    (a : α) : Prop :=
  ∀ room, levels ≤ room →
    ∀ rest, read room (bs ++ rest) = some (a, rest)

/- What a value holds is read one level deeper. -/
theorem Decodes.inside
    {read : ValueReader α}
    {bs : Bytes}
    {a : α}
    (h : Decodes levels read bs a) :
    Decodes (levels + 1) (MessagePack.inside read) bs a := by
  intro room hRoom rest
  cases room with
  | zero => cases hRoom
  | succ room => exact h room (Nat.le_of_succ_le_succ hRoom) rest

theorem decodes_writeNat
    {n : Nat}
    (h : n < numberLimit) :
    Decodes levels (leaf readNat) (writeNat n) n := by
  intro room _ rest
  rw [leaf, readNat, readHeader_writeNat h]

theorem decodes_writeText
    {t : Text}
    (h : t.IsShort) :
    Decodes levels (leaf readText) (writeText t) t := by
  intro room _ rest
  rw [leaf, readText, readRaw_writeText h]
  dsimp only
  rw [Text.ofBytes?_toBytes]
  rfl

/- A value is told from an absent one by its header. -/
theorem decodes_writeOption
    {read : ValueReader α}
    {write : α → Bytes}
    {value : Option α}
    (hValue : ∀ a ∈ value, Decodes levels read (write a) a)
    (hHeader : ∀ a ∈ value, ∀ rest after,
      readHeader (write a ++ rest) ≠ some (.nil, after)) :
    Decodes levels (readOption read) (writeOption write value)
      value := by
  intro room hRoom rest
  cases value with
  | none => rfl
  | some a =>
      rw [writeOption, readOption]
      split
      · rename_i after hNil
        exact absurd hNil (hHeader a rfl rest after)
      · rw [hValue a rfl room hRoom rest]
        rfl

------------------------------------------------------------
-- Arrays and Maps
------------------------------------------------------------

theorem decodes_many
    {read : ValueReader α}
    {write : α → Bytes}
    {items : List α}
    (h : ∀ a ∈ items, Decodes levels read (write a) a) :
    Decodes levels (readMany read items.length)
      (items.flatMap write) items := by
  intro room hRoom rest
  induction items with
  | nil => rfl
  | cons a items ih =>
      rcases List.forall_mem_cons.1 h with ⟨hFirst, hItems⟩
      rw [List.flatMap_cons, List.append_assoc, List.length_cons,
        readMany, hFirst room hRoom]
      dsimp only
      rw [ih hItems]

theorem decodes_writeArray
    {read : ValueReader α}
    {write : α → Bytes}
    {items : List α}
    (hLength : items.length < lengthLimit)
    (h : ∀ a ∈ items, Decodes levels read (write a) a) :
    Decodes (levels + 1) (readArray read) (writeArray write items)
      items := by
  intro room hRoom rest
  rw [writeArray, List.append_assoc, readArray,
    readHeader_arrayHeader hLength]
  exact (decodes_many h).inside room hRoom rest

theorem Decodes.both
    {first : ValueReader α}
    {second : ValueReader β}
    {bs cs : Bytes}
    {a : α}
    {b : β}
    (hFirst : Decodes levels first bs a)
    (hSecond : Decodes levels second cs b) :
    Decodes levels (readBoth first second) (bs ++ cs) (a, b) := by
  intro room hRoom rest
  rw [List.append_assoc, readBoth, hFirst room hRoom]
  dsimp only
  rw [hSecond room hRoom]
  rfl

theorem Decodes.pair
    {first : ValueReader α}
    {second : ValueReader β}
    {bs cs : Bytes}
    {a : α}
    {b : β}
    (hFirst : Decodes levels first bs a)
    (hSecond : Decodes levels second cs b) :
    Decodes (levels + 1) (readPair first second)
      (arrayHeader 2 ++ bs ++ cs) (a, b) := by
  intro room hRoom rest
  rw [List.append_assoc, List.append_assoc, readPair,
    readHeader_arrayHeader (by decide), ← List.append_assoc]
  exact (hFirst.both hSecond).inside room hRoom rest

/- A map is read back, since its items make it up. -/
theorem decodes_writeMap
    {read : ValueReader α}
    {write : α → Bytes}
    {m : SortedMap α}
    (hLength : m.items.length < lengthLimit)
    (hKeys : ∀ item ∈ m.items, item.1.IsShort)
    (h : ∀ item ∈ m.items,
      Decodes levels read (write item.2) item.2) :
    Decodes (levels + 1) (readMap read) (writeMap write m.items)
      m := by
  have hItems : Decodes levels
      (readMany (readBoth (leaf readText) read) m.items.length)
      (m.items.flatMap
        (fun item => writeText item.1 ++ write item.2)) m.items :=
    decodes_many (fun item hMem =>
      (decodes_writeText (hKeys item hMem)).both (h item hMem))
  intro room hRoom rest
  rw [writeMap, List.append_assoc, readMap,
    readHeader_mapHeader hLength]
  dsimp only
  rw [hItems.inside room hRoom rest, Option.map_some,
    SortedMap.ofList_items]

------------------------------------------------------------
-- Records
------------------------------------------------------------

/-
  Named values that fill a draft.  Each of them is read by the
  member of its name.
-/
inductive Fills
    (levels : Nat)
    (members : List (Member δ)) :
    δ → List (String × Bytes) → δ → Prop where
  | done (d : δ) : Fills levels members d [] d
  | next
      {d d' d'' : δ}
      {f : Member δ}
      {name : String}
      {bs : Bytes}
      {items : List (String × Bytes)}
      (hName : Text.IsShort name.toList)
      (hMember : members.find?
        (fun f => Text.toBytes f.name.toList ==
          Text.toBytes name.toList) = some f)
      (hRead : Decodes levels (f.read d) bs d')
      (hItems : Fills levels members d' items d'') :
      Fills levels members d ((name, bs) :: items) d''

/- A name stands for the member that has it. -/
theorem readMemberKey_writeText
    {name : Text}
    (h : name.IsShort)
    (members : List (Member δ))
    (rest : Bytes) :
    readMemberKey members (writeText name ++ rest) =
      some (members.find?
        (fun f => Text.toBytes f.name.toList == name.toBytes),
        rest) := by
  rw [readMemberKey, readRaw_writeText h, writeText,
    List.append_assoc, readHeader_textHeader h]
  rfl

theorem Fills.decodes
    {members : List (Member δ)}
    {d d' : δ}
    {items : List (String × Bytes)}
    (h : Fills levels members d items d') :
    Decodes levels (readNamed members items.length d)
      (items.flatMap
        (fun item => writeText item.1.toList ++ item.2)) d' := by
  intro room hRoom rest
  induction h with
  | done => rfl
  | @next d d' d'' f name bs items hName hMember hRead _ ih =>
      rw [List.flatMap_cons, List.append_assoc, List.append_assoc,
        List.length_cons, readNamed, readMemberKey_writeText hName,
        hMember]
      dsimp only
      rw [hRead room hRoom]
      exact ih

/- A record whose named values fill its draft. -/
theorem decodes_writeNamed
    {members : List (Member δ)}
    {start d : δ}
    {complete : δ → Option α}
    {items : List (String × Bytes)}
    {a : α}
    (hLength : items.length < lengthLimit)
    (hFills : Fills levels members start items d)
    (hComplete : complete d = some a) :
    Decodes (levels + 1) (readRecord members start complete)
      (writeNamed items) a := by
  intro room hRoom rest
  rw [writeNamed, List.append_assoc, readRecord,
    readHeader_mapHeader hLength]
  dsimp only
  rw [hFills.decodes.inside room hRoom rest]
  dsimp only
  rw [hComplete]
  rfl

/- A member is read into a draft that has none yet. -/
theorem Decodes.once
    {name : String}
    {read : ValueReader α}
    {get : δ → Option α}
    {set : δ → α → δ}
    {d : δ}
    {bs : Bytes}
    {a : α}
    (h : Decodes levels read bs a)
    (hOpen : get d = none) :
    Decodes levels ((Member.once name read get set).read d) bs
      (set d a) := by
  intro room hRoom rest
  rw [Member.once]
  dsimp only
  rw [hOpen]
  dsimp only
  rw [h room hRoom]
  rfl

end MessagePack

end Bibliography
