import Bibliography.Proofs.MessagePack.Locality
import Bibliography.Proofs.Snapshot

/-
  Snapshots that were cut off.

  Reading a person, an entry or a table takes no notice of what
  follows.  So a snapshot of which the end is missing is no
  snapshot, wherever it was cut, although number and label of an
  entry may be missing and bytes after a table are ignored.

  Key statements include:
    * `Entry.isLocal_ofSnapshot`
    * `Table.isLocal_readSnapshot`
    * `Table.ofSnapshot_truncated`
-/

------------------------------------------------------------
-- Local Readers
------------------------------------------------------------

namespace Bibliography

open MessagePack

theorem isLocal_unpackWords (room : Nat) :
    IsLocal (unpackWords room) :=
  isLocal_readArray (fun _ => isLocal_readText)

theorem Person.isLocal_ofSnapshot (room : Nat) :
    IsLocal (Person.ofSnapshot room) := by
  refine isLocal_readRecord ?_
  intro f hMem
  rw [snapshotFields, List.mem_cons, List.mem_cons, List.mem_cons,
    List.mem_cons, List.mem_singleton] at hMem
  rcases hMem with rfl | rfl | rfl | rfl | rfl
  all_goals exact Member.isLocal_once isLocal_unpackWords

theorem Entry.isLocal_ofSnapshot (room : Nat) :
    IsLocal (Entry.ofSnapshot room) := by
  refine isLocal_readRecord ?_
  intro f hMem
  rw [snapshotFields, List.mem_cons, List.mem_cons, List.mem_cons,
    List.mem_cons, List.mem_singleton] at hMem
  rcases hMem with rfl | rfl | rfl | rfl | rfl
  · exact Member.isLocal_once (fun _ => isLocal_readText)
  · exact Member.isLocal_once
      (fun _ => isLocal_readMap (fun _ => isLocal_readText))
  · exact Member.isLocal_once (fun _ => isLocal_readMap
      (fun _ => isLocal_readArray Person.isLocal_ofSnapshot))
  · refine Member.isLocal_once (fun _ => ?_)
    refine isLocal_readOption isLocal_readNat ?_
    intro bs hHeader
    rw [leaf, readNat, hHeader]
  · refine Member.isLocal_once (fun _ => ?_)
    refine isLocal_readOption isLocal_readText ?_
    intro bs hHeader
    rw [leaf, readText, readRaw, hHeader]

namespace Table

theorem isLocal_readSnapshot (room : Nat) :
    IsLocal (readSnapshot room) := by
  refine isLocal_readRecord ?_
  intro f hMem
  rw [snapshotFields, List.mem_cons, List.mem_singleton] at hMem
  rcases hMem with rfl | rfl
  · exact Member.isLocal_once (fun _ => isLocal_readArray
      (fun _ => isLocal_readPair (fun _ => isLocal_readText)
        Entry.isLocal_ofSnapshot))
  · exact Member.isLocal_once isLocal_unpackWords

------------------------------------------------------------
-- Truncated Snapshots
------------------------------------------------------------

/-
  No part of a snapshot from its front, the whole excepted, is
  read, and reading it fails with a serialization error.  Hence
  the snapshot of a table does not begin that of another one.
-/
theorem ofSnapshot_truncated
    {t : Table}
    (h : t.IsShort)
    (hNumbers : ∀ item ∈ t.entries,
      item.2.HasNumberBelow numberLimit) :
    (∀ p, p <+: t.toSnapshot → p ≠ t.toSnapshot →
      ∃ message,
        ofSnapshot p = .error (.of (.serialization message))) ∧
      ∀ u : Table, u.toSnapshot <+: t.toSnapshot → u.IsShort →
        (∀ item ∈ u.entries,
          item.2.HasNumberBelow numberLimit) → u = t := by
  have hCut : ∀ p, p <+: t.toSnapshot → p ≠ t.toSnapshot →
      ofSnapshot p = .error notASnapshot := by
    intro p hPrefix hShorter
    have hNone :=
      (decodes_toSnapshot h hNumbers).eq_none_of_truncated
        isLocal_readSnapshot nestingLimit (by decide) hPrefix hShorter
    rw [ofSnapshot, hNone]
  constructor
  · intro p hPrefix hShorter
    exact ⟨_, hCut p hPrefix hShorter⟩
  · intro u hPrefix hShort hBelow
    have hRead := ofSnapshot_toSnapshot_append hShort hBelow []
    have hReadWhole := ofSnapshot_toSnapshot_append h hNumbers []
    rw [List.append_nil] at hRead hReadWhole
    by_cases hWhole : u.toSnapshot = t.toSnapshot
    · rw [hWhole, hReadWhole] at hRead
      exact (Except.ok.inj hRead).symm
    · rw [hCut u.toSnapshot hPrefix hWhole] at hRead
      cases hRead

/-
  A snapshot cut off in front of its last label, which could be
  missing, and the snapshot of a table without entries.
-/
theorem ofSnapshot_truncated_sample :
    IndexedTable.sampleTable.IsShort ∧
      (∀ item ∈ IndexedTable.sampleTable.entries,
        item.2.HasNumberBelow numberLimit) ∧
      (∃ message,
        ofSnapshot (IndexedTable.sampleTable.toSnapshot.take 169) =
          .error (.of (.serialization message))) ∧
      ¬ empty.toSnapshot <+: IndexedTable.sampleTable.toSnapshot := by
  have hShort : IndexedTable.sampleTable.IsShort := by decide
  have hNumbers : ∀ item ∈ IndexedTable.sampleTable.entries,
      item.2.HasNumberBelow numberLimit := by decide
  obtain ⟨hCut, hOther⟩ := ofSnapshot_truncated hShort hNumbers
  refine ⟨hShort, hNumbers, ?_, ?_⟩
  · refine hCut _ (List.take_prefix _ _) ?_
    intro hWhole
    have hLength : IndexedTable.sampleTable.toSnapshot.length = 189 :=
      rfl
    have hTaken := congrArg List.length hWhole
    rw [List.length_take, hLength] at hTaken
    exact absurd hTaken (by decide)
  · intro hPrefix
    have hSame := hOther empty hPrefix (by decide) (by decide)
    exact absurd hSame (by decide)

end Table

end Bibliography
