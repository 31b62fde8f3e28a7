import Bibliography.Proofs.Table.Keys
import Bibliography.Table.Label

/-
  What labelling does to a table.

  Labelling changes numbers and labels only: the keys stay, and a
  key that is not labelled finds what it found before.  Keys that
  differ and are not labelled yet can be labelled, in their order.
  No label has a number greater than the number of entries.

  Key definitions include:
    * `Entry.Unlabelled`
    * `Entry.HasNumberBelow`
    * `Table.Fresh`
    * `Table.labelled`

  Key statements include:
    * `Table.find?_update`
    * `Table.find?_labelFrom_of_getElem?`
    * `Table.find?_labelFrom_of_forall_not`
    * `Table.assignLabels_eq_ok`
    * `Table.get?_labelled`
    * `Table.unlabelled_of_mem_labelled`
    * `Table.tryAssignLabels_cases`
    * `Table.hasNumberBelow_of_mem_tryAssignLabels`
-/

------------------------------------------------------------
-- Changing an Entry
------------------------------------------------------------

namespace Bibliography

/- An entry without number and label. -/
def Entry.Unlabelled (e : Entry) : Prop :=
  e.number = none ∧ e.label = none

/- An entry whose number, if it has one, is below a bound. -/
def Entry.HasNumberBelow
    (bound : Nat)
    (e : Entry) : Prop :=
  ∀ n ∈ e.number, n < bound

instance (bound : Nat) (e : Entry) :
    Decidable (e.HasNumberBelow bound) :=
  inferInstanceAs (Decidable (∀ n ∈ _, _))

/- A result that a function has given is that of some value. -/
theorem exists_of_map_eq_ok
    {α β : Type}
    {x : Except Error α}
    {f : α → β}
    {b : β}
    (h : x.map f = .ok b) : ∃ a, x = .ok a ∧ f a = b := by
  cases x with
  | error err => cases h
  | ok a =>
      cases h
      exact ⟨a, rfl, rfl⟩

namespace Table

/- Only the value of the first item of a class changes. -/
theorem find?_modifyFirst
    (key other : Text)
    (f : Entry → Entry)
    (items : List (Text × Entry)) :
    (modifyFirst (fun item => sameKey item.1 key) f items).find?
        (fun item => sameKey item.1 other) =
      (items.find? (fun item => sameKey item.1 other)).map
        (fun item =>
          (item.1, if sameKey key other = true then f item.2
            else item.2)) := by
  induction items with
  | nil => rfl
  | cons item rest ih =>
      rw [modifyFirst]
      split
      · rename_i hKey
        have hSame : sameKey item.1 other = sameKey key other := by
          rw [sameKey, sameKey_iff.1 hKey, sameKey]
        rw [List.find?_cons, List.find?_cons, hSame]
        cases hOther : sameKey key other with
        | true => simp
        | false => simp
      · rename_i hKey
        rw [List.find?_cons, List.find?_cons, ih]
        cases hOther : sameKey item.1 other with
        | false => rfl
        | true =>
            have hNot : ¬ sameKey key other = true := by
              intro hSame
              apply hKey
              rw [sameKey, sameKey_iff.1 hSame]
              exact hOther
            dsimp only [Option.map_some]
            rw [if_neg hNot]

theorem map_fst_modifyFirst
    (p : Text × Entry → Bool)
    (f : Entry → Entry)
    (items : List (Text × Entry)) :
    (modifyFirst p f items).map (fun item => item.1) =
      items.map (fun item => item.1) := by
  induction items with
  | nil => rfl
  | cons item rest ih =>
      rw [modifyFirst]
      split
      · rfl
      · rw [List.map_cons, List.map_cons, ih]

/- An update changes what its key finds, and keeps the spelling. -/
theorem find?_update
    (t : Table)
    (key other : Text)
    (f : Entry → Entry) :
    (t.update key f).find? other =
      (t.find? other).map (fun item =>
        (item.1, if sameKey key other = true then f item.2
          else item.2)) := by
  unfold find? update
  rw [List.findRev?_eq_find?_reverse, List.findRev?_eq_find?_reverse,
    List.reverse_reverse]
  exact find?_modifyFirst key other f t.entries.reverse

theorem keys_update
    (t : Table)
    (key : Text)
    (f : Entry → Entry) : (t.update key f).keys = t.keys := by
  unfold keys update
  rw [List.map_reverse, map_fst_modifyFirst, List.map_reverse,
    List.reverse_reverse]

------------------------------------------------------------
-- Labelling Keys
------------------------------------------------------------

variable {style : LabelStyle}

theorem keys_labelFrom
    (number : Nat)
    (known : List Text)
    (t : Table) : (labelFrom style number known t).keys = t.keys := by
  induction known generalizing number t with
  | nil => rfl
  | cons key rest ih => rw [labelFrom, ih, keys_update]

/- Labelling keeps the spelling of every key. -/
theorem canonicalKey?_labelFrom
    (number : Nat)
    (known : List Text)
    (t : Table)
    (other : Text) :
    (labelFrom style number known t).canonicalKey? other =
      t.canonicalKey? other := by
  induction known generalizing number t with
  | nil => rfl
  | cons key rest ih =>
      rw [labelFrom, ih, canonicalKey?, canonicalKey?, find?_update,
        Option.map_map]
      rfl

/- A key that is not labelled finds what it found before. -/
theorem find?_labelFrom_of_forall_not
    {number : Nat}
    {known : List Text}
    {t : Table}
    {other : Text}
    (h : ∀ key ∈ known, sameKey key other = false) :
    (labelFrom style number known t).find? other = t.find? other := by
  induction known generalizing number t with
  | nil => rfl
  | cons key rest ih =>
      rcases List.forall_mem_cons.1 h with ⟨hKey, hRest⟩
      rw [labelFrom, ih hRest, find?_update, hKey]
      cases t.find? other <;> rfl

/- Different keys are labelled by their places. -/
theorem find?_labelFrom_of_getElem?
    {number i : Nat}
    {known : List Text}
    {t : Table}
    {key : Text}
    (hDistinct : known.Pairwise (fun a b => sameKey a b = false))
    (hPlace : known[i]? = some key) :
    (labelFrom style number known t).find? key =
      (t.find? key).map (fun item =>
        (item.1,
          item.2.withLabel (number + i)
            (style.label (number + i) key))) := by
  induction known generalizing number i t with
  | nil => cases hPlace
  | cons first rest ih =>
      rcases List.pairwise_cons.1 hDistinct with ⟨hFirst, hRest⟩
      rw [labelFrom]
      cases i with
      | zero =>
          cases hPlace
          have hLater : ∀ other ∈ rest, sameKey other key = false := by
            intro other hMem
            rw [sameKey_comm]
            exact hFirst other hMem
          rw [find?_labelFrom_of_forall_not hLater, find?_update,
            sameKey_self]
          rfl
      | succ i =>
          rw [List.getElem?_cons_succ] at hPlace
          have hOther := hFirst key (List.mem_of_getElem? hPlace)
          rw [ih hRest hPlace, find?_update, hOther,
            Nat.add_right_comm number 1 i, Nat.add_assoc]
          cases t.find? key <;> rfl

------------------------------------------------------------
-- Fresh Tables
------------------------------------------------------------

/- A table whose keys differ and that has no labels yet. -/
structure Fresh (t : Table) : Prop where
  distinct : t.entries.Pairwise (fun a b => sameKey a.1 b.1 = false)
  unlabelled : ∀ item ∈ t.entries, item.2.Unlabelled

/- The first key is labelled, left out or in the way. -/
theorem labelTargets_cons
    (t : Table)
    (seen : List Text)
    (key : Text)
    (rest : List Text) :
    t.labelTargets seen (key :: rest) =
      match t.find? key with
      | none => t.labelTargets seen rest
      | some (canonical, e) =>
          if e.isLabelled = true ∨ key.lower ∈ seen then
            .error (.of (.alreadyLabelled canonical))
          else
            (t.labelTargets (key.lower :: seen) rest).map
              (canonical :: ·) := rfl

/- The known ones of different keys, none of them labelled. -/
theorem labelTargets_eq_ok
    {t : Table}
    {seen keys : List Text}
    (hUnlabelled : ∀ item ∈ t.entries, item.2.isLabelled = false)
    (hNew : ∀ key ∈ keys, key.lower ∉ seen)
    (hDistinct : keys.Pairwise (fun a b => sameKey a b = false)) :
    t.labelTargets seen keys =
      .ok (keys.filterMap t.canonicalKey?) := by
  induction keys generalizing seen with
  | nil => rfl
  | cons key rest ih =>
      rcases List.forall_mem_cons.1 hNew with ⟨hKey, hRest⟩
      rcases List.pairwise_cons.1 hDistinct with ⟨hFirst, hLater⟩
      rw [labelTargets_cons, List.filterMap_cons, canonicalKey?]
      cases hFind : t.find? key with
      | none => exact ih hRest hLater
      | some item =>
          have hOpen : ¬ (item.2.isLabelled = true ∨
              key.lower ∈ seen) := by
            rw [hUnlabelled item (mem_of_find? hFind)]
            rintro (hLabelled | hSeen)
            · cases hLabelled
            · exact hKey hSeen
          have hSeen : ∀ other ∈ rest,
              other.lower ∉ key.lower :: seen := by
            intro other hMem hIn
            rcases List.mem_cons.1 hIn with hEq | hIn
            · have hDiffers := hFirst other hMem
              rw [sameKey_iff.2 hEq.symm] at hDiffers
              cases hDiffers
            · exact hRest other hMem hIn
          dsimp only
          rw [if_neg hOpen, ih hSeen hLater]
          rfl

/- The table after its known ones of some keys were labelled. -/
def labelled
    (t : Table)
    (style : LabelStyle)
    (keys : List Text) : Table :=
  labelFrom style 1 (keys.filterMap t.canonicalKey?) t

/- Different keys can be labelled in a fresh table. -/
theorem assignLabels_eq_ok
    {t : Table}
    {keys : List Text}
    (hFresh : t.Fresh)
    (hDistinct : keys.Pairwise (fun a b => sameKey a b = false)) :
    t.assignLabels keys style = .ok (t.labelled style keys) := by
  rw [assignLabels_eq_map, labelTargets_eq_ok ?_ ?_ hDistinct]
  · rfl
  · intro item hMem
    rw [Entry.isLabelled, (hFresh.unlabelled item hMem).1]
    rfl
  · intro key _ hSeen
    cases hSeen

/- The spellings of different keys differ. -/
theorem pairwise_filterMap_canonicalKey?
    {t : Table}
    {keys : List Text}
    (h : keys.Pairwise (fun a b => sameKey a b = false)) :
    (keys.filterMap t.canonicalKey?).Pairwise
      (fun a b => sameKey a b = false) := by
  rw [List.pairwise_filterMap]
  refine h.imp ?_
  intro a b hDiffer a' ha b' hb
  rw [sameKey, lower_of_canonicalKey? ha, lower_of_canonicalKey? hb]
  exact hDiffer

------------------------------------------------------------
-- Labelled Tables
------------------------------------------------------------

variable {t : Table}
variable {keys : List Text}

/- The keys of a labelled table still differ. -/
theorem distinct_labelled
    (hFresh : t.Fresh) :
    (t.labelled style keys).entries.Pairwise
      (fun a b => sameKey a.1 b.1 = false) := by
  have hKeys : (t.labelled style keys).keys.Pairwise
      (fun a b => sameKey a b = false) := by
    rw [labelled, keys_labelFrom, Table.keys, List.pairwise_map]
    exact hFresh.distinct
  rwa [Table.keys, List.pairwise_map] at hKeys

/- The entry of a known key has its place as number. -/
theorem get?_labelled
    {i : Nat}
    {key : Text}
    (hDistinct : keys.Pairwise (fun a b => sameKey a b = false))
    (hPlace : (keys.filterMap t.canonicalKey?)[i]? = some key) :
    ∃ e, (t.labelled style keys).get? key = some e ∧
      e.number = some (i + 1) ∧
      e.label = some (style.label (i + 1) key) := by
  rcases List.mem_filterMap.1 (List.mem_of_getElem? hPlace) with
    ⟨citation, _, hCanonical⟩
  rcases Option.map_eq_some_iff.1 hCanonical with ⟨item, hFind, hKey⟩
  rw [find?_congr (sameKey_iff.2
    (lower_of_canonicalKey? hCanonical).symm)] at hFind
  refine ⟨item.2.withLabel (1 + i) (style.label (1 + i) key), ?_, ?_, ?_⟩
  · rw [labelled, get?, find?_labelFrom_of_getElem?
      (pairwise_filterMap_canonicalKey? hDistinct) hPlace, hFind]
    rfl
  · rw [Nat.add_comm i 1]
    rfl
  · rw [Nat.add_comm i 1]
    rfl

/- An entry whose key is not among the keys stays as it was. -/
theorem unlabelled_of_mem_labelled
    {item : Text × Entry}
    (hFresh : t.Fresh)
    (hMem : item ∈ (t.labelled style keys).entries)
    (hOther : ∀ key ∈ keys, sameKey key item.1 = false) :
    item.2.Unlabelled := by
  have hFind := find?_of_mem (distinct_labelled hFresh) hMem
  rw [labelled, find?_labelFrom_of_forall_not] at hFind
  · exact hFresh.unlabelled item (mem_of_find? hFind)
  · intro canonical hCanonical
    rcases List.mem_filterMap.1 hCanonical with ⟨key, hKey, hEq⟩
    rw [sameKey, lower_of_canonicalKey? hEq]
    exact hOther key hKey

------------------------------------------------------------
-- Greatest Numbers
------------------------------------------------------------

theorem mem_modifyFirst
    {p : Text × Entry → Bool}
    {f : Entry → Entry}
    {items : List (Text × Entry)}
    {item : Text × Entry}
    (h : item ∈ modifyFirst p f items) :
    item ∈ items ∨ ∃ old ∈ items, item = (old.1, f old.2) := by
  induction items with
  | nil => cases h
  | cons first rest ih =>
      rw [modifyFirst] at h
      split at h
      · rcases List.mem_cons.1 h with rfl | hRest
        · exact Or.inr ⟨first, List.mem_cons_self, rfl⟩
        · exact Or.inl (List.mem_cons_of_mem _ hRest)
      · rcases List.mem_cons.1 h with rfl | hRest
        · exact Or.inl List.mem_cons_self
        · rcases ih hRest with hOld | ⟨old, hOld, hEq⟩
          · exact Or.inl (List.mem_cons_of_mem _ hOld)
          · exact Or.inr ⟨old, List.mem_cons_of_mem _ hOld, hEq⟩

/- An item of an updated table was there or has been changed. -/
theorem mem_update
    {key : Text}
    {f : Entry → Entry}
    {item : Text × Entry}
    (h : item ∈ (t.update key f).entries) :
    item ∈ t.entries ∨ ∃ old ∈ t.entries, item = (old.1, f old.2) := by
  rcases mem_modifyFirst (List.mem_reverse.1 h) with
    hOld | ⟨old, hOld, hEq⟩
  · exact Or.inl (List.mem_reverse.1 hOld)
  · exact Or.inr ⟨old, List.mem_reverse.1 hOld, hEq⟩

/- An item has the number of an old one, or one that was given. -/
theorem hasNumberBelow_of_mem_labelFrom
    {number : Nat}
    {known : List Text}
    {item : Text × Entry}
    (h : item ∈ (labelFrom style number known t).entries) :
    (∃ old ∈ t.entries, item.2.number = old.2.number) ∨
      item.2.HasNumberBelow (number + known.length) := by
  induction known generalizing number t with
  | nil => exact Or.inl ⟨item, h, rfl⟩
  | cons key rest ih =>
      rw [List.length_cons]
      rcases ih h with ⟨old, hOld, hNumber⟩ | hBelow
      · rcases mem_update hOld with hOld | ⟨before, _, rfl⟩
        · exact Or.inl ⟨old, hOld, hNumber⟩
        · apply Or.inr
          intro n hMem
          rw [hNumber] at hMem
          cases hMem
          omega
      · apply Or.inr
        intro n hMem
        have hLess := hBelow n hMem
        omega

/- The keys to be labelled differ, and the table has all of them. -/
theorem nodup_labelTargets
    {seen keys known : List Text}
    (h : t.labelTargets seen keys = .ok known) :
    (known.map Text.lower).Nodup ∧
      ∀ canonical ∈ known,
        canonical.lower ∉ seen ∧ canonical ∈ t.keys := by
  induction keys generalizing seen known with
  | nil =>
      cases h
      exact ⟨List.nodup_nil, List.forall_mem_nil _⟩
  | cons key rest ih =>
      rw [labelTargets_cons] at h
      split at h
      · exact ih h
      · rename_i canonical e hFind
        split at h
        · cases h
        · rename_i hOpen
          rcases exists_of_map_eq_ok h with ⟨more, hTargets, rfl⟩
          rcases ih hTargets with ⟨hDistinct, hMore⟩
          have hLower : canonical.lower = key.lower :=
            sameKey_iff.1 (sameKey_of_find? hFind)
          have hKey : canonical ∈ t.keys :=
            List.mem_map.2 ⟨_, mem_of_find? hFind, rfl⟩
          constructor
          · rw [List.map_cons, List.nodup_cons, List.mem_map]
            refine ⟨?_, hDistinct⟩
            rintro ⟨other, hOther, hSame⟩
            apply (hMore other hOther).1
            rw [hSame, hLower]
            exact List.mem_cons_self
          · refine List.forall_mem_cons.2 ⟨⟨?_, hKey⟩, ?_⟩
            · rw [hLower]
              exact fun hSeen => hOpen (Or.inr hSeen)
            · intro other hOther
              rcases hMore other hOther with ⟨hNew, hIn⟩
              exact ⟨fun hSeen =>
                hNew (List.mem_cons_of_mem _ hSeen), hIn⟩

/- No more keys are labelled than there are entries. -/
theorem length_labelTargets_le
    {keys known : List Text}
    (h : t.labelTargets [] keys = .ok known) :
    known.length ≤ t.size := by
  rcases nodup_labelTargets h with ⟨hDistinct, hKnown⟩
  have hSubset : known.map Text.lower ⊆ t.keys.map Text.lower := by
    intro lower hMem
    rcases List.mem_map.1 hMem with ⟨canonical, hIn, rfl⟩
    exact List.mem_map_of_mem (hKnown canonical hIn).2
  have hLength := hDistinct.length_le_of_subset hSubset
  rw [List.length_map, List.length_map, Table.keys,
    List.length_map] at hLength
  exact hLength

/- An assignment fails and changes nothing, or it labels keys. -/
theorem tryAssignLabels_cases
    (t : Table)
    (keys : List Text)
    (style : LabelStyle) :
    (∃ err, t.tryAssignLabels keys style = (.error err, t)) ∨
      ∃ known, t.labelTargets [] keys = .ok known ∧
        t.tryAssignLabels keys style =
          (.ok (), labelFrom style 1 known t) := by
  rw [tryAssignLabels]
  cases t.labelTargets [] keys with
  | error err => exact .inl ⟨err, rfl⟩
  | ok known => exact .inr ⟨known, rfl, rfl⟩

/- A table has the keys that it had before an assignment. -/
theorem keys_tryAssignLabels
    (t : Table)
    (keys : List Text)
    (style : LabelStyle) :
    (t.tryAssignLabels keys style).2.keys = t.keys := by
  rcases t.tryAssignLabels_cases keys style with
    ⟨_, hTry⟩ | ⟨known, _, hTry⟩
  · rw [hTry]
  · rw [hTry]
    exact keys_labelFrom 1 known t

/- Labels get numbers up to the number of entries. -/
theorem hasNumberBelow_of_mem_tryAssignLabels
    {item : Text × Entry}
    (hMem : item ∈ (t.tryAssignLabels keys style).2.entries) :
    (∃ old ∈ t.entries, item.2.number = old.2.number) ∨
      item.2.HasNumberBelow (t.size + 1) := by
  rcases t.tryAssignLabels_cases keys style with
    ⟨_, hTry⟩ | ⟨known, hTargets, hTry⟩
  · rw [hTry] at hMem
    exact Or.inl ⟨item, hMem, rfl⟩
  rw [hTry] at hMem
  rcases hasNumberBelow_of_mem_labelFrom hMem with hOld | hBelow
  · exact Or.inl hOld
  · apply Or.inr
    intro n hNumber
    have hLess := hBelow n hNumber
    have hLength := length_labelTargets_le hTargets
    omega

end Table

end Bibliography
