import Bibliography.Unicode.CodePoint

/-
  Case mappings that are done after one step.

  A code point stays alone, or goes to images of the mapping.  In
  a settled mapping all images are characters and none of them is
  moved on, so mapping what has been mapped changes nothing.  That
  two sets of code points have nothing in common is read off their
  bits.

  Key definitions include:
    * `bitsOf`
    * `CaseMapping.domain`
    * `CaseMapping.images`
    * `CaseMapping.IsSettled`

  Key statements include:
    * `not_mem_of_bitsOf`
    * `CaseMapping.IsSettled.mem_apply`
    * `CaseMapping.IsSettled.apply_of_mem_images`
-/

------------------------------------------------------------
-- Sets of Numbers as Bits
------------------------------------------------------------

namespace Bibliography

/- The number whose bits at these places are set. -/
def bitsOf (ns : List Nat) : Nat :=
  ns.foldr (fun n bits => bits ||| (1 <<< n)) 0

theorem testBit_bitsOf
    {ns : List Nat}
    {n : Nat}
    (h : n ∈ ns) : (bitsOf ns).testBit n = true := by
  induction ns with
  | nil => cases h
  | cons i rest ih =>
      rw [bitsOf, List.foldr_cons, Nat.testBit_or, Bool.or_eq_true]
      rcases List.mem_cons.1 h with rfl | hRest
      · right
        rw [Nat.testBit_shiftLeft]
        simp
      · exact Or.inl (ih hRest)

/- Lists without a common bit have no common member. -/
theorem not_mem_of_bitsOf
    {as bs : List Nat}
    (h : bitsOf as &&& bitsOf bs = 0)
    {n : Nat}
    (ha : n ∈ as) : n ∉ bs := by
  intro hb
  have hBit : (bitsOf as &&& bitsOf bs).testBit n = true := by
    rw [Nat.testBit_and, testBit_bitsOf ha, testBit_bitsOf hb]
    rfl
  rw [h, Nat.zero_testBit] at hBit
  cases hBit

------------------------------------------------------------
-- Runs of Code Points
------------------------------------------------------------

namespace CaseRun

/- The distances of the code points of a run from its first. -/
def offsets (r : CaseRun) : List Nat :=
  (List.range (r.last - r.first + 1)).filter
    (fun i => i % r.step == 0)

/- The code points of a run. -/
def domain (r : CaseRun) : List Nat :=
  r.offsets.map (fun i => r.first + i)

/- The code points to which they go. -/
def images (r : CaseRun) : List Nat :=
  r.offsets.map (fun i => r.image + i)

theorem mem_offsets
    {r : CaseRun}
    {n : Nat}
    (h : r.covers n = true) :
    r.first ≤ n ∧ n - r.first ∈ r.offsets := by
  rw [covers, Bool.and_eq_true, Bool.and_eq_true, decide_eq_true_eq,
    decide_eq_true_eq] at h
  rcases h with ⟨⟨hFirst, hLast⟩, hStep⟩
  refine ⟨hFirst, List.mem_filter.2 ⟨List.mem_range.2 ?_, hStep⟩⟩
  omega

theorem mem_domain
    {r : CaseRun}
    {n : Nat}
    (h : r.covers n = true) : n ∈ r.domain := by
  rcases mem_offsets h with ⟨hFirst, hMem⟩
  exact List.mem_map.2 ⟨n - r.first, hMem, by omega⟩

theorem mem_images
    {r : CaseRun}
    {n : Nat}
    (h : r.covers n = true) : r.image + (n - r.first) ∈ r.images :=
  List.mem_map.2 ⟨n - r.first, (mem_offsets h).2, rfl⟩

end CaseRun

------------------------------------------------------------
-- Case Mappings
------------------------------------------------------------

namespace CaseMapping

/- The code points that the mapping moves. -/
def domain (m : CaseMapping) : List Nat :=
  m.runs.flatMap CaseRun.domain ++ m.expansions.map (fun e => e.1)

/- The code points to which it moves them. -/
def images (m : CaseMapping) : List Nat :=
  m.runs.flatMap CaseRun.images ++ m.expansions.flatMap (fun e => e.2)

/- A code point on no run stays; another one goes to an image. -/
theorem runImage_cases
    (runs : List CaseRun)
    (n : Nat) :
    runImage runs n = n ∨
      n ∈ runs.flatMap CaseRun.domain ∧
        runImage runs n ∈ runs.flatMap CaseRun.images := by
  induction runs with
  | nil => exact Or.inl rfl
  | cons r rest ih =>
      rw [runImage, List.flatMap_cons, List.flatMap_cons,
        List.mem_append, List.mem_append]
      split
      · exact Or.inl rfl
      · split
        · rename_i hCovers
          exact Or.inr ⟨Or.inl (CaseRun.mem_domain hCovers),
            Or.inl (CaseRun.mem_images hCovers)⟩
        · rcases ih with hStays | ⟨hMoves, hGoes⟩
          · exact Or.inl hStays
          · exact Or.inr ⟨Or.inr hMoves, Or.inr hGoes⟩

/- A code point stays alone, or is moved to images. -/
theorem image_cases
    (m : CaseMapping)
    (n : Nat) :
    m.image n = [n] ∨
      n ∈ m.domain ∧ ∀ i ∈ m.image n, i ∈ m.images := by
  rw [image]
  cases hSeveral : m.expansions.lookup n with
  | some several =>
      rcases List.lookup_eq_some_iff.1 hSeveral with
        ⟨before, after, hItems, _⟩
      have hMem : (n, several) ∈ m.expansions := by
        rw [hItems]
        exact List.mem_append_right _ List.mem_cons_self
      right
      constructor
      · exact List.mem_append_right _
          (List.mem_map.2 ⟨(n, several), hMem, rfl⟩)
      · intro i hIn
        exact List.mem_append_right _
          (List.mem_flatMap.2 ⟨(n, several), hMem, hIn⟩)
  | none =>
      rcases runImage_cases m.runs n with hStays | ⟨hMoves, hGoes⟩
      · exact Or.inl (congrArg (fun i => [i]) hStays)
      · refine Or.inr ⟨List.mem_append_left _ hMoves, ?_⟩
        intro i hMem
        rw [List.mem_singleton.1 hMem]
        exact List.mem_append_left _ hGoes

end CaseMapping

------------------------------------------------------------
-- Settled Mappings
------------------------------------------------------------

namespace Character

theorem toNat_ofNat
    {n : Nat}
    (h : n.isValidChar) : (Char.ofNat n).toNat = n := by
  rw [Char.ofNat, dif_pos h]
  rfl

end Character

namespace CaseMapping

/-
  A mapping of characters to characters that stay where they are.
-/
structure IsSettled (m : CaseMapping) : Prop where
  runs : ∀ r ∈ m.runs,
    r.image + (r.last - r.first) < 0xD800 ∨
      0xDFFF < r.image ∧ r.image + (r.last - r.first) < 0x110000
  several : ∀ e ∈ m.expansions, e.2 ≠ [] ∧ ∀ i ∈ e.2, i < 0xD800
  apart : ∀ n ∈ m.images, n ∉ m.domain

variable {m : CaseMapping}

theorem apply_of_not_mem_domain
    {c : Char}
    (h : c.toNat ∉ m.domain) : m.apply c = [c] := by
  rw [apply]
  rcases m.image_cases c.toNat with hStays | ⟨hMoves, _⟩
  · rw [hStays, List.map_singleton, Char.ofNat_toNat]
  · exact absurd hMoves h

namespace IsSettled

/- All that the mapping leads to are characters. -/
theorem isValidChar_of_mem_images
    (h : m.IsSettled)
    {n : Nat}
    (hMem : n ∈ m.images) : n.isValidChar := by
  rcases List.mem_append.1 hMem with hRun | hExpansion
  · rcases List.mem_flatMap.1 hRun with ⟨r, hListed, hImage⟩
    rcases List.mem_map.1 hImage with ⟨i, hOffset, rfl⟩
    have hBound := List.mem_range.1 (List.mem_filter.1 hOffset).1
    have hRange := h.runs r hListed
    unfold Nat.isValidChar
    omega
  · rcases List.mem_flatMap.1 hExpansion with ⟨e, hListed, hIn⟩
    exact Or.inl ((h.several e hListed).2 n hIn)

/- A character that is mapped to stays, or is mapped to an image. -/
theorem mem_apply
    (h : m.IsSettled)
    {c d : Char}
    (hMem : d ∈ m.apply c) :
    d = c ∧ m.apply c = [c] ∨ d.toNat ∈ m.images := by
  rcases List.mem_map.1 hMem with ⟨n, hImage, rfl⟩
  rcases m.image_cases c.toNat with hStays | ⟨_, hGoes⟩
  · rw [hStays, List.mem_singleton] at hImage
    rw [hImage, apply, hStays, List.map_singleton, Char.ofNat_toNat]
    exact Or.inl ⟨rfl, rfl⟩
  · have hIn := hGoes n hImage
    rw [Character.toNat_ofNat (h.isValidChar_of_mem_images hIn)]
    exact Or.inr hIn

theorem apply_of_mem_images
    (h : m.IsSettled)
    {c : Char}
    (hMem : c.toNat ∈ m.images) : m.apply c = [c] :=
  apply_of_not_mem_domain (h.apart c.toNat hMem)

theorem apply_ne_nil
    (h : m.IsSettled)
    (c : Char) : m.apply c ≠ [] := by
  rw [apply, image]
  intro hEmpty
  split at hEmpty
  · rename_i several hFound
    rcases List.lookup_eq_some_iff.1 hFound with
      ⟨before, after, hItems, _⟩
    have hMem : (c.toNat, several) ∈ m.expansions := by
      rw [hItems]
      exact List.mem_append_right _ List.mem_cons_self
    exact (h.several _ hMem).1 (List.map_eq_nil_iff.1 hEmpty)
  · cases hEmpty

end IsSettled

end CaseMapping

end Bibliography
