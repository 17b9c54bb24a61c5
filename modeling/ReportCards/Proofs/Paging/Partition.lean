import ReportCards.Paging.Page
import ReportCards.Proofs.Paging.Window

namespace ReportCards

variable {α : Type} {items : List α} {pageSize : UInt64}

/-! ## Bounds -/

theorem toNat_pageBounds (length index pageSize : UInt64) :
    let bounds := pageBounds length index pageSize
    bounds.1.toNat = min (index.toNat * pageSize.toNat) length.toNat ∧
      bounds.2.toNat = min (index.toNat * pageSize.toNat + pageSize.toNat) length.toNat := by
  have small := length.toNat_lt
  simp only [pageBounds, Sizing.toNat_min, Word.toNat_add, Word.toNat_multiply, UInt64.size]
  omega

theorem page_eq (short : items.length < UInt64.size) (index pageSize : UInt64) :
    page items index pageSize =
      (items.drop (index.toNat * pageSize.toNat)).take pageSize.toNat := by
  have length : (UInt64.ofNat items.length).toNat = items.length := UInt64.toNat_ofNat_of_lt' short
  obtain ⟨start, stop⟩ := toNat_pageBounds (UInt64.ofNat items.length) index pageSize
  rw [length] at start stop
  unfold page
  simp only [start, stop]
  by_cases inside : index.toNat * pageSize.toNat ≤ items.length
  · rw [Nat.min_eq_left inside, List.take_eq_take_iff, List.length_drop]
    omega
  · have past := Nat.le_of_not_le inside
    rw [Nat.min_eq_right past, List.drop_eq_nil_of_le (Nat.le_refl items.length),
      List.drop_eq_nil_of_le past, List.take_nil, List.take_nil]

theorem length_page (short : items.length < UInt64.size) (index pageSize : UInt64) :
    (page items index pageSize).length =
      min pageSize.toNat (items.length - index.toNat * pageSize.toNat) := by
  rw [page_eq short, List.length_take, List.length_drop]

/-! ## Pages in a row -/

theorem flatMap_slices (items : List α) (pages size : Nat) :
    ((List.range pages).flatMap fun i => (items.drop (i * size)).take size) =
      items.take (pages * size) := by
  induction pages with
  | zero => rw [Nat.zero_mul, List.take_zero, List.range_zero, List.flatMap_nil]
  | succ pages ih =>
      rw [List.range_succ, List.flatMap_append, List.flatMap_singleton, ih, Nat.succ_mul, List.take_add]

theorem flatMap_pages (short : items.length < UInt64.size) {pages : Nat} (small : pages < UInt64.size) :
    ((List.range pages).flatMap fun i => page items (UInt64.ofNat i) pageSize) =
      items.take (pages * pageSize.toNat) := by
  rw [← flatMap_slices]
  apply List.flatMap_congr
  intro i member
  rw [page_eq short, UInt64.toNat_ofNat_of_lt' (Nat.lt_trans (List.mem_range.1 member) small)]

/-- For lists that can be there at all, and for all words. The slice of a page is the one that is meant, also
when its bounds are too large for a word. With a page size, all pages but the last one are full, and the
last one is not empty. -/
theorem pages_partition (items : List α) (short : items.length < UInt64.size) :
    (∀ index pageSize : UInt64,
      page items index pageSize = (items.drop (index.toNat * pageSize.toNat)).take pageSize.toNat ∧
      let bounds := pageBounds (UInt64.ofNat items.length) index pageSize
      bounds.1.toNat = min (index.toNat * pageSize.toNat) items.length ∧
      bounds.2.toNat = min (index.toNat * pageSize.toNat + pageSize.toNat) items.length ∧
      bounds.1 ≤ bounds.2 ∧ bounds.2.toNat ≤ items.length) ∧
    ∀ sizing : Sizing, sizing.pageSize ≠ 0 →
      let count := UInt64.ofNat items.length
      let pages := (sizing.pageCount count).toNat
      ((List.range pages).flatMap fun i => page items (UInt64.ofNat i) sizing.pageSize) = items ∧
      (∀ i : UInt64, i.toNat + 1 < pages →
        (page items i sizing.pageSize).length = sizing.pageSize.toNat) ∧
      (∀ i : UInt64, i.toNat + 1 = pages →
        1 ≤ (page items i sizing.pageSize).length ∧
          (page items i sizing.pageSize).length ≤ sizing.pageSize.toNat) ∧
      (∀ i : UInt64, pages ≤ i.toNat → page items i sizing.pageSize = []) ∧
      (sizing.needsPages count = true ↔ 2 ≤ pages) := by
  have length : (UInt64.ofNat items.length).toNat = items.length := UInt64.toNat_ofNat_of_lt' short
  constructor
  · intro index pageSize
    obtain ⟨start, stop⟩ := toNat_pageBounds (UInt64.ofNat items.length) index pageSize
    rw [length] at start stop
    refine ⟨page_eq short index pageSize, start, stop, ?_, ?_⟩
    · rw [UInt64.le_iff_toNat_le]
      omega
    · omega
  · intro sizing nonzero count pages
    have covers (n : Nat) : pages ≤ n ↔ items.length ≤ n * sizing.pageSize.toNat := by
      rw [← length]
      exact Sizing.pageCount_le_iff nonzero
    have small : pages < UInt64.size := (sizing.pageCount count).toNat_lt_size
    refine ⟨?_, fun i before => ?_, fun i last => ?_, fun i past => ?_, ?_⟩
    · rw [flatMap_pages short small]
      exact List.take_of_length_le ((covers pages).1 (Nat.le_refl pages))
    · have more := (covers (i.toNat + 1)).not.1 (Nat.not_le.2 before)
      rw [Nat.succ_mul] at more
      rw [length_page short]
      omega
    · have more := (covers i.toNat).not.1 (by omega)
      have positive := Sizing.pageSize_pos nonzero
      rw [length_page short]
      omega
    · have none := (covers i.toNat).1 past
      rw [page_eq short, List.drop_eq_nil_of_le none, List.take_nil]
    · have one := covers 1
      rw [Nat.one_mul] at one
      rw [Sizing.needsPages_iff, UInt64.lt_iff_toNat_lt, length]
      omega

theorem pages_partition_dozen :
    let items := List.range 12
    let sizing : Sizing := { pageSize := 5, maxHandles := 0 }
    items.length < UInt64.size ∧ sizing.pageSize ≠ 0 ∧ (sizing.pageCount 12).toNat = 3 ∧
      ((List.range 3).flatMap fun i => page items (UInt64.ofNat i) 5) = items ∧
      (page items 1 5).length = 5 ∧ 1 ≤ (page items 2 5).length ∧ page items 3 5 = [] ∧
      page items Word.greatest 5 = [] := by
  intro items sizing
  have short : items.length < UInt64.size := by decide
  have nonzero : sizing.pageSize ≠ 0 := by decide
  have three : (sizing.pageCount 12).toNat = 3 := by decide
  obtain ⟨-, partition⟩ := pages_partition items short
  obtain ⟨whole, full, last, past, -⟩ := partition sizing nonzero
  refine ⟨short, nonzero, three, ?_, full 1 (by decide), (last 2 (by decide)).1, ?_, ?_⟩
  · rw [← three]
    exact whole
  · exact past 3 (by decide)
  · exact past Word.greatest (by decide)

end ReportCards
