import Mathlib.Algebra.Group.Nat.Defs
import Mathlib.Algebra.Order.Floor.Div
import Mathlib.Data.List.Nodup
import Mathlib.Data.List.Range
import ReportCards.Paging.Page
import ReportCards.Paging.Window

namespace ReportCards

variable {sizing : Sizing} {count index i : UInt64}

namespace Sizing

def Fits (sizing : Sizing) (count : UInt64) : Prop :=
  (sizing.pageCount count).toNat ≤ sizing.maxHandles.toNat ∨
    (sizing.pageCount count).toNat + sizing.maxHandles.toNat < UInt64.size

theorem pageSize_ne (valid : sizing.validate = .ok ()) : sizing.pageSize ≠ 0 :=
  ((validate_eq_ok_iff sizing).1 valid).1

theorem pageSize_pos (nonzero : sizing.pageSize ≠ 0) : 0 < sizing.pageSize.toNat :=
  Nat.pos_of_ne_zero fun zero => nonzero (UInt64.toNat_inj.1 zero)

theorem maxHandles_pos (valid : sizing.validate = .ok ()) : 0 < sizing.maxHandles.toNat :=
  Nat.pos_of_ne_zero fun zero => ((validate_eq_ok_iff sizing).1 valid).2 (UInt64.toNat_inj.1 zero)

theorem toNat_pageCount_eq_div (nonzero : sizing.pageSize ≠ 0) (count : UInt64) :
    (sizing.pageCount count).toNat =
      count.toNat / sizing.pageSize.toNat + if count.toNat % sizing.pageSize.toNat = 0 then 0 else 1 := by
  have positive := pageSize_pos nonzero
  have small := count.toNat_lt
  have whole := Nat.div_add_mod count.toNat sizing.pageSize.toNat
  have zero_iff : count % sizing.pageSize = 0 ↔ count.toNat % sizing.pageSize.toNat = 0 := by
    rw [← UInt64.toNat_inj, UInt64.toNat_mod]
    rfl
  unfold pageCount
  rw [if_neg nonzero]
  simp only [zero_iff]
  split
  · rw [UInt64.toNat_div, Nat.add_zero]
  · -- A page size of one leaves no rest, so the quotient is less than the count.
    have less := Nat.le_mul_of_pos_left (count.toNat / sizing.pageSize.toNat) positive
    rw [UInt64.toNat_add, UInt64.toNat_div, UInt64.toNat_one, Nat.mod_eq_of_lt (by omega)]

theorem toNat_pageCount (nonzero : sizing.pageSize ≠ 0) (count : UInt64) :
    (sizing.pageCount count).toNat = count.toNat ⌈/⌉ sizing.pageSize.toNat := by
  have positive := pageSize_pos nonzero
  have whole := Nat.div_add_mod count.toNat sizing.pageSize.toNat
  have rest := Nat.mod_lt count.toNat positive
  rw [toNat_pageCount_eq_div nonzero, Nat.ceilDiv_eq_add_pred_div]
  symm
  apply Nat.div_eq_of_lt_le
  · rw [Nat.mul_comm, Nat.mul_add]
    split <;> omega
  · rw [Nat.mul_comm, Nat.mul_add, Nat.mul_add]
    split <;> omega

theorem pageCount_le_iff (nonzero : sizing.pageSize ≠ 0) {pages : Nat} :
    (sizing.pageCount count).toNat ≤ pages ↔ count.toNat ≤ pages * sizing.pageSize.toNat := by
  rw [toNat_pageCount nonzero, ceilDiv_le_iff_le_mul (pageSize_pos nonzero), Nat.mul_comm]

theorem pageCount_le (valid : sizing.validate = .ok ()) (count : UInt64) :
    (sizing.pageCount count).toNat ≤ count.toNat :=
  (pageCount_le_iff (pageSize_ne valid)).2
    (Nat.le_mul_of_pos_right count.toNat (pageSize_pos (pageSize_ne valid)))

theorem pageCount_pos (valid : sizing.validate = .ok ()) (some : 0 < count.toNat) :
    0 < (sizing.pageCount count).toNat := by
  by_contra none
  have empty := (pageCount_le_iff (pageSize_ne valid)).1 (Nat.not_lt.1 none)
  rw [Nat.zero_mul] at empty
  exact Nat.not_lt.2 empty some

theorem needsPages_iff : sizing.needsPages count = true ↔ sizing.pageSize < count := by
  simp [needsPages]

theorem fits_of_lt (valid : sizing.validate = .ok ()) (small : count.toNat < 2 ^ 63) :
    sizing.Fits count := by
  have le := pageCount_le valid count
  unfold Fits UInt64.size
  omega

def clamp (sizing : Sizing) (count index : UInt64) : UInt64 :=
  min index (Word.subtract (sizing.pageCount count) 1)

theorem toNat_min (a b : UInt64) : (min a b).toNat = min a.toNat b.toNat := by
  by_cases le : a ≤ b
  · rw [show min a b = a from if_pos le, Nat.min_eq_left (UInt64.le_iff_toNat_le.1 le)]
  · rw [show min a b = b from if_neg le]
    rw [UInt64.le_iff_toNat_le] at le
    omega

theorem toNat_clamp (sizing : Sizing) (count index : UInt64) :
    (sizing.clamp count index).toNat = min index.toNat ((sizing.pageCount count).toNat - 1) := by
  rw [clamp, toNat_min, Word.toNat_subtract]
  rfl

theorem clamp_lt (positive : 0 < (sizing.pageCount count).toNat) (index : UInt64) :
    (sizing.clamp count index).toNat < (sizing.pageCount count).toNat := by
  rw [toNat_clamp]
  omega

theorem clamp_of_lt (inside : index.toNat < (sizing.pageCount count).toNat) :
    sizing.clamp count index = index := by
  rw [← UInt64.toNat_inj, toNat_clamp]
  omega

theorem clamp_zero (sizing : Sizing) (count : UInt64) : sizing.clamp count 0 = 0 := by
  rw [← UInt64.toNat_inj, toNat_clamp]
  exact Nat.zero_min _

theorem clamp_clamp (sizing : Sizing) (count index : UInt64) :
    sizing.clamp count (sizing.clamp count index) = sizing.clamp count index := by
  rw [← UInt64.toNat_inj, toNat_clamp, toNat_clamp]
  omega

theorem current_window (sizing : Sizing) (count index : UInt64) :
    (sizing.window count index).current = sizing.clamp count index :=
  rfl

theorem pageCount_window (sizing : Sizing) (count index : UInt64) :
    (sizing.window count index).pageCount = sizing.pageCount count :=
  rfl

theorem window_clamp (sizing : Sizing) (count index : UInt64) :
    sizing.window count (sizing.clamp count index) = sizing.window count index := by
  have same := sizing.clamp_clamp count index
  unfold window PageWindow.around
  unfold clamp at same
  simp only [clamp, same]

def FitsAround (sizing : Sizing) (count index : UInt64) : Prop :=
  (sizing.pageCount count).toNat ≤ sizing.maxHandles.toNat ∨
    (sizing.clamp count index).toNat - sizing.side.toNat + sizing.maxHandles.toNat < UInt64.size

theorem Fits.around (fits : sizing.Fits count) (index : UInt64) : sizing.FitsAround count index := by
  have current := toNat_clamp sizing count index
  unfold Fits at fits
  unfold FitsAround
  omega

theorem fitsAround_zero (sizing : Sizing) (count : UInt64) : sizing.FitsAround count 0 := by
  have small := sizing.maxHandles.toNat_lt_size
  right
  rwa [clamp_zero, UInt64.toNat_zero, Nat.zero_sub, Nat.zero_add]

theorem toNat_side (sizing : Sizing) : sizing.side.toNat = (sizing.maxHandles.toNat - 1) / 2 := by
  rw [Sizing.side, UInt64.toNat_div, Word.toNat_subtract]
  rfl

theorem fitsAround_iff : sizing.FitsAround count index ↔
    PageWindow.SumFits sizing (sizing.pageCount count) index := by
  unfold FitsAround PageWindow.SumFits clamp
  rw [Word.toNat_subtract, UInt64.le_iff_toNat_le]

end Sizing

namespace PageWindow

theorem toNat_current (sizing : Sizing) (pageCount index : UInt64) :
    (around sizing pageCount index).current.toNat = min index.toNat (pageCount.toNat - 1) := by
  rw [current_around, Sizing.toNat_min, Word.toNat_subtract]
  rfl

theorem toNat_size (window : PageWindow) (ordered : window.start.toNat ≤ window.stop.toNat) :
    window.size.toNat = window.stop.toNat - window.start.toNat :=
  UInt64.toNat_sub_of_le _ _ (UInt64.le_iff_toNat_le.2 ordered)

theorem toNat_current_add_one (window : PageWindow) (small : window.current.toNat + 1 < UInt64.size) :
    (window.current + 1).toNat = window.current.toNat + 1 := by
  rw [UInt64.toNat_add, UInt64.toNat_one, Nat.mod_eq_of_lt small]

/-- Unless its sum is too large, the window has as many pages as there are handles, or all pages. It is
placed `side` pages before the current page, or where the last page still is in it. -/
theorem toNat_around {pageCount : UInt64} (fits : SumFits sizing pageCount index) :
    let window := around sizing pageCount index
    window.start.toNat = min (window.current.toNat - sizing.side.toNat)
        (pageCount.toNat - min sizing.maxHandles.toNat pageCount.toNat) ∧
      window.stop.toNat = window.start.toNat + min sizing.maxHandles.toNat pageCount.toNat := by
  have current := toNat_current sizing pageCount index
  unfold SumFits at fits
  unfold around at current ⊢
  simp only at current ⊢
  generalize min index (Word.subtract pageCount 1) = page at *
  rw [UInt64.le_iff_toNat_le] at fits
  split
  · rename_i few
    rw [UInt64.le_iff_toNat_le] at few
    simp only [UInt64.toNat_zero]
    omega
  · rename_i many
    rw [UInt64.le_iff_toNat_le] at many
    have start := Word.toNat_subtract page sizing.side
    have stop : (Word.subtract page sizing.side + sizing.maxHandles).toNat =
        (Word.subtract page sizing.side).toNat + sizing.maxHandles.toNat := by
      rw [UInt64.toNat_add, Nat.mod_eq_of_lt (fits.resolve_left many)]
    split
    · rename_i past
      rw [UInt64.lt_iff_toNat_lt] at past
      have back := Word.toNat_subtract pageCount sizing.maxHandles
      simp only
      omega
    · rename_i within
      rw [UInt64.lt_iff_toNat_lt] at within
      simp only
      omega

theorem stop_le_start_of_not_sumFits {pageCount : UInt64} (large : ¬SumFits sizing pageCount index) :
    (around sizing pageCount index).stop.toNat ≤ (around sizing pageCount index).start.toNat := by
  unfold SumFits at large
  obtain ⟨many, tooLarge⟩ := not_or.1 large
  have handles := sizing.maxHandles.toNat_lt
  have stop := UInt64.toNat_add
    (Word.subtract (min index (Word.subtract pageCount 1)) sizing.side) sizing.maxHandles
  unfold UInt64.size at tooLarge
  unfold around
  simp only
  rw [if_neg many]
  -- The sum starts again at zero, so the window would stop before it starts.
  split
  · rename_i past
    have start := Word.toNat_subtract (min index (Word.subtract pageCount 1)) sizing.side
    have current := toNat_current sizing pageCount index
    rw [current_around] at current
    rw [UInt64.lt_iff_toNat_lt] at past
    omega
  · simp only
    omega

end PageWindow

namespace Sizing

theorem window_bounds_of_fitsAround (valid : sizing.validate = .ok ())
    (fits : sizing.FitsAround count index) (positive : 0 < (sizing.pageCount count).toNat) :
    let window := sizing.window count index
    window.start.toNat ≤ window.current.toNat ∧ window.current.toNat < window.stop.toNat ∧
      window.stop.toNat ≤ (sizing.pageCount count).toNat := by
  have current := toNat_clamp sizing count index
  rw [← current_window] at current
  have handles := maxHandles_pos valid
  have side := toNat_side sizing
  obtain ⟨start, stop⟩ := PageWindow.toNat_around (fitsAround_iff.1 fits)
  unfold window at current ⊢
  omega

theorem window_bounds (valid : sizing.validate = .ok ()) (fits : sizing.Fits count)
    (positive : 0 < (sizing.pageCount count).toNat) (index : UInt64) :
    let window := sizing.window count index
    window.start.toNat ≤ window.current.toNat ∧ window.current.toNat < window.stop.toNat ∧
      window.stop.toNat ≤ (sizing.pageCount count).toNat :=
  window_bounds_of_fitsAround valid (fits.around index) positive

end Sizing

namespace PageWindow

variable {window : PageWindow}

theorem pages_eq (window : PageWindow) :
    window.pages = (List.range' window.start.toNat
      (window.stop.toNat - window.start.toNat)).map UInt64.ofNat := by
  rw [pages, firstPages, Nat.min_self]

theorem map_toNat_pages (window : PageWindow) :
    window.pages.map UInt64.toNat =
      List.range' window.start.toNat (window.stop.toNat - window.start.toNat) := by
  have small := window.stop.toNat_lt_size
  rw [pages_eq, List.map_map, List.map_congr_left, List.map_id]
  intro n member
  rw [List.mem_range'_1] at member
  exact UInt64.toNat_ofNat_of_lt' (by omega)

theorem mem_pages_iff : i ∈ window.pages ↔
    window.start.toNat ≤ i.toNat ∧ i.toNat < window.stop.toNat := by
  have injective : Function.Injective UInt64.toNat := fun _ _ => UInt64.toNat_inj.1
  rw [← List.mem_map_of_injective injective, map_toNat_pages, List.mem_range'_1]
  omega

theorem nodup_pages (window : PageWindow) : window.pages.Nodup := by
  refine List.Nodup.of_map UInt64.toNat ?_
  rw [map_toNat_pages]
  exact List.nodup_range' ..

theorem map_pages_eq_integersBetween (window : PageWindow) :
    window.pages.map (fun page => (page.toNat : Int)) =
      integersBetween window.start.toNat (window.stop.toNat - 1) := by
  have length : ((window.stop.toNat - 1 : Int) - window.start.toNat + 1).toNat =
      window.stop.toNat - window.start.toNat := by omega
  have numbers := congrArg (List.map Int.ofNat) window.map_toNat_pages
  rw [List.map_map, List.range'_eq_map_range, List.map_map] at numbers
  rw [integersBetween, length]
  exact numbers

end PageWindow

namespace Sizing

theorem window_empty_of_invalid (invalid : sizing.validate ≠ .ok ()) (count index : UInt64) :
    (sizing.window count index).stop.toNat ≤ (sizing.window count index).start.toNat := by
  rw [Ne, validate_eq_ok_iff, not_and_or, not_not, not_not] at invalid
  unfold window PageWindow.around
  rcases invalid with noSize | noHandles
  · simp [pageCount, noSize]
  · have current := toNat_clamp sizing count index
    have side := toNat_side sizing
    have start := Word.toNat_subtract (sizing.clamp count index) sizing.side
    rw [noHandles, UInt64.toNat_zero] at side
    unfold clamp at current start
    simp only [noHandles, UInt64.add_zero]
    split
    · rename_i none
      simpa [UInt64.le_iff_toNat_le] using none
    · split
      · rename_i past
        rw [UInt64.lt_iff_toNat_lt] at past
        omega
      · exact Nat.le_refl _

theorem window_empty_of_not_fitsAround (large : ¬sizing.FitsAround count index) :
    (sizing.window count index).stop.toNat ≤ (sizing.window count index).start.toNat := by
  rw [fitsAround_iff] at large
  exact PageWindow.stop_le_start_of_not_sumFits large

theorem current_mem_pages_iff (needs : sizing.needsPages count = true) (index : UInt64) :
    (sizing.window count index).current ∈ (sizing.window count index).pages ↔
      sizing.validate = .ok () ∧ sizing.FitsAround count index := by
  rw [PageWindow.mem_pages_iff]
  constructor
  · rintro ⟨low, high⟩
    constructor
    · by_contra invalid
      have empty := window_empty_of_invalid invalid count index
      omega
    · by_contra large
      have empty := window_empty_of_not_fitsAround large
      omega
  · rintro ⟨valid, fits⟩
    have many := UInt64.lt_iff_toNat_lt.1 (needsPages_iff.1 needs)
    have positive := pageCount_pos valid (Nat.lt_of_le_of_lt (Nat.zero_le _) many)
    have bounds := window_bounds_of_fitsAround valid fits positive
    exact ⟨bounds.1, bounds.2.1⟩

end Sizing
end ReportCards
