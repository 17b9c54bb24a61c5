import ReportCards.Proofs.Paging.Window

namespace ReportCards

variable {sizing : Sizing} {count index i : UInt64}

namespace PageWindow

/-- The window has its full width, lies within the pages, and contains the current page. No other place within
the pages is nearer to the one where the current page has `side` pages before it. -/
structure IsPlaced (window : PageWindow) (sizing : Sizing) (count index : UInt64) : Prop where
  pageCount_eq : window.pageCount.toNat = count.toNat ⌈/⌉ sizing.pageSize.toNat
  current_eq : window.current.toNat = min index.toNat (window.pageCount.toNat - 1)
  size_eq : window.size.toNat = min sizing.maxHandles.toNat window.pageCount.toNat
  stop_eq : window.stop.toNat =
    window.start.toNat + min sizing.maxHandles.toNat window.pageCount.toNat
  start_le : window.start.toNat ≤ window.current.toNat
  current_lt : window.current.toNat < window.stop.toNat
  stop_le : window.stop.toNat ≤ window.pageCount.toNat
  start_eq : window.start.toNat =
    min (window.current.toNat - (sizing.maxHandles.toNat - 1) / 2)
      (window.pageCount.toNat - min sizing.maxHandles.toNat window.pageCount.toNat)
  nearest : ∀ wanted : Int, wanted = window.current.toNat - ((sizing.maxHandles.toNat - 1) / 2 : Nat) →
    ∀ start : Nat,
      start + min sizing.maxHandles.toNat window.pageCount.toNat ≤ window.pageCount.toNat →
        (window.start.toNat - wanted).natAbs ≤ (start - wanted).natAbs

theorem hidesEarlier_iff (window : PageWindow) (shown : window.start.toNat < window.stop.toNat) :
    window.hidesEarlier = true ↔ 0 ∉ window.pages := by
  rw [mem_pages_iff, hidesEarlier, decide_eq_true_iff, UInt64.lt_iff_toNat_lt, UInt64.toNat_zero]
  omega

theorem hidesLater_iff (window : PageWindow) (shown : window.start.toNat < window.stop.toNat)
    (within : window.stop.toNat ≤ window.pageCount.toNat) (last : i.toNat + 1 = window.pageCount.toNat) :
    window.hidesLater = true ↔ i ∉ window.pages := by
  rw [mem_pages_iff, hidesLater, decide_eq_true_iff, UInt64.lt_iff_toNat_lt]
  omega

theorem previous_eq_some_iff (window : PageWindow) :
    window.previous = some i ↔ i.toNat + 1 = window.current.toNat := by
  have zero_iff : window.current = 0 ↔ window.current.toNat = 0 := by
    rw [← UInt64.toNat_inj, UInt64.toNat_zero]
  unfold previous
  split
  · rename_i first
    rw [zero_iff.1 first]
    simp
  · rename_i later
    rw [zero_iff] at later
    have before : (window.current - 1).toNat = window.current.toNat - 1 :=
      UInt64.toNat_sub_of_le _ _ (UInt64.le_iff_toNat_le.2 (Nat.pos_of_ne_zero later))
    rw [Option.some_inj, ← UInt64.toNat_inj, before]
    omega

theorem next_eq_some_iff (window : PageWindow) (inside : window.current.toNat < window.pageCount.toNat) :
    window.next = some i ↔
      i.toNat = window.current.toNat + 1 ∧ i.toNat < window.pageCount.toNat := by
  have small := window.pageCount.toNat_lt_size
  have after := window.toNat_current_add_one (by omega)
  unfold next
  rw [Option.ite_none_right_eq_some, UInt64.lt_iff_toNat_lt, after, Option.some_inj,
    ← UInt64.toNat_inj, after]
  omega

end PageWindow

namespace Sizing

theorem isPlaced_window (valid : sizing.validate = .ok ()) (fits : sizing.FitsAround count index)
    (records : 0 < count.toNat) : (sizing.window count index).IsPlaced sizing count index := by
  have positive := pageCount_pos valid records
  have current := PageWindow.toNat_current sizing (sizing.pageCount count) index
  have side := toNat_side sizing
  obtain ⟨start, stop⟩ := PageWindow.toNat_around (fitsAround_iff.1 fits)
  obtain ⟨first, last, within⟩ := window_bounds_of_fitsAround valid fits positive
  rw [side] at start
  have size := (sizing.window count index).toNat_size (by omega)
  exact {
    pageCount_eq := toNat_pageCount (pageSize_ne valid) count
    current_eq := current
    size_eq := by
      rw [size]
      exact Nat.sub_eq_of_eq_add' stop
    stop_eq := stop
    start_le := first
    current_lt := last
    stop_le := within
    start_eq := start
    nearest := by
      intro wanted wanted_eq other room
      unfold window at wanted_eq room ⊢
      rw [PageWindow.pageCount_around] at room
      omega }

/-- For all sizes that a control can have, all numbers of records but zero, and all indices. There are no more
pages than handles, or the number of both together fits into a word. -/
theorem window_placed (valid : sizing.validate = .ok ()) (fits : sizing.Fits count)
    (records : 0 < count) (index : UInt64) :
    let window := sizing.window count index
    window.IsPlaced sizing count index ∧
      (∀ later : UInt64, let moved := sizing.window count later
        moved.current.toNat = window.current.toNat + 1 →
          moved.start.toNat = window.start.toNat ∨ moved.start.toNat = window.start.toNat + 1) ∧
      (window.hidesEarlier = true ↔ 0 ∉ window.pages) ∧
      (∀ last : UInt64, last.toNat + 1 = window.pageCount.toNat →
        (window.hidesLater = true ↔ last ∉ window.pages)) ∧
      (∀ i, window.previous = some i ↔ i.toNat + 1 = window.current.toNat) ∧
      ∀ i, window.next = some i ↔
        i.toNat = window.current.toNat + 1 ∧ i.toNat < window.pageCount.toNat := by
  intro window
  have some := UInt64.lt_iff_toNat_lt.1 records
  have placed : window.IsPlaced sizing count index := isPlaced_window valid (fits.around index) some
  have shown : window.start.toNat < window.stop.toNat :=
    Nat.lt_of_le_of_lt placed.start_le placed.current_lt
  refine ⟨placed, ?_, window.hidesEarlier_iff shown, fun last => window.hidesLater_iff shown placed.stop_le,
    fun i => window.previous_eq_some_iff, fun i => window.next_eq_some_iff ?_⟩
  · intro later moved step
    have placed' : moved.IsPlaced sizing count later := isPlaced_window valid (fits.around later) some
    have here := placed.start_eq
    have there := placed'.start_eq
    have same : moved.pageCount = window.pageCount := rfl
    rw [same] at there
    omega
  · exact Nat.lt_of_lt_of_le placed.current_lt placed.stop_le

theorem window_placed_even :
    let sizing : Sizing := { pageSize := 10, maxHandles := 4 }
    let window := sizing.window 95 5
    sizing.validate = .ok () ∧ sizing.Fits 95 ∧ (0 : UInt64) < 95 ∧ window.start = 4 ∧ window.stop = 8 ∧
      window.IsPlaced sizing 95 5 ∧ (window.hidesLater = true ↔ 9 ∉ window.pages) := by
  intro sizing window
  have valid : sizing.validate = .ok () := by decide
  have fits : sizing.Fits 95 := .inr (by decide)
  have records : (0 : UInt64) < 95 := by decide
  obtain ⟨placed, -, -, later, -⟩ := window_placed valid fits records 5
  exact ⟨valid, fits, records, by decide, by decide, placed, later 9 (by decide)⟩

end Sizing
end ReportCards
