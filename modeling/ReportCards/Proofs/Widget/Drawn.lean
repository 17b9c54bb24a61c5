import ReportCards.Proofs.Widget.Success

namespace ReportCards
open Document Edit

structure Entry where
  label : String
  index : Option Nat := none
  active : Bool := false
  handlers : Nat
deriving DecidableEq, Repr

namespace Entry

def ellipsis : Entry := { label := "…", handlers := 0 }

def numbered (current i : Nat) : Entry :=
  { label := Decimal.ofNat (i + 1), index := some i, active := i = current, handlers := 1 }

end Entry

def Sizing.entries (sizing : Sizing) (count index : UInt64) : List Entry :=
  let window := sizing.window count index
  let start := window.start.toNat
  let stop := window.stop.toNat
  let pageCount := (sizing.pageCount count).toNat
  let current := min index.toNat (pageCount - 1)
  [{ label := "«", handlers := 1 }] ++ (if 0 < start then [.ellipsis] else [])
    ++ (List.range' start (stop - start)).map (.numbered current)
    ++ (if stop < pageCount then [.ellipsis] else []) ++ [{ label := "»", handlers := 1 }]

variable {ν : Type} {pager : Pager ν} {count index : UInt64} {window : PageWindow}
  {container list item link : Nat} {handle : Handle} {doc : Document (Action ν)}

def IsEntry (doc : Document (Action ν)) (list item : NodeId) (entry : Entry) : Prop :=
  ∃ link,
    doc.node item = { tag := "li", children := [link], parent := some list } ∧
    doc.node link =
      { tag := "a", text := entry.label, classes := if entry.active then ["active"] else []
        attributes := (entry.index.map fun i => ("data-index", Decimal.ofNat i)).toList
        parent := some item, handlers := doc.handlers link } ∧
    (doc.handlers link).length = entry.handlers

/-- A list below the container that has the given entries and nothing else in it, and one active link. -/
structure Draws (doc : Document (Action ν)) (container list : NodeId) (entries : List Entry)
    (active : Nat) : Prop where
  below : list ∈ doc.descendants container
  tagged : doc.tag list = "ul" ∧ "pagination" ∈ doc.classes list
  ownText : doc.ownText list = ""
  entries : List.Forall₂ (IsEntry doc list) (doc.children list) entries
  active : ∃ link, (doc.descendants list).filter (doc.isTagged "a" "active") = [link] ∧
    doc.getAttribute link "data-index" = some (Decimal.ofNat active)

/-! ## The entries of the handles -/

namespace Handle

def entry (window : PageWindow) : Handle → Entry
  | previous => { label := "«", handlers := 1 }
  | ellipsis => .ellipsis
  | page index => .numbered window.current.toNat index.toNat
  | next => { label := "»", handlers := 1 }

theorem entry_label (inside : ∀ i, handle = page i → i ∈ window.pages) :
    (handle.entry window).label = handle.label := by
  cases handle with
  | page i =>
      have small := PageWindow.toNat_succ_lt (inside i rfl)
      rw [label, Decimal.ofWord, UInt64.toNat_add, UInt64.toNat_one, Nat.mod_eq_of_lt small]
      rfl
  | previous | ellipsis | next => rfl

theorem entry_classes :
    (if (handle.entry window).active then ["active"] else []) = handle.classes window := by
  cases handle with
  | page i => simp [entry, Entry.numbered, classes, PageWindow.isCurrent, Pager.activeClass,
      ← UInt64.toNat_inj, eq_comm]
  | previous | ellipsis | next => rfl

theorem entry_attributes :
    ((handle.entry window).index.map fun i => ("data-index", Decimal.ofNat i)).toList =
      handle.attributes := by
  cases handle <;> rfl

theorem entry_handlers (pager : Pager ν) (count : UInt64) (list : NodeId) :
    (handle.entry window).handlers = (handle.actions pager count window list).length := by
  cases handle <;> rfl

end Handle

theorem IsHandle.isEntry (holds : IsHandle pager count window list doc item link handle)
    (inside : ∀ i, handle = .page i → i ∈ window.pages) :
    IsEntry doc list item (handle.entry window) := by
  refine ⟨link, holds.item_node, ?_, ?_⟩
  · rw [Handle.entry_label inside, Handle.entry_classes, Handle.entry_attributes]
    exact holds.link_node
  · rw [Handle.entry_handlers pager count list, ← holds.actions, List.length_map]

theorem PageWindow.mem_pages_of_mem_handles {i : UInt64} (member : .page i ∈ window.handles) :
    i ∈ window.pages := by
  unfold handles at member
  cases earlier : window.hidesEarlier <;> cases later : window.hidesLater <;>
    simpa [earlier, later] using member

theorem forall₂_isEntry {items : List NodeId} {handles : List Handle}
    (all : List.Forall₂ (fun item handle => ∃ link,
      IsHandle pager count window list doc item link handle) items handles)
    (inside : ∀ i, .page i ∈ handles → i ∈ window.pages) :
    List.Forall₂ (IsEntry doc list) items (handles.map (Handle.entry window)) := by
  induction all with
  | nil => exact .nil
  | @cons item handle items handles first _ ih =>
      obtain ⟨link, holds⟩ := first
      apply List.Forall₂.cons
      · apply holds.isEntry
        rintro i rfl
        exact inside i List.mem_cons_self
      · exact ih fun i member => inside i (List.mem_cons_of_mem _ member)

theorem Sizing.map_entry_handles (sizing : Sizing) (count index : UInt64) :
    (sizing.window count index).handles.map (Handle.entry (sizing.window count index)) =
      sizing.entries count index := by
  let window := sizing.window count index
  have edge (shown : Prop) [Decidable shown] : (if shown then [Handle.ellipsis] else []).map
      (Handle.entry window) = if shown then [.ellipsis] else [] := by
    split <;> rfl
  have earlier : window.hidesEarlier = true ↔ 0 < window.start.toNat := by
    simp [PageWindow.hidesEarlier, UInt64.lt_iff_toNat_lt]
  have later : window.hidesLater = true ↔ window.stop.toNat < (sizing.pageCount count).toNat := by
    simp [PageWindow.hidesLater, UInt64.lt_iff_toNat_lt, window, pageCount_window]
  have current : window.current.toNat = min index.toNat ((sizing.pageCount count).toNat - 1) := by
    rw [current_window, toNat_clamp]
  have pages : (window.pages.map Handle.page).map (Handle.entry window) =
      (List.range' window.start.toNat (window.stop.toNat - window.start.toNat)).map
        (.numbered (min index.toNat ((sizing.pageCount count).toNat - 1))) := by
    rw [← PageWindow.map_toNat_pages, List.map_map, List.map_map, ← current]
    rfl
  rw [PageWindow.handles, entries]
  simp only [List.map_append, List.map_singleton, edge, earlier, later, pages, window]
  rfl

theorem Sizing.entries_clamp (sizing : Sizing) (count index : UInt64) :
    sizing.entries count (sizing.clamp count index) = sizing.entries count index := by
  rw [← map_entry_handles, window_clamp, map_entry_handles]

/-! ## Rendered controls -/

theorem Shows.draws {page : UInt64} (shows : Shows pager count list doc page) (forest : doc.IsForest)
    (inside : (pager.sizing.window count page).current ∈ (pager.sizing.window count page).pages) :
    Draws doc pager.container list (pager.sizing.entries count page)
      (pager.sizing.clamp count page).toNat := by
  have tagged := List.find?_some shows.find?_eq
  obtain ⟨link, selected, indexed⟩ := shows.selectAll_active forest inside
  rw [doc.selectAll_of_parse list Pager.parse_activeSelector] at selected
  rw [isTagged_iff] at tagged
  refine ⟨shows.mem_descendants, tagged, shows.ownText, ?_, link, Except.ok.inj selected, indexed⟩
  rw [← Sizing.map_entry_handles]
  exact forall₂_isEntry shows.handles fun i => PageWindow.mem_pages_of_mem_handles

/-- A pager renders no control when everything fits on one page, and then nothing has changed. Otherwise the
control has the entries of the window around the page that was asked for, or around the last page. -/
theorem Pager.render_draws (reachable : doc.Reachable) (known : pager.container < doc.size)
    (serves : pager.sizing.Serves count) (index : UInt64) :
    ((∃ after, (pager.render count index).run doc = .ok none after) ↔ count ≤ pager.sizing.pageSize) ∧
    (∀ after, (pager.render count index).run doc = .ok none after → after = doc) ∧
    (pager.sizing.pageSize < count → ∃ list after, (pager.render count index).run doc = .ok (some list) after ∧
      Draws after pager.container list (pager.sizing.entries count index)
        (min index.toNat ((pager.sizing.pageCount count).toNat - 1))) := by
  have unrendered (few : count ≤ pager.sizing.pageSize) : (pager.render count index).run doc = .ok none doc := by
    apply pager.run_render_of_not_needs
    rw [← Bool.not_eq_true, Sizing.needsPages_iff, UInt64.not_lt]
    exact few
  have rendered (many : pager.sizing.pageSize < count) :
      ∃ list after, (pager.render count index).run doc = .ok (some list) after ∧
        Draws after pager.container list (pager.sizing.entries count index)
          (min index.toNat ((pager.sizing.pageCount count).toNat - 1)) := by
    have needs := Sizing.needsPages_iff.2 many
    obtain ⟨list, after, run, shows, -⟩ := run_render_shows needs reachable.isForest known index
    have inside := (Sizing.current_mem_pages_iff needs index).2 ⟨serves.valid, serves.fits.around index⟩
    rw [← Sizing.window_clamp] at inside
    have draws := shows.draws (isForest_of_run reachable.isForest run) inside
    rw [Sizing.clamp_clamp, Sizing.toNat_clamp, Sizing.entries_clamp] at draws
    exact ⟨list, after, run, draws⟩
  refine ⟨⟨?_, ?_⟩, ?_, rendered⟩
  · rintro ⟨after, run⟩
    by_contra many
    obtain ⟨list, other, run', -⟩ := rendered (UInt64.not_le.1 many)
    cases run.symm.trans run'
  · intro few
    exact ⟨doc, unrendered few⟩
  · intro after run
    rcases UInt64.le_or_lt count pager.sizing.pageSize with few | many
    · cases run.symm.trans (unrendered few)
      rfl
    · obtain ⟨list, other, run', -⟩ := rendered many
      cases run.symm.trans run'

theorem Pager.render_draws_desk :
    let pager : Pager Unit :=
      { container := 0, sizing := { pageSize := 2, maxHandles := 2 }, listener := .custom () }
    (∃ after, (pager.render 2 0).run desk = .ok none after) ∧
    ∃ list after, (pager.render 5 9).run desk = .ok (some list) after ∧
      Draws after 0 list
        [{ label := "«", handlers := 1 }, .ellipsis, .numbered 2 1, .numbered 2 2,
          { label := "»", handlers := 1 }] 2 := by
  intro pager
  have entries : pager.sizing.entries 5 9 =
      [{ label := "«", handlers := 1 }, .ellipsis, .numbered 2 1, .numbered 2 2,
        { label := "»", handlers := 1 }] := by
    decide
  have active : min (9 : UInt64).toNat ((pager.sizing.pageCount 5).toNat - 1) = 2 := by decide
  have valid : pager.sizing.validate = .ok () := by decide
  have serves (count : UInt64) (small : count.toNat < 2 ^ 63) : pager.sizing.Serves count :=
    ⟨valid, Sizing.fits_of_lt valid small⟩
  constructor
  · obtain ⟨none, -, -⟩ := render_draws reachable_desk (by decide) (serves 2 (by decide)) 0
    exact none.2 (by decide)
  · obtain ⟨-, -, some⟩ := render_draws reachable_desk (by decide) (serves 5 (by decide)) 9
    rw [← entries, ← active]
    exact some (by decide)

end ReportCards
