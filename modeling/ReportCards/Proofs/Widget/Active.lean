import ReportCards.Proofs.Paging.Window
import ReportCards.Proofs.Widget.Coherence

namespace ReportCards
open Document Edit

variable {ν : Type} {pager : Pager ν} {sizing : Sizing} {container list : Nat}
  {count page : UInt64} {doc : Document (Action ν)}

def Pager.HasActive (doc : Document (Action ν)) (list : NodeId) (pages : List UInt64) : Prop :=
  ∃ links, doc.selectAll list activeSelector = .ok links ∧
    links.map (doc.getAttribute · indexAttribute) = pages.map (some ∘ Decimal.ofWord)

theorem Shows.hasActive (shows : Shows pager count list doc page) (forest : doc.IsForest)
    (inside : (pager.sizing.window count page).current ∈ (pager.sizing.window count page).pages) :
    Pager.HasActive doc list [(pager.sizing.window count page).current] := by
  obtain ⟨link, selected, index⟩ := shows.selectAll_active forest inside
  refine ⟨[link], selected, ?_⟩
  simp [index]

theorem Shows.hasActive_nil (shows : Shows pager count list doc page) (forest : doc.IsForest)
    (outside : (pager.sizing.window count page).current ∉ (pager.sizing.window count page).pages) :
    Pager.HasActive doc list [] :=
  ⟨[], shows.selectAll_active_of_outside forest outside, rfl⟩

theorem Pager.run_render_active (needs : pager.sizing.needsPages count = true) (forest : doc.IsForest)
    (known : pager.container < doc.size) (index : UInt64) :
    ∃ list after, (pager.render count index).run doc = .ok (some list) after ∧
      after.selectFirst pager.container listSelector = .ok (some list) ∧
      (pager.sizing.validate = .ok () ∧ pager.sizing.FitsAround count index →
        HasActive after list [pager.sizing.clamp count index]) ∧
      (¬(pager.sizing.validate = .ok () ∧ pager.sizing.FitsAround count index) →
        HasActive after list []) := by
  obtain ⟨list, after, run, shows, -⟩ := run_render_shows needs forest known index
  have forest' : after.IsForest := isForest_of_run forest run
  have contained := Sizing.current_mem_pages_iff needs index
  rw [← Sizing.window_clamp] at contained
  refine ⟨list, after, run, shows.found, ?_, ?_⟩
  · intro fits
    have active := shows.hasActive forest' (contained.2 fits)
    rwa [Sizing.window_clamp, Sizing.current_window] at active
  · intro unfit
    exact shows.hasActive_nil forest' (mt contained.1 unfit)

theorem Report.run_render_of_invalid (invalid : sizing.validate ≠ .ok ()) (container : NodeId)
    (doc : Document (Action ν)) : ∃ fault, sizing.validate = .error (.validation fault) ∧
      ∀ (spec : ReportSpec) (rows : List (List String)),
        (Report.render container spec rows sizing).run doc = .error (.validation fault) doc := by
  obtain ⟨fault, refused⟩ : ∃ fault, sizing.validate = .error (.validation fault) := by
    revert invalid
    unfold Sizing.validate
    split
    · simp
    · split <;> simp
  refine ⟨fault, refused, fun spec rows => ?_⟩
  rw [Report.render, refused]
  rfl

theorem Report.active_of_run_render (forest : doc.IsForest) (known : container < doc.size)
    {spec : ReportSpec} {rows : List (List String)} {report : Report ν} {after : Document (Action ν)}
    (run : (Report.render container spec rows sizing).run doc = .ok report after)
    {content : PagedContent ν} (paged : report.content = some content)
    (needs : sizing.needsPages content.table.rowCount = true) :
    ∃ list, after.selectFirst content.pager.container Pager.listSelector = .ok (some list) ∧
      Pager.HasActive after list [0] := by
  have forest' : after.IsForest := isForest_of_run forest run
  have valid : sizing.validate = .ok () := by
    by_contra invalid
    obtain ⟨fault, -, refused⟩ := Report.run_render_of_invalid invalid container doc
    rw [refused] at run
    cases run
  by_cases empty : rows = []
  · subst empty
    obtain ⟨card, last, run', -⟩ := run_renderReport_allGood forest known spec valid
    cases run.symm.trans run'
    cases paged
  · obtain ⟨card, table, last, run', -, isReport⟩ := run_renderReport forest known spec empty valid
    cases run.symm.trans run'
    cases paged
    have first : sizing.controlPage (UInt64.ofNat rows.length) 0 = some 0 := if_pos needs
    have holds := isReport.holds
    rw [first] at holds
    obtain ⟨list, -, -, shows⟩ := holds
    have contained := (Sizing.current_mem_pages_iff needs 0).2 ⟨valid, sizing.fitsAround_zero _⟩
    have active := shows.hasActive forest' contained
    rw [Sizing.current_window, Sizing.clamp_zero] at active
    exact ⟨list, shows.found, active⟩

/-- Reports are refused when their sizing is not valid, and a new report has one active handle if it has a
control. A pager refuses nothing: the control that it renders has one active handle when its sizing is
valid and the window does not run over, and none otherwise. -/
theorem one_active_iff_valid (reachable : doc.Reachable) (known : container < doc.size)
    (sizing : Sizing) :
    (sizing.validate ≠ .ok () → ∃ fault, sizing.validate = .error (.validation fault) ∧
      ∀ (spec : ReportSpec) (rows : List (List String)),
        (Report.render container spec rows sizing).run doc = .error (.validation fault) doc) ∧
    (∀ (spec : ReportSpec) (rows : List (List String)) (report : Report ν) (after : Document (Action ν))
        (content : PagedContent ν),
      (Report.render container spec rows sizing).run doc = .ok report after →
      report.content = some content → sizing.needsPages content.table.rowCount = true →
      ∃ list, after.selectFirst content.pager.container Pager.listSelector = .ok (some list) ∧
        Pager.HasActive after list [0]) ∧
    ∀ (listener : Listener ν) (count index : UInt64),
      let pager : Pager ν := { container, sizing, listener }
      (count ≤ sizing.pageSize → (pager.render count index).run doc = .ok none doc) ∧
      (sizing.pageSize < count → ∃ list after, (pager.render count index).run doc = .ok (some list) after ∧
        after.selectFirst container Pager.listSelector = .ok (some list) ∧
        (sizing.validate = .ok () ∧ sizing.FitsAround count index →
          Pager.HasActive after list [sizing.clamp count index]) ∧
        (¬(sizing.validate = .ok () ∧ sizing.FitsAround count index) →
          Pager.HasActive after list [])) := by
  have forest := reachable.isForest
  refine ⟨?_, ?_, ?_⟩
  · intro invalid
    exact Report.run_render_of_invalid invalid container doc
  · intro spec rows report after content run paged needs
    exact Report.active_of_run_render forest known run paged needs
  · intro listener count index pager
    constructor
    · intro few
      apply pager.run_render_of_not_needs
      rw [← Bool.not_eq_true, Sizing.needsPages_iff, UInt64.not_lt]
      exact few
    · intro many
      exact pager.run_render_active (Sizing.needsPages_iff.2 many) forest known index

theorem one_active_iff_valid_desk :
    (∃ list after,
      (Pager.render { container := 0, sizing := { pageSize := 2, maxHandles := 1 }, listener := .custom () }
        5 9).run desk = .ok (some list) after ∧ Pager.HasActive after list [2]) ∧
    ∀ (spec : ReportSpec) (rows : List (List String)),
      (Report.render 0 spec rows { pageSize := 0, maxHandles := 1 }).run desk =
        .error (.validation .zeroPageSize) desk := by
  have known : 0 < desk.size := by decide
  constructor
  · let sizing : Sizing := { pageSize := 2, maxHandles := 1 }
    obtain ⟨-, -, rendering⟩ := one_active_iff_valid reachable_desk known sizing
    obtain ⟨-, many⟩ := rendering (.custom ()) 5 9
    obtain ⟨list, after, run, -, active, -⟩ := many (by decide)
    have valid : sizing.validate = .ok () := by decide
    have fits : sizing.Fits 5 := Sizing.fits_of_lt valid (by decide)
    have last : sizing.clamp 5 9 = 2 := by decide
    rw [last] at active
    exact ⟨list, after, run, active ⟨valid, fits.around 9⟩⟩
  · let sizing : Sizing := { pageSize := 0, maxHandles := 1 }
    obtain ⟨refused, -, -⟩ := one_active_iff_valid reachable_desk known sizing
    obtain ⟨fault, found, refused⟩ := refused (by decide)
    cases found
    exact refused

theorem dead_control_without_page_size :
    let pager : Pager Unit :=
      { container := 0, sizing := { pageSize := 0, maxHandles := 5 }, listener := .custom () }
    pager.sizing.validate = .error (.validation .zeroPageSize) ∧
      ∃ list after, (pager.render 1 0).run desk = .ok (some list) after ∧
        desk.children 0 = [] ∧ after.children 0 = [list] ∧ Pager.HasActive after list [] := by
  intro pager
  have forest := reachable_desk.isForest
  have empty : desk.children 0 = [] := by decide
  have absent : desk.selectFirst 0 Pager.listSelector = .ok none := by
    rw [Pager.selectFirst_list, forest.descendants_eq, empty]
    rfl
  have needs : pager.sizing.needsPages 1 = true := by decide
  obtain ⟨list, after, run, shows, gains, -⟩ :=
    Pager.run_render_of_absent needs forest (by decide) absent 0
  have only : after.children 0 = [list] := by
    rw [gains.children_eq, empty]
    rfl
  refine ⟨by decide, list, after, run, empty, only, ?_⟩
  apply shows.hasActive_nil (isForest_of_run forest run)
  decide

end ReportCards
