import ReportCards.Click.Machine
import ReportCards.Proofs.Widget.Active

namespace ReportCards
open Relation Document Edit

variable {ν σ α : Type} {sizing : Sizing} {count index : UInt64} {n container : Nat}

structure Sizing.Serves (sizing : Sizing) (count : UInt64) : Prop where
  valid : sizing.validate = .ok ()
  fits : sizing.Fits count

namespace Edit

variable {κ : Type} {doc : Document κ}

def Succeeds (edit : Edit κ α) (doc : Document κ) : Prop :=
  ∃ value after, edit.run doc = .ok value after

theorem addCell_succeeds (forest : doc.IsForest) (known : n < doc.size) (value : CellValue) :
    (addCell n value).Succeeds doc := by
  obtain ⟨created, labelled, after, runCreate, runText, runAppend, -⟩ :=
    run_addLeaf (by decide : isTagName "td" = true) forest known value.shown
  refine ⟨doc.size, after, ?_⟩
  rw [addCell, run_bind_of_ok runCreate, run_bind_of_ok runText, run_bind_of_ok runAppend]
  rfl

theorem addBlankRows_succeeds (forest : doc.IsForest) (known : n < doc.size) (count columns : Nat) :
    (addBlankRows n count columns).Succeeds doc := by
  obtain ⟨new, after, run, -⟩ :=
    run_addRows forest known (List.replicate count (List.replicate columns placeholder))
  exact ⟨_, after, run⟩

end Edit

section

variable {doc : Document (Action ν)}

theorem Pager.exists_run_render (pager : Pager ν) (forest : doc.IsForest)
    (known : pager.container < doc.size) (count index : UInt64) :
    ∃ list after, (pager.render count index).run doc = .ok list after := by
  cases needs : pager.sizing.needsPages count with
  | true =>
      obtain ⟨list, after, run, -⟩ := run_render_shows needs forest known index
      exact ⟨some list, after, run⟩
  | false => exact ⟨none, doc, pager.run_render_of_not_needs needs doc index⟩

theorem Report.showPage_succeeds (forest : doc.IsForest) {report : Report ν}
    (knownBody : ∀ content ∈ report.content, content.table.body < doc.size)
    (knownSlot : ∀ content ∈ report.content, content.pager.container < doc.size) (index : UInt64) :
    (report.showPage index).Succeeds doc := by
  obtain ⟨card, content⟩ := report
  cases content with
  | none => exact ⟨(), doc, rfl⟩
  | some content =>
      obtain ⟨table, pager⟩ := content
      let page := min index (Word.subtract (pager.sizing.pageCount table.rowCount) 1)
      obtain ⟨turned, runTable, -, -, changed⟩ :=
        PagedTable.run_showPage forest (knownBody _ rfl) page
      have known := Nat.lt_of_lt_of_le (knownSlot _ rfl) changed.size_le
      obtain ⟨list, after, runControl⟩ :=
        pager.exists_run_render (isForest_of_run forest runTable) known table.rowCount page
      refine ⟨(), after, ?_⟩
      refine (run_bind_of_ok runTable).trans ?_
      exact (run_bind_of_ok runControl).trans rfl

theorem Report.render_succeeds (forest : doc.IsForest) (known : container < doc.size)
    (valid : sizing.validate = .ok ()) (spec : ReportSpec) (rows : List (List String)) :
    (Report.render container spec rows sizing).Succeeds doc := by
  by_cases empty : rows = []
  · subst empty
    obtain ⟨card, after, run, -⟩ := run_renderReport_allGood forest known spec valid
    exact ⟨_, after, run⟩
  · obtain ⟨card, table, after, run, -⟩ := run_renderReport forest known spec empty valid
    exact ⟨_, after, run⟩

theorem Report.run_render_eq_error_iff (forest : doc.IsForest) (known : container < doc.size)
    {spec : ReportSpec} {rows : List (List String)} {error : Error} {after : Document (Action ν)} :
    (Report.render container spec rows sizing).run doc = .error error after ↔
      sizing.validate = .error error ∧ after = doc := by
  by_cases valid : sizing.validate = .ok ()
  · obtain ⟨report, shown, run⟩ := Report.render_succeeds forest known valid spec rows
    rw [run, valid]
    simp
  · obtain ⟨fault, refused, run⟩ := Report.run_render_of_invalid valid container doc
    rw [run, refused]
    simp [eq_comm]

/-! ## Operations -/

def Operation.Builds (doc : Document (Action ν)) : Operation ν α → Prop
  | clearContents n => n < doc.size
  | showAllGood container => container < doc.size
  | createCard container _ _ => container < doc.size
  | createTable container _ => container < doc.size
  | addCell row _ => row < doc.size
  | addRow body _ => body < doc.size
  | addBlankRows body _ _ => body < doc.size
  | showTablePage table _ => table.body < doc.size
  | renderPager pager count _ => pager.container < doc.size ∧ pager.sizing.Serves count
  | renderReport container _ _ sizing => container < doc.size ∧ sizing.validate = .ok ()
  | showReportPage report _ => ∀ content ∈ report.content, content.table.body < doc.size ∧
      content.pager.container < doc.size ∧ content.pager.sizing.Serves content.table.rowCount
  | _ => False

theorem Operation.succeeds (operation : Operation ν α) (builds : operation.Builds doc)
    (forest : doc.IsForest) : operation.edit.Succeeds doc := by
  cases operation with
  | create | setText | setId | addClass | setAttribute | append | remove | onClick | clearHandlers =>
      cases builds
  | clearContents n =>
      obtain ⟨after, run, -⟩ := run_clearContents forest n
      exact ⟨_, after, run⟩
  | showAllGood container =>
      obtain ⟨message, after, run, -⟩ := run_showAllGood forest builds
      exact ⟨message, after, run⟩
  | createCard container id title =>
      obtain ⟨after, run, -⟩ := run_createCard forest builds id title
      exact ⟨_, after, run⟩
  | createTable container columns =>
      obtain ⟨after, run, -⟩ := run_createTable forest builds columns
      exact ⟨_, after, run⟩
  | addCell row value => exact addCell_succeeds forest builds value
  | addRow body values =>
      obtain ⟨after, run, -⟩ := run_addRow forest builds values
      exact ⟨_, after, run⟩
  | addBlankRows body count columns => exact addBlankRows_succeeds forest builds count columns
  | showTablePage table index =>
      obtain ⟨after, run, -⟩ := PagedTable.run_showPage forest builds index
      exact ⟨_, after, run⟩
  | renderPager pager count index => exact pager.exists_run_render forest builds.1 count index
  | renderReport container spec rows sizing =>
      exact Report.render_succeeds forest builds.1 builds.2 spec rows
  | showReportPage report index =>
      apply Report.showPage_succeeds forest
      · intro content paged
        exact (builds content paged).1
      · intro content paged
        exact (builds content paged).2.1

theorem Operation.apply_of_run {operation : Operation ν α} {value : α} {after : Document (Action ν)}
    (run : operation.edit.run doc = .ok value after) : operation.apply doc = (.ok value, after) := by
  rw [apply, run]

theorem Operation.exists_apply {operation : Operation ν α} (builds : operation.Builds doc)
    (forest : doc.IsForest) : ∃ value after, operation.apply doc = (.ok value, after) := by
  obtain ⟨value, after, run⟩ := operation.succeeds builds forest
  exact ⟨value, after, apply_of_run run⟩

theorem Operation.apply_renderReport_eq_error_iff (forest : doc.IsForest) (known : container < doc.size)
    {spec : ReportSpec} {rows : List (List String)} {error : Error} {after : Document (Action ν)} :
    (renderReport container spec rows sizing).apply doc = (.error error, after) ↔
      sizing.validate = .error error ∧ after = doc := by
  have refused : (Report.render container spec rows sizing).run doc = .error error after ↔ _ :=
    Report.run_render_eq_error_iff forest known
  rw [← refused, apply, edit]
  cases (Report.render container spec rows sizing).run doc <;> simp

/-! ## Selected pages -/

/-- When a page is selected, the control is rendered and then the listener is told; if that is a table, it
shows a page. Whatever comes after the selection, and whatever is waiting for it to end, it never ends
earlier. -/
structure Behaviour.Notifies (behaviour : Behaviour ν σ) (pager : Pager ν) (count : UInt64)
    (doc : Document (Action ν)) (index : UInt64) (list : Option NodeId) (shown : Document (Action ν)) :
    Prop where
  rendered : (Operation.renderPager pager count index).apply doc = (.ok list, shown)
  told : ∀ (host : σ) (handler : Option Nat) (next : Unit → Program ν σ Unit) (rest : List (Frame ν σ)),
    Machine.step behaviour
        { world := { document := doc, host }
          stack := .running handler ((behaviour.select pager count index).bind next) :: rest } =
      some { world := { document := shown, host }
             stack := .running handler ((behaviour.notify pager.listener index).bind next) :: rest }
  turned : ∀ table, pager.listener = .table table → table.body < doc.size →
    ∃ after, (Operation.showTablePage table index : Operation ν Unit).apply shown = (.ok (), after)

theorem Behaviour.exists_notifies (behaviour : Behaviour ν σ) (forest : doc.IsForest) {pager : Pager ν}
    (known : pager.container < doc.size) (serves : pager.sizing.Serves count) (index : UInt64) :
    ∃ list shown, behaviour.Notifies pager count doc index list shown := by
  let operation : Operation ν (Option NodeId) := .renderPager pager count index
  obtain ⟨list, shown, rendered⟩ := operation.exists_apply ⟨known, serves⟩ forest
  have changes : ReflTransGen Change doc shown := by
    have changes := operation.changes doc
    rwa [rendered] at changes
  refine ⟨list, shown, rendered, fun host handler next rest => ?_, fun table _ knownBody => ?_⟩
  · have step : operation.apply doc = (.ok list, shown) := rendered
    simp only [Machine.step, Behaviour.select, Program.bind]
    rw [step]
  · have known' : table.body < shown.size := Nat.lt_of_lt_of_le knownBody (size_le_of_changes changes)
    obtain ⟨_, after, applied⟩ :=
      (Operation.showTablePage table index : Operation ν Unit).exists_apply known' (forest.of_changes changes)
    exact ⟨after, applied⟩

end

/-! ## Sums -/

theorem PageWindow.toNat_succ_lt {window : PageWindow} {i : UInt64} (member : i ∈ window.pages) :
    i.toNat + 1 < UInt64.size := by
  have small := window.stop.toNat_lt_size
  have inside := (PageWindow.mem_pages_iff.1 member).2
  omega

/-- Every widget operation on nodes of the document gets to its end. A report is refused exactly when its
sizing is not valid, and then nothing has changed. From then on a selected page is rendered and the listener
is told. The words that are added and subtracted on the way neither run over nor fall below zero. -/
theorem widgets_get_finished (behaviour : Behaviour ν σ) {doc : Document (Action ν)}
    (reachable : doc.Reachable) :
    (∀ (α : Type) (operation : Operation ν α), operation.Builds doc →
      ∃ value after, operation.apply doc = (.ok value, after)) ∧
    (∀ container < doc.size, ∀ spec rows sizing error after,
      (Operation.renderReport container spec rows sizing).apply doc = (.error error, after) ↔
        sizing.validate = .error error ∧ after = doc) ∧
    (∀ (pager : Pager ν) (count : UInt64), pager.container < doc.size → pager.sizing.Serves count →
      ∀ later, ReflTransGen Change doc later → ∀ index,
        ∃ list shown, behaviour.Notifies pager count later index list shown) ∧
    (∀ (sizing : Sizing) (count index : UInt64), sizing.Serves count →
      sizing.FitsAround count index ∧
        ∀ i ∈ (sizing.window count index).pages, i.toNat + 1 < UInt64.size) ∧
    ∀ (table : PagedTable) (index : UInt64),
      (page table.rows index table.pageSize).length ≤ table.pageSize.toNat := by
  have forest := reachable.isForest
  refine ⟨?_, ?_, ?_, ?_, PagedTable.length_page_le⟩
  · intro α operation builds
    exact operation.exists_apply builds forest
  · intro container known spec rows sizing error after
    exact Operation.apply_renderReport_eq_error_iff forest known
  · intro pager count known serves later changes index
    have known' := Nat.lt_of_lt_of_le known (size_le_of_changes changes)
    exact behaviour.exists_notifies (forest.of_changes changes) known' serves index
  · intro sizing count index serves
    exact ⟨serves.fits.around index, fun i member => PageWindow.toNat_succ_lt member⟩

theorem widgets_get_finished_desk :
    let cleared := ((Operation.clearContents 0 : Operation Unit Unit).apply desk).2
    let pager : Pager Unit := { container := 0, sizing := shortSizing, listener := .custom () }
    (∃ report after, (Operation.renderReport 0 shortSpec shortRows shortSizing).apply desk =
      (.ok report, after)) ∧
    (Operation.renderReport 0 shortSpec shortRows { pageSize := 0, maxHandles := 1 }).apply desk =
      (.error (.validation .zeroPageSize), desk) ∧
    ∃ list shown, idle.Notifies pager 3 cleared 2 list shown := by
  intro cleared pager
  have known : 0 < desk.size := by decide
  have valid : shortSizing.validate = .ok () := by decide
  have serves : shortSizing.Serves 3 := ⟨valid, Sizing.fits_of_lt valid (by decide)⟩
  have changes : ReflTransGen Change desk cleared := (Operation.clearContents 0).changes desk
  obtain ⟨builds, refused, notifies, -⟩ := widgets_get_finished idle reachable_desk
  refine ⟨?_, ?_, notifies pager 3 known serves cleared changes 2⟩
  · exact builds _ (.renderReport 0 shortSpec shortRows shortSizing) ⟨known, valid⟩
  · exact (refused 0 known shortSpec shortRows _ _ desk).2 ⟨rfl, rfl⟩

end ReportCards
