import ReportCards.CommandLine.Output
import ReportCards.Proofs.Widget.Report

namespace ReportCards
open Document Edit

variable {sizing : Sizing} {request : RenderRequest} {records : Records}

def RenderRequest.spec (request : RenderRequest) (columns : List String) : ReportSpec :=
  { id := request.id, title := request.title, columns }

def Records.count (records : Records) : UInt64 :=
  UInt64.ofNat records.rows.length

def reportOn (sizing : Sizing) (request : RenderRequest) (records : Records) (page : UInt64) : Element :=
  if records.rows = [] then cardElement request.id request.title [noticeElement] []
  else (request.spec records.columns).element records.rows sizing page

def rowOf (report : Element) : Element :=
  { branchElement "div" [report] with classes := ["row"] }

/-- The wanted page, or the last one if there are not so many. -/
def pageElement (sizing : Sizing) (request : RenderRequest) (records : Records) : Element :=
  rowOf (reportOn sizing request records (sizing.clamp records.count request.page))

variable {ν : Type} {doc before after : Document (Action ν)} {row column : Nat}

theorem element_of_row (forest : doc.IsForest)
    (node : doc.node row = { tag := "div", classes := ["row"], children := [column] }) :
    doc.element row = rowOf (doc.element column) := by
  rw [forest.element_of_node node]
  rfl

theorem IsReport.turn {spec : ReportSpec} {content : PagedContent ν} {card : CardNodes} {table : TableNodes}
    (report : IsReport spec content card table doc (content.table.shownRows 0)
      (content.pager.sizing.controlPage content.table.rowCount 0))
    (forest : doc.IsForest) (slots : Card) (index : UInt64) :
    let page := content.pager.sizing.clamp content.table.rowCount index
    ∃ after, (if 0 < index then
          Report.showPage { card := slots, content := some content } index
        else pure PUnit.unit : Edit (Action ν) PUnit).run doc = .ok PUnit.unit after ∧
      IsReport spec content card table after (content.table.shownRows page)
        (content.pager.sizing.controlPage content.table.rowCount page) ∧
      ChangedWithin (doc.descendants card.column) doc after := by
  intro page
  by_cases turned : 0 < index
  · rw [if_pos turned]
    exact report.showPage forest (fun unneeded => Sizing.controlPage_of_not_needs unneeded 0) slots index
  · obtain rfl : index = 0 := UInt64.le_zero_iff.1 (UInt64.not_lt.1 turned)
    have first : page = 0 := Sizing.clamp_zero ..
    rw [if_neg turned, first]
    exact ⟨doc, rfl, report, .refl _ doc⟩

/-! ## Building the row -/

theorem run_buildPage (valid : sizing.validate = .ok ()) (request : RenderRequest) (records : Records) :
    ∃ doc, (buildPage sizing request records).run {} = .ok 0 doc ∧
      doc.element 0 = pageElement sizing request records := by
  let start : Document (Action Empty) := ({} : Document (Action Empty)).insert { tag := "div", classes := ["row"] }
  have runRow : (createWithClasses "div" ["row"]).run {} = .ok 0 start :=
    run_createWithClasses (by decide) (by decide) (by decide) (by decide) {}
  have forest : start.IsForest := isForest_of_run isForest_empty runRow
  have known : 0 < start.size := by decide
  have rowNode : start.node 0 = { tag := "div", classes := ["row"] } := node_insert_self ..
  by_cases empty : records.rows = []
  · obtain ⟨card, after, run, placed, report⟩ :=
      run_renderReport_allGood forest known (request.spec records.columns) valid
    have forest' : after.IsForest := isForest_of_run forest run
    refine ⟨after, ?_, ?_⟩
    · rw [buildPage, run_bind_of_ok runRow, empty]
      refine (run_bind_of_ok run).trans ?_
      split <;> rfl
    · rw [element_of_row forest' (by rw [placed.gains.parent_node, children, rowNode]; rfl),
        report.element_eq forest', pageElement, reportOn, if_pos empty]
      rfl
  · obtain ⟨card, table, shown, run, placed, report⟩ :=
      run_renderReport_isPlaced forest known (request.spec records.columns) empty valid
    have forestShown : shown.IsForest := isForest_of_run forest run
    obtain ⟨after, runTurn, report', changed⟩ := report.turn forestShown card.slots request.page
    have forest' : after.IsForest := isForest_of_run forestShown runTurn
    have outside : 0 ∉ shown.descendants card.column := by
      intro below
      apply forestShown.not_mem_preorder_child (placed.gains.link forestShown (List.mem_singleton_self _))
      rw [forestShown.preorder_eq_cons]
      exact List.mem_cons_of_mem _ below
    have rowNode' : after.node 0 = { tag := "div", classes := ["row"], children := [card.column] } := by
      rw [changed.kept 0 (Nat.lt_of_lt_of_le known placed.gains.size_le) outside, placed.gains.parent_node,
        children, rowNode]
      rfl
    refine ⟨after, ?_, ?_⟩
    · rw [buildPage, run_bind_of_ok runRow]
      refine (run_bind_of_ok run).trans ?_
      split at runTurn
      · rename_i turned
        simp only [turned, if_true]
        exact (run_bind_of_ok runTurn).trans rfl
      · rename_i first
        simp only [first, if_false]
        cases runTurn
        rfl
    · rw [element_of_row forest' rowNode', report'.element_eq forest', pageElement, reportOn, if_neg empty]
      rfl

def pageText (sizing : Sizing) (request : RenderRequest) (records : Records) : String :=
  String.ofList (pageElement sizing request records).markup

theorem pageMarkup_eq_ok (valid : sizing.validate = .ok ()) (request : RenderRequest) (records : Records) :
    pageMarkup sizing request records = .ok (pageText sizing request records) := by
  obtain ⟨doc, run, element⟩ := run_buildPage valid request records
  rw [pageMarkup, run]
  simp only [outerHtml, element, pageText]

/-! ## Pages past the end -/

def Sizing.lastPage (sizing : Sizing) (count : UInt64) : UInt64 :=
  Word.subtract (sizing.pageCount count) 1

theorem Sizing.clamp_of_lastPage_le {count index : UInt64} (past : sizing.lastPage count ≤ index) :
    sizing.clamp count index = sizing.lastPage count := by
  rw [← UInt64.toNat_inj, clamp, toNat_min]
  exact Nat.min_eq_right (UInt64.le_iff_toNat_le.1 past)

theorem pageText_clamp (sizing : Sizing) (request : RenderRequest) (records : Records) :
    pageText sizing { request with page := sizing.clamp records.count request.page } records =
      pageText sizing request records := by
  rw [pageText, pageElement, Sizing.clamp_clamp]
  rfl

theorem exists_outerHtml_eq (valid : sizing.validate = .ok ()) (request : RenderRequest) (records : Records) :
    ∃ row doc,
      (buildPage sizing { request with page := sizing.clamp records.count request.page } records).run {} =
        .ok row doc ∧ doc.outerHtml row = pageText sizing request records := by
  obtain ⟨doc, run, element⟩ :=
    run_buildPage valid { request with page := sizing.clamp records.count request.page } records
  refine ⟨0, doc, run, ?_⟩
  rw [Document.outerHtml, element, ← pageText_clamp]
  rfl

theorem pageText_past_end (past : sizing.lastPage records.count ≤ request.page) {page : UInt64}
    (past' : sizing.lastPage records.count ≤ page) :
    pageText sizing { request with page } records = pageText sizing request records := by
  rw [pageText, pageElement, Sizing.clamp_of_lastPage_le past', ← Sizing.clamp_of_lastPage_le past]
  rfl

end ReportCards
