import ReportCards.Proofs.Widget.Report
import ReportCards.Proofs.Widget.Turning

namespace ReportCards
open Document Edit

variable {ν σ : Type} {behaviour : Behaviour ν σ} {spec : ReportSpec} {content : PagedContent ν}
  {card : CardNodes} {table : TableNodes} {current count : UInt64} {pager : Pager ν}
  {control : Option UInt64} {handle : Handle} {link : Nat} {doc before after : Document (Action ν)}

structure ReportPages where
  table : UInt64
  control : UInt64
deriving DecidableEq, Repr

namespace ReportPages

def asked (sizing : Sizing) (count index : UInt64) : ReportPages :=
  { table := sizing.clamp count index, control := sizing.clamp count index }

def turned (sizing : Sizing) (count : UInt64) (pages : ReportPages) (handle : Handle) : ReportPages :=
  match handle.leads? (sizing.window count pages.control) with
  | none => pages
  | some index => { table := index, control := sizing.clamp count index }

end ReportPages

/-- A report whose table shows a page, and whose control, if there is to be one, shows a page too. -/
def IsPaged (spec : ReportSpec) (content : PagedContent ν) (card : CardNodes) (table : TableNodes)
    (doc : Document (Action ν)) (pages : ReportPages) : Prop :=
  IsReport spec content card table doc (content.table.shownRows pages.table)
    (content.pager.sizing.controlPage content.table.rowCount pages.control)

variable {pages : ReportPages}

/-! ## Links -/

theorem HoldsControl.exists_list (holds : HoldsControl pager count doc control)
    (forest : doc.IsForest) (isLink : IsLink doc pager.container link) :
    ∃ current list, control = some current ∧
      doc.node list = { tag := "ul", classes := [Pager.listClass], children := doc.children list
                        parent := some pager.container } ∧
      Shows pager count list doc current ∧ IsLink doc list link := by
  obtain ⟨below, anchor⟩ := isLink
  rw [forest.descendants_eq] at below
  cases control with
  | none =>
      have empty : doc.children pager.container = [] := holds
      rw [empty] at below
      cases below
  | some current =>
      obtain ⟨list, only, node, shows⟩ := holds
      rw [only, List.flatMap_singleton, forest.preorder_eq_cons] at below
      rcases List.mem_cons.1 below with rfl | below
      · rw [Document.tag, node] at anchor
        exact absurd anchor (by decide : "ul" ≠ "a")
      · exact ⟨current, list, rfl, node, shows, below, anchor⟩

namespace IsPaged

theorem kept (report : IsPaged spec content card table before pages) (forest : before.IsForest)
    (forest' : after.IsForest) (same : SameBelow card.column before after) :
    IsPaged spec content card table after pages :=
  IsReport.kept report forest forest' same

variable (report : IsPaged spec content card table doc pages) (forest : doc.IsForest)
include report forest

theorem exists_handle (isLink : IsLink doc card.action link) :
    ∃ list item handle, content.pager.sizing.needsPages content.table.rowCount = true ∧
      doc.node list = { tag := "ul", classes := [Pager.listClass], children := doc.children list
                        parent := some card.action } ∧
      Shows content.pager content.table.rowCount list doc pages.control ∧
      handle ∈ (content.pager.sizing.window content.table.rowCount pages.control).handles ∧
      IsHandle content.pager content.table.rowCount
        (content.pager.sizing.window content.table.rowCount pages.control) list doc item link handle := by
  rw [report.slot_eq] at isLink ⊢
  obtain ⟨current', list, same, node, shows, inList⟩ :=
    report.holds.exists_list forest isLink
  rw [Sizing.controlPage] at same
  split at same
  · rename_i needs
    cases same
    obtain ⟨item, handle, member, holds⟩ := shows.exists_handle forest inList
    exact ⟨list, item, handle, needs, node, shows, member, holds⟩
  · cases same

theorem settles_ellipsis_iff (isLink : IsLink doc card.action link)
    (labels : Handle.ellipsis.Labels doc link) (host : σ) (next : World ν σ) :
    Settles behaviour { document := doc, host } (.click link (.done ())) next ↔
      Settles behaviour { document := doc, host } (.click card.column (.done ())) next := by
  obtain ⟨list, item, handle, -, node, -, -, holds⟩ := report.exists_handle forest isLink
  cases holds.labels.unique labels
  have isCard := report.isCard
  have up {n p : NodeId} (link : doc.parent n = some p) (silent : doc.handlers n = []) :
      Settles behaviour { document := doc, host } (.click n (.done ())) next ↔
        Settles behaviour { document := doc, host } (.click p (.done ())) next :=
    settles_click_parent (forest.path_of_parent link) silent next
  calc Settles behaviour { document := doc, host } (.click link (.done ())) next
    _ ↔ Settles behaviour { document := doc, host } (.click item (.done ())) next :=
      up (by rw [parent, holds.link_node]) (List.map_eq_nil_iff.1 holds.actions)
    _ ↔ Settles behaviour { document := doc, host } (.click list (.done ())) next :=
      up (by rw [parent, holds.item_node]) (by rw [handlers, holds.item_node])
    _ ↔ Settles behaviour { document := doc, host } (.click card.action (.done ())) next :=
      up (by rw [parent, node]) (by rw [handlers, node])
    _ ↔ Settles behaviour { document := doc, host } (.click card.actions (.done ())) next :=
      up (by rw [parent, isCard.action]) (by rw [handlers, isCard.action])
    _ ↔ Settles behaviour { document := doc, host } (.click card.frame (.done ())) next :=
      up (by rw [parent, isCard.actions]) (by rw [handlers, isCard.actions])
    _ ↔ Settles behaviour { document := doc, host } (.click card.column (.done ())) next :=
      up (by rw [parent, isCard.frame]) (by rw [handlers, isCard.frame])

theorem exists_link (needs : content.pager.sizing.needsPages content.table.rowCount = true)
    (member : handle ∈ (content.pager.sizing.window content.table.rowCount pages.control).handles) :
    ∃ link, IsLink doc card.action link ∧ handle.Labels doc link := by
  have holds := report.holds
  rw [Sizing.controlPage, needs] at holds
  obtain ⟨list, only, -, shows⟩ := holds
  obtain ⟨link, isLink, labels⟩ := shows.exists_link forest member
  refine ⟨link, ⟨?_, isLink.2⟩, labels⟩
  rw [report.slot_eq, forest.descendants_eq, only, List.flatMap_singleton, forest.preorder_eq_cons]
  exact List.mem_cons_of_mem list isLink.1

omit forest in
theorem rows : (doc.children content.table.body).map doc.element =
    (content.table.shownRows pages.table).map rowElement := by
  have rows := IsReport.rows report
  rwa [IsReport.body_eq report] at rows

omit forest in
theorem exists_list (needs : content.pager.sizing.needsPages content.table.rowCount = true) :
    ∃ list, doc.selectFirst content.pager.container Pager.listSelector = .ok (some list) := by
  have holds := report.holds
  rw [Sizing.controlPage, needs] at holds
  obtain ⟨list, -, -, shows⟩ := holds
  exact ⟨list, shows.found⟩

theorem activeIndex_eq {list : NodeId}
    (found : doc.selectFirst content.pager.container Pager.listSelector = .ok (some list)) :
    content.pager.sizing.needsPages content.table.rowCount = true ∧
      Pager.activeIndex doc list =
        (content.pager.sizing.window content.table.rowCount pages.control).active? := by
  have holds := report.holds
  rw [Sizing.controlPage] at holds
  split at holds
  · rename_i needs
    obtain ⟨list', -, -, shows⟩ := holds
    rw [shows.found] at found
    cases found
    exact ⟨needs, shows.activeIndex_eq forest⟩
  · have empty : doc.children content.pager.container = [] := holds
    rw [Pager.selectFirst_list, forest.descendants_eq, empty] at found
    cases found

/-! ## Turns -/

theorem settles_handle (behaviour : Behaviour ν σ)
    (listener : content.pager.listener = .table content.table) (isLink : IsLink doc card.action link)
    (labels : handle.Labels doc link) (turns : handle ≠ .ellipsis) (host : σ) :
    ∃ after, Settles behaviour { document := doc, host } (.click link (.done ()))
        { document := after, host } ∧
      IsPaged spec content card table after
        (pages.turned content.pager.sizing content.table.rowCount handle) ∧
      ChangedWithin (doc.descendants card.column) doc after := by
  obtain ⟨list, item, handle', needs, -, shows, member, holds⟩ := report.exists_handle forest isLink
  cases holds.labels.unique labels
  obtain ⟨handler, target, only, turn, leads⟩ := shows.exists_handler forest turns holds
  rw [ReportPages.turned, ← leads]
  cases reached : target.index? doc with
  | none => exact ⟨doc, settles_turn_nowhere only turn reached, report, .refl _ doc⟩
  | some index =>
      obtain ⟨shown, turned, rendered, report', changed⟩ := IsReport.render report forest
        (fun unneeded => Sizing.controlPage_of_not_needs unneeded _) index
      have forest' : turned.IsForest := isForest_of_run forest rendered
      obtain ⟨after, runTable, report'', changed'⟩ := report'.showTablePage forest' index
      have told : (behaviour.notify content.pager.listener index).Completes behaviour
          { document := turned, host } { document := after, host } := by
        have completes : Program.Completes behaviour { document := turned, host }
            (.perform (.showTablePage content.table index) fun _ => .done ()) _ :=
          Program.completes_perform _ turned host
        rw [Operation.apply, Operation.edit, runTable] at completes
        rw [listener]
        exact completes
      exact ⟨after, settles_turn only turn reached rendered told, report'',
        forest.changedWithin_trans_below forest' changed changed'⟩

theorem showPage (slots : Card) (index : UInt64) :
    ∃ after, (Report.showPage { card := slots, content := some content } index).run doc = .ok () after ∧
      IsPaged spec content card table after
        (.asked content.pager.sizing content.table.rowCount index) ∧
      ChangedWithin (doc.descendants card.column) doc after :=
  IsReport.showPage report forest (fun unneeded => Sizing.controlPage_of_not_needs unneeded _) slots index

end IsPaged
end ReportCards
