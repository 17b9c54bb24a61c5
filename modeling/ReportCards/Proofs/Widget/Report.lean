import ReportCards.Proofs.Widget.Card
import ReportCards.Proofs.Widget.Slot
import ReportCards.Widget.Report

namespace ReportCards
open Document Edit

variable {ν : Type} {spec : ReportSpec} {content : PagedContent ν} {card : CardNodes}
  {table : TableNodes} {shown : List (List String)} {control : Option UInt64}
  {container : Nat} {doc before after : Document (Action ν)}

/-- A report whose table shows the given rows and whose slot holds the given control. -/
structure IsReport (spec : ReportSpec) (content : PagedContent ν) (card : CardNodes)
    (table : TableNodes) (doc : Document (Action ν)) (shown : List (List String))
    (control : Option UInt64) : Prop where
  isCard : IsCard spec.id spec.title card doc
  isTable : IsTable spec.columns table doc
  only : doc.children card.content = [table.table]
  body_eq : table.body = content.table.body
  slot_eq : card.action = content.pager.container
  rows : (doc.children table.body).map doc.element = shown.map rowElement
  holds : HoldsControl content.pager content.table.rowCount doc control

def reportElement (spec : ReportSpec) (sizing : Sizing) (count : UInt64) (shown : List (List String))
    (control : Option UInt64) : Element :=
  cardElement spec.id spec.title
    [branchElement "table" [headElement spec.columns, branchElement "tbody" (shown.map rowElement)]]
    (controlElements sizing count control)

def Sizing.controlPage (sizing : Sizing) (count page : UInt64) : Option UInt64 :=
  if sizing.needsPages count then some page else none

theorem Sizing.controlPage_of_not_needs {sizing : Sizing} {count : UInt64}
    (unneeded : sizing.needsPages count = false) (page : UInt64) :
    sizing.controlPage count page = none := by
  rw [controlPage, unneeded]
  rfl

namespace IsReport

section

variable (report : IsReport spec content card table doc shown control) (forest : doc.IsForest)
include report

theorem known_slot : content.pager.container < doc.size := by
  rw [← report.slot_eq]
  exact report.isCard.known (by simp)

include forest

theorem element_eq : doc.element card.column =
    reportElement spec content.pager.sizing content.table.rowCount shown control := by
  rw [report.isCard.element_eq forest, report.only, List.map_singleton,
    report.isTable.element_eq forest, report.rows, report.slot_eq, report.holds.map_element_eq forest]
  rfl

theorem parent_table : doc.parent table.table = some card.content := by
  rw [← forest.mem_children_iff, report.only]
  exact List.mem_singleton_self _

theorem parent_body : doc.parent table.body = some table.table := by
  rw [← forest.mem_children_iff, children_of_content report.isTable.table]
  simp

theorem known_body : content.table.body < doc.size := by
  rw [← report.body_eq]
  exact known_of_parent (report.parent_body forest)

theorem preorder_content_subset : doc.preorder card.content ⊆ doc.descendants card.column :=
  forest.preorder_subset_descendants (report.isCard.mem_descendants forest (by simp))

theorem preorder_action_subset : doc.preorder card.action ⊆ doc.descendants card.column :=
  forest.preorder_subset_descendants (report.isCard.mem_descendants forest (by simp))

theorem preorder_table_subset : doc.preorder table.table ⊆ doc.preorder card.content :=
  fun _ below => forest.mem_preorder_of_child
    ((forest.mem_children_iff _ _).2 (report.parent_table forest)) below

theorem preorder_body_subset : doc.preorder table.body ⊆ doc.preorder table.table :=
  fun _ below => forest.mem_preorder_of_child
    ((forest.mem_children_iff _ _).2 (report.parent_body forest)) below

theorem map_element_rows (forest' : after.IsForest)
    (same : ∀ m ∈ doc.preorder table.table, after.node m = doc.node m) :
    (after.children table.body).map after.element = shown.map rowElement := by
  have inBody {m : NodeId} (below : m ∈ doc.preorder table.body) : after.node m = doc.node m :=
    same m (report.preorder_body_subset forest below)
  rw [children_of_node (inBody forest.mem_preorder_self), ← report.rows]
  refine List.map_congr_left fun row child => forest.element_kept forest' fun m below => ?_
  exact content_of_node (inBody (forest.mem_preorder_of_child child below))

/-! ## Changes -/

theorem showTablePage (index : UInt64) :
    ∃ after, (content.table.showPage index).run doc = .ok () after ∧
      IsReport spec content card table after (content.table.shownRows index) control ∧
      ChangedWithin (doc.descendants card.column) doc after := by
  obtain ⟨after, run, rows, body, changed⟩ := PagedTable.run_showPage forest
    (report.known_body forest) index
  have forest' : after.IsForest := isForest_of_run forest run
  rw [← report.body_eq] at rows body changed
  have inside : doc.preorder table.body ⊆ doc.preorder card.content :=
    List.Subset.trans (report.preorder_body_subset forest) (report.preorder_table_subset forest)
  have sameSlot : after.node card.content = doc.node card.content := by
    refine changed.kept _ (report.isCard.known (by simp)) fun below => ?_
    refine forest.not_mem_path_of_mem_ancestors ?_ (forest.mem_preorder_iff.1 below)
    rw [forest.ancestors_of_parent (report.parent_body forest),
      forest.ancestors_of_parent (report.parent_table forest)]
    simp
  obtain ⟨isCard, sameAction⟩ := report.isCard.kept_content forest (changed.mono inside)
    (by rw [children, sameSlot])
  refine ⟨after, run, ?_, changed.mono
    (List.Subset.trans inside (report.preorder_content_subset forest))⟩
  exact
    { isCard
      isTable := report.isTable.kept_around_body forest forest' changed body
      only := by rw [children_of_node sameSlot, report.only]
      body_eq := report.body_eq
      slot_eq := report.slot_eq
      rows
      holds := report.holds.kept forest forest' (by rwa [← report.slot_eq]) }

theorem renderControl (needs : content.pager.sizing.needsPages content.table.rowCount = true)
    (index : UInt64) :
    ∃ list after, (content.pager.render content.table.rowCount index).run doc =
        .ok (some list) after ∧
      IsReport spec content card table after shown
        (some (content.pager.sizing.clamp content.table.rowCount index)) ∧
      ChangedWithin (doc.descendants card.column) doc after := by
  obtain ⟨list, after, run, holds, slot, changed⟩ :=
    report.holds.render forest report.known_slot needs index
  have forest' : after.IsForest := isForest_of_run forest run
  rw [← report.slot_eq] at slot changed
  obtain ⟨isCard, sameContent⟩ := report.isCard.kept_action forest changed slot
  have sameTable : ∀ m ∈ doc.preorder table.table, after.node m = doc.node m := fun m below =>
    sameContent m (report.preorder_table_subset forest below)
  refine ⟨list, after, run, ?_, changed.mono (report.preorder_action_subset forest)⟩
  exact
    { isCard
      isTable := report.isTable.kept forest forest' sameTable
      only := by rw [children_of_node (sameContent _ forest.mem_preorder_self), report.only]
      body_eq := report.body_eq
      slot_eq := report.slot_eq
      rows := report.map_element_rows forest forest' sameTable
      holds }

end

theorem kept (report : IsReport spec content card table before shown control)
    (forest : before.IsForest) (forest' : after.IsForest)
    (same : SameBelow card.column before after) :
    IsReport spec content card table after shown control := by
  have sameContent : ∀ m ∈ before.preorder card.content, after.node m = before.node m :=
    fun m below => same.kept m (report.preorder_content_subset forest below)
  have sameTable : ∀ m ∈ before.preorder table.table, after.node m = before.node m := fun m below =>
    sameContent m (report.preorder_table_subset forest below)
  exact
    { isCard := report.isCard.kept_below forest same
      isTable := report.isTable.kept forest forest' sameTable
      only := by rw [children_of_node (sameContent _ forest.mem_preorder_self), report.only]
      body_eq := report.body_eq
      slot_eq := report.slot_eq
      rows := report.map_element_rows forest forest' sameTable
      holds := report.holds.kept forest forest' fun m below =>
        same.kept m (report.preorder_action_subset forest (by rwa [report.slot_eq])) }

/-! ## Pages -/

theorem render (report : IsReport spec content card table doc shown control) (forest : doc.IsForest)
    (unneeded : content.pager.sizing.needsPages content.table.rowCount = false → control = none)
    (index : UInt64) :
    ∃ list after, (content.pager.render content.table.rowCount index).run doc = .ok list after ∧
      IsReport spec content card table after shown (content.pager.sizing.controlPage
        content.table.rowCount (content.pager.sizing.clamp content.table.rowCount index)) ∧
      ChangedWithin (doc.descendants card.column) doc after := by
  rw [Sizing.controlPage]
  cases needs : content.pager.sizing.needsPages content.table.rowCount with
  | true =>
      obtain ⟨list, after, run, report', changed⟩ := report.renderControl forest needs index
      exact ⟨some list, after, run, report', changed⟩
  | false =>
      rw [unneeded needs] at report
      exact ⟨none, doc, content.pager.run_render_of_not_needs needs doc index, report, .refl _ doc⟩

theorem showPage (report : IsReport spec content card table doc shown control) (forest : doc.IsForest)
    (unneeded : content.pager.sizing.needsPages content.table.rowCount = false → control = none)
    (slots : Card) (index : UInt64) :
    let page := content.pager.sizing.clamp content.table.rowCount index
    ∃ after, (Report.showPage { card := slots, content := some content } index).run doc =
        .ok () after ∧
      IsReport spec content card table after (content.table.shownRows page)
        (content.pager.sizing.controlPage content.table.rowCount page) ∧
      ChangedWithin (doc.descendants card.column) doc after := by
  intro page
  obtain ⟨turned, runTable, report', changed⟩ := report.showTablePage forest page
  have forest' : turned.IsForest := isForest_of_run forest runTable
  obtain ⟨list, after, runControl, report'', changed'⟩ := report'.render forest' unneeded page
  rw [Sizing.clamp_clamp] at report''
  refine ⟨after, ?_, report'', forest.changedWithin_trans_below forest' changed changed'⟩
  refine (run_bind_of_ok runTable).trans ?_
  exact (run_bind_of_ok runControl).trans rfl

end IsReport

/-! ## New reports -/

def ReportSpec.shownRows (spec : ReportSpec) (rows : List (List String)) (sizing : Sizing)
    (index : UInt64) : List (List String) :=
  page rows index sizing.pageSize ++
    List.replicate (sizing.pageSize.toNat - (page rows index sizing.pageSize).length)
      (List.replicate spec.columns.length placeholder)

def ReportSpec.element (spec : ReportSpec) (rows : List (List String)) (sizing : Sizing)
    (index : UInt64) : Element :=
  reportElement spec sizing (UInt64.ofNat rows.length) (spec.shownRows rows sizing index)
    (sizing.controlPage (UInt64.ofNat rows.length) index)

def ReportSpec.pagedContent (spec : ReportSpec) (rows : List (List String)) (sizing : Sizing) (slots : Card)
    (body : NodeId) : PagedContent ν :=
  let table : PagedTable :=
    { body, rows, columns := spec.columns.length, pageSize := sizing.pageSize }
  { table, pager := { container := slots.action, sizing, listener := .table table } }

theorem run_createContent (isCard : IsCard spec.id spec.title card doc) (forest : doc.IsForest)
    (emptyContent : doc.children card.content = []) (emptyAction : doc.children card.action = [])
    (rows : List (List String)) (sizing : Sizing) :
    ∃ table after,
      let content : PagedContent ν := spec.pagedContent rows sizing card.slots table.body
      (Report.createContent card.slots spec.columns rows sizing).run doc = .ok content after ∧
      IsReport spec content card table after (content.table.shownRows 0)
        (sizing.controlPage (UInt64.ofNat rows.length) 0) ∧
      ChangedWithin (doc.descendants card.column) doc after := by
  have knownSlot : card.content < doc.size := isCard.known (by simp)
  obtain ⟨tabled, runTable, gains, isTable, emptyBody⟩ :=
    run_createTable forest knownSlot spec.columns
  have forestTabled : tabled.IsForest := isForest_of_run forest runTable
  have inSlot : ChangedWithin (doc.preorder card.content) doc tabled := by
    rw [forest.preorder_of_leaf emptyContent]
    exact gains.toChangedWithin
  obtain ⟨isCard', sameAction⟩ := isCard.kept_content forest inSlot (by
    rw [gains.children_eq, gains.parent_node])
  let content : PagedContent ν := spec.pagedContent rows sizing card.slots (doc.size + 2)
  have start : IsReport spec content card ⟨doc.size, doc.size + 1, doc.size + 2⟩ tabled [] none :=
    { isCard := isCard'
      isTable
      only := by rw [gains.children_eq, emptyContent, List.nil_append]
      body_eq := rfl
      slot_eq := rfl
      rows := by rw [emptyBody, List.map_nil, List.map_nil]
      holds := by
        have same : tabled.children card.action = doc.children card.action :=
          children_of_node (sameAction _ forest.mem_preorder_self)
        exact same.trans emptyAction }
  obtain ⟨filled, runPage, report, changed⟩ := start.showTablePage forestTabled 0
  have forestFilled : filled.IsForest := isForest_of_run forestTabled runPage
  obtain ⟨list, after, runControl, report', changed'⟩ :=
    report.render forestFilled (fun _ => rfl) 0
  rw [Sizing.clamp_zero] at report'
  refine ⟨⟨doc.size, doc.size + 1, doc.size + 2⟩, after, ?_, report', ?_⟩
  · refine (run_bind_of_ok runTable).trans ?_
    refine (run_bind_of_ok runPage).trans ?_
    exact (run_bind_of_ok runControl).trans rfl
  · have below : ChangedWithin (doc.descendants card.column) doc tabled :=
      inSlot.mono (forest.preorder_subset_descendants (isCard.mem_descendants forest (by simp)))
    exact forest.changedWithin_trans_below forestTabled below
      (forestTabled.changedWithin_trans_below forestFilled changed changed')

/-- The column is a new last child of the container, no handler is on it, and nothing else outside of it
has changed. -/
structure IsPlaced (container column : NodeId) (before after : Document (Action ν)) : Prop where
  gains : Gains container [column] before after
  silent : after.handlers column = []

theorem IsPlaced.trans_below {middle : Document (Action ν)} {column : Nat}
    (placed : IsPlaced container column before middle) (forest : before.IsForest)
    (forest' : middle.IsForest) (known : container < before.size) (knownColumn : column < middle.size)
    (changed : ChangedWithin (middle.descendants column) middle after) :
    IsPlaced container column before after where
  gains := placed.gains.trans_new known changed fun m below =>
    placed.gains.size_le_of_mem_preorder forest forest' (List.mem_singleton_self column)
      (forest'.preorder_eq_cons column ▸ List.mem_cons_of_mem column below)
  silent := by
    rw [handlers, changed.kept column knownColumn forest'.not_mem_descendants_self]
    exact placed.silent

theorem run_renderReport_isPlaced (forest : doc.IsForest) (known : container < doc.size)
    (spec : ReportSpec) {rows : List (List String)} (nonempty : rows ≠ []) {sizing : Sizing}
    (valid : sizing.validate = .ok ()) :
    ∃ card table after,
      let content : PagedContent ν := spec.pagedContent rows sizing card.slots table.body
      (Report.render container spec rows sizing).run doc =
        .ok { card := card.slots, content := some content } after ∧
      IsPlaced container card.column doc after ∧
      IsReport spec content card table after (content.table.shownRows 0)
        (sizing.controlPage (UInt64.ofNat rows.length) 0) := by
  obtain ⟨carded, runCard, gains, isCard, emptyContent, emptyAction, silent⟩ :=
    run_createCard forest known spec.id spec.title
  have forestCarded : carded.IsForest := isForest_of_run forest runCard
  obtain ⟨table, after, runContent, report, changed⟩ :=
    run_createContent isCard forestCarded emptyContent emptyAction rows sizing
  have knownColumn := isCard.known List.mem_cons_self
  refine ⟨.from doc.size, table, after, ?_, ?_, report⟩
  · rw [Report.render, valid]
    refine (run_bind_of_ok runCard).trans ?_
    rw [if_neg nonempty]
    exact (run_bind_of_ok runContent).trans rfl
  · exact IsPlaced.trans_below ⟨gains, silent⟩ forest forestCarded known knownColumn changed

theorem run_renderReport (forest : doc.IsForest) (known : container < doc.size) (spec : ReportSpec)
    {rows : List (List String)} (nonempty : rows ≠ []) {sizing : Sizing}
    (valid : sizing.validate = .ok ()) :
    ∃ card table after,
      let content : PagedContent ν := spec.pagedContent rows sizing card.slots table.body
      (Report.render container spec rows sizing).run doc =
        .ok { card := card.slots, content := some content } after ∧
      after.children container = doc.children container ++ [card.column] ∧
      IsReport spec content card table after (content.table.shownRows 0)
        (sizing.controlPage (UInt64.ofNat rows.length) 0) := by
  obtain ⟨card, table, after, run, placed, report⟩ :=
    run_renderReport_isPlaced forest known spec nonempty valid
  exact ⟨card, table, after, run, placed.gains.children_eq, report⟩

/-! ## Reports without rows -/

def noticeElement : Element :=
  { leafElement "p" allGoodMessage with classes := ["alert", "alert-success"] }

theorem run_showAllGood (forest : doc.IsForest) (known : container < doc.size) :
    ∃ message after, (showAllGood container).run doc = .ok message after ∧
      (after.children container).map after.element = [noticeElement] ∧
      after.node container =
        { doc.node container with children := after.children container, text := "" } ∧
      ChangedWithin (doc.preorder container) doc after := by
  obtain ⟨empty, runClear, node, changed⟩ := run_clearContents forest container
  have forestEmpty : empty.IsForest := isForest_of_run forest runClear
  have known' : container < empty.size := Nat.lt_of_lt_of_le known changed.size_le
  let labelled := empty.insert
    { tag := "p", classes := ["alert", "alert-success"], text := allGoodMessage }
  have runCreate := run_createWithClasses (by decide : isTagName "p" = true) (by decide)
    (by decide : ∀ name ∈ ["alert", "alert-success"], isClassName name = true) (by decide) empty
  have runText : (setText empty.size allGoodMessage).run
      (empty.insert { tag := "p", classes := ["alert", "alert-success"] }) = .ok () labelled :=
    run_setText_insert rfl allGoodMessage
  have forestLabelled : labelled.IsForest :=
    isForest_of_run (isForest_of_run forestEmpty runCreate) runText
  have built : ChangedWithin [] empty labelled :=
    ⟨Nat.le_of_lt (by simp [labelled]), fun n old _ => node_insert_of_lt _ _ old⟩
  have messageNode : labelled.node empty.size =
      { tag := "p", classes := ["alert", "alert-success"], text := allGoodMessage } :=
    node_insert_self ..
  obtain ⟨runAppend, gains, leaf, -⟩ := forestEmpty.gains_adopt forestLabelled built known'
    (Nat.le_refl _) (by simp [labelled]) (by rw [parent, messageNode])
  have forest' : (labelled.adopt container empty.size).IsForest :=
    isForest_of_run forestLabelled runAppend
  have only : (labelled.adopt container empty.size).children container = [empty.size] := by
    rw [gains.children_eq, children, node, List.nil_append]
  refine ⟨empty.size, labelled.adopt container empty.size, ?_, ?_, ?_, ?_⟩
  · rw [showAllGood, run_bind_of_ok runClear, run_bind_of_ok runCreate, run_bind_of_ok runText,
      run_bind_of_ok runAppend]
    rfl
  · rw [only, List.map_singleton, forest'.element_of_node leaf, messageNode]
    rfl
  · rw [gains.parent_node, node, only, children, node, List.nil_append]
  · refine changed.trans gains.toChangedWithin fun m _ same => ?_
    rw [List.mem_singleton.1 same]
    exact forest.mem_preorder_self

structure IsAllGood (spec : ReportSpec) (card : CardNodes) (doc : Document (Action ν)) : Prop where
  isCard : IsCard spec.id spec.title card doc
  notice : (doc.children card.content).map doc.element = [noticeElement]
  empty : doc.children card.action = []

namespace IsAllGood

theorem element_eq (report : IsAllGood spec card doc) (forest : doc.IsForest) :
    doc.element card.column = cardElement spec.id spec.title [noticeElement] [] := by
  rw [report.isCard.element_eq forest, report.notice, report.empty, List.map_nil]

theorem kept (report : IsAllGood spec card before) (forest : before.IsForest) (forest' : after.IsForest)
    (same : SameBelow card.column before after) : IsAllGood spec card after where
  isCard := report.isCard.kept_below forest same
  notice := by
    have inside : before.preorder card.content ⊆ before.descendants card.column :=
      forest.preorder_subset_descendants (report.isCard.mem_descendants forest (by simp))
    rw [children_of_node (same.kept _ (inside forest.mem_preorder_self)), ← report.notice]
    refine List.map_congr_left fun message child => forest.element_kept forest' fun m below => ?_
    exact content_of_node (same.kept m (inside (forest.mem_preorder_of_child child below)))
  empty := by
    have below : card.action ∈ before.descendants card.column :=
      report.isCard.mem_descendants forest (by simp)
    rw [children_of_node (same.kept _ below), report.empty]

end IsAllGood

theorem run_renderReport_allGood (forest : doc.IsForest) (known : container < doc.size)
    (spec : ReportSpec) {sizing : Sizing} (valid : sizing.validate = .ok ()) :
    ∃ card after, (Report.render container spec [] sizing).run doc =
        .ok ({ card := card.slots, content := none } : Report ν) after ∧
      IsPlaced container card.column doc after ∧ IsAllGood spec card after := by
  obtain ⟨carded, runCard, gains, isCard, emptyContent, emptyAction, silent⟩ :=
    run_createCard forest known spec.id spec.title
  have forestCarded : carded.IsForest := isForest_of_run forest runCard
  have knownSlot : (CardNodes.from doc.size).content < carded.size := isCard.known (by simp)
  obtain ⟨message, after, runNotice, notice, node, changed⟩ := run_showAllGood forestCarded knownSlot
  obtain ⟨isCard', sameAction⟩ := isCard.kept_content forestCarded changed (by
    rw [node, isCard.content])
  refine ⟨.from doc.size, after, ?_, ?_, isCard', notice, ?_⟩
  · rw [Report.render, valid]
    refine (run_bind_of_ok runCard).trans ?_
    rw [if_pos rfl]
    exact (run_bind_of_ok runNotice).trans rfl
  · refine IsPlaced.trans_below ⟨gains, silent⟩ forest forestCarded known
      (isCard.known List.mem_cons_self) (changed.mono ?_)
    exact forestCarded.preorder_subset_descendants (isCard.mem_descendants forestCarded (by simp))
  · rw [children_of_node (sameAction _ forestCarded.mem_preorder_self), emptyAction]

end ReportCards
