import ReportCards.Proofs.Document.Growth
import ReportCards.Proofs.Paging.Window
import ReportCards.Proofs.Widget.Contents
import ReportCards.Widget.Pager

namespace ReportCards
open Document Edit

variable {κ : Type} {doc after : Document κ} {p row body : Nat}

/-! ## Rows -/

def leafElement (tag text : String) : Element :=
  { tag, id := none, classes := [], attributes := [], text, children := [] }

def branchElement (tag : String) (children : List Element) : Element :=
  { tag, id := none, classes := [], attributes := [], text := "", children }

def rowElement (values : List String) : Element :=
  branchElement "tr" (values.map (leafElement "td"))

theorem Document.IsForest.element_of_leaf (forest : doc.IsForest) {n : NodeId} {tag text : String}
    (leaf : doc.content n = { tag, text }) : doc.element n = leafElement tag text := by
  rw [forest.element_of_content leaf]
  rfl

theorem Document.IsForest.map_element_of_leaves (forest : doc.IsForest) {cells : List NodeId}
    {tag : String} {texts : List String}
    (leaves : List.Forall₂ (fun cell text => doc.content cell = { tag, text }) cells texts) :
    cells.map doc.element = texts.map (leafElement tag) := by
  induction leaves with
  | nil => rfl
  | cons first _ ih => rw [List.map_cons, List.map_cons, ih, forest.element_of_leaf first]

theorem run_addLeaf {tag : String} (accepted : isTagName tag = true) (forest : doc.IsForest)
    (known : p < doc.size) (text : String) :
    ∃ created labelled after, (create tag).run doc = .ok doc.size created ∧
      (setText doc.size text).run created = .ok () labelled ∧
      (append p doc.size).run labelled = .ok () after ∧
      Gains p [doc.size] doc after ∧ after.content doc.size = { tag := lowerCase tag, text } := by
  let labelled := doc.insert { tag := lowerCase tag, text }
  have runText : (setText doc.size text).run (doc.insert { tag := lowerCase tag }) =
      .ok () labelled := run_setText_insert rfl text
  have forestLabelled : labelled.IsForest :=
    isForest_of_run (isForest_of_run forest (run_create accepted doc)) runText
  have built : ChangedWithin [] doc labelled :=
    ⟨Nat.le_of_lt (by simp [labelled]), fun n old _ => node_insert_of_lt _ _ old⟩
  have node : labelled.node doc.size = { tag := lowerCase tag, text } := node_insert_self ..
  obtain ⟨runAppend, gains, leaf, -⟩ := forest.gains_adopt forestLabelled built known
    (Nat.le_refl _) (by simp [labelled]) (by rw [parent, node])
  refine ⟨_, labelled, _, run_create accepted doc, runText, runAppend, gains, ?_⟩
  rw [content, leaf, node]

theorem run_addCells (forest : doc.IsForest) (known : row < doc.size) (values : List String) :
    ∃ cells after, (values.forM fun value => do
        let _ ← addCell row (.text value)).run doc = .ok PUnit.unit after ∧
      Gains row cells doc after ∧
      List.Forall₂ (fun cell text => after.content cell = { tag := "td", text }) cells values := by
  refine run_forM_of_gains (fun forest _ same leaf => ?_) (fun value doc forest known => ?_)
    values forest known
  · rw [content_of_node (same _ forest.mem_preorder_self), leaf]
  · have accepted : isTagName "td" = true := by decide
    obtain ⟨created, labelled, after, runCreate, runText, runAppend, gains, leaf⟩ :=
      run_addLeaf accepted forest known value
    refine ⟨doc.size, after, ?_, gains, leaf⟩
    have runCell : (addCell row (.text value)).run doc = .ok doc.size after := by
      rw [addCell, run_bind_of_ok runCreate, CellValue.shown, run_bind_of_ok runText,
        run_bind_of_ok runAppend]
      rfl
    rw [run_bind_of_ok runCell]
    rfl

theorem run_addHeaderCells (forest : doc.IsForest) (known : row < doc.size)
    (columns : List String) :
    ∃ cells after, (columns.forM fun column => do
        let cell ← create "th"
        setText cell column
        append row cell).run doc = .ok PUnit.unit after ∧
      Gains row cells doc after ∧
      List.Forall₂ (fun cell text => after.content cell = { tag := "th", text }) cells columns := by
  refine run_forM_of_gains (fun forest _ same leaf => ?_) (fun column doc forest known => ?_)
    columns forest known
  · rw [content_of_node (same _ forest.mem_preorder_self), leaf]
  · have accepted : isTagName "th" = true := by decide
    obtain ⟨created, labelled, after, runCreate, runText, runAppend, gains, leaf⟩ :=
      run_addLeaf accepted forest known column
    refine ⟨doc.size, after, ?_, gains, leaf⟩
    rw [run_bind_of_ok runCreate, run_bind_of_ok runText, runAppend]

theorem run_addRow (forest : doc.IsForest) (known : body < doc.size) (values : List String) :
    ∃ after, (addRow body values).run doc = .ok doc.size after ∧ Gains body [doc.size] doc after ∧
      after.element doc.size = rowElement values := by
  let created := doc.insert { tag := "tr" }
  have runCreate : (create "tr").run doc = .ok doc.size created := run_create (by decide) doc
  have forestCreated : created.IsForest := isForest_of_run forest runCreate
  have node : created.node doc.size = { tag := "tr" } := node_insert_self ..
  have knownRow : doc.size < created.size := by simp [created]
  obtain ⟨cells, filled, runCells, gainsCells, leaves⟩ := run_addCells forestCreated knownRow values
  have forestFilled : filled.IsForest := isForest_of_run forestCreated runCells
  have built : ChangedWithin [] doc filled := by
    refine ⟨Nat.le_trans (Nat.le_of_lt knownRow) gainsCells.size_le, fun n old _ => ?_⟩
    rw [gainsCells.kept_ne (Nat.lt_trans old knownRow) (Nat.ne_of_lt old), node_insert_of_lt _ _ old]
  have rowNode : filled.node doc.size = { tag := "tr", children := cells } := by
    rw [gainsCells.parent_node, children, node]
    rfl
  have knownRow' : doc.size < filled.size := Nat.lt_of_lt_of_le knownRow gainsCells.size_le
  have root : filled.parent doc.size = none := by rw [parent, rowNode]
  obtain ⟨runAppend, gains, adopted, others⟩ := forest.gains_adopt forestFilled built known (Nat.le_refl _)
    knownRow' root
  have forest' : (filled.adopt body doc.size).IsForest := isForest_of_run forestFilled runAppend
  refine ⟨filled.adopt body doc.size, ?_, gains, ?_⟩
  · rw [addRow, run_bind_of_ok runCreate, run_bind_of_ok runCells, run_bind_of_ok runAppend]
    rfl
  · have leaves' : List.Forall₂ (fun cell text =>
        (filled.adopt body doc.size).content cell = { tag := "td", text }) cells values := by
      have new := (List.forall₂_and_left cells values).2 ⟨gainsCells.size_le_new, leaves⟩
      refine new.imp fun cell text found => ?_
      have younger : doc.size < cell := Nat.lt_of_lt_of_le knownRow found.1
      rw [← found.2]
      exact content_of_node (others cell (Nat.ne_of_gt (Nat.lt_trans known younger))
        (Nat.ne_of_gt younger))
    rw [forest'.element_of_content (by rw [content, adopted, rowNode]),
      forest'.map_element_of_leaves leaves']
    rfl

theorem run_addRows (forest : doc.IsForest) (known : body < doc.size)
    (rows : List (List String)) :
    ∃ new after, (rows.forM fun values => do
        let _ ← addRow body values).run doc = .ok PUnit.unit after ∧
      Gains body new doc after ∧ new.map after.element = rows.map rowElement := by
  have each : ∃ new after, (rows.forM fun values => do
        let _ ← addRow body values).run doc = .ok PUnit.unit after ∧
      Gains body new doc after ∧
      List.Forall₂ (fun row values => after.element row = rowElement values) new rows := by
    refine run_forM_of_gains (fun forest forest' same element => ?_)
      (fun values doc forest known => ?_) rows forest known
    · rw [forest.element_kept forest' fun m below => content_of_node (same m below), element]
    · obtain ⟨after, run, gains, element⟩ := run_addRow forest known values
      exact ⟨doc.size, after, (run_bind_of_ok run).trans rfl, gains, element⟩
  obtain ⟨new, after, run, gains, all⟩ := each
  refine ⟨new, after, run, gains, ?_⟩
  rw [← List.forall₂_eq_eq_eq, List.forall₂_map_left_iff, List.forall₂_map_right_iff]
  exact all

/-! ## Pages -/

namespace PagedTable

variable {table : PagedTable}

def shownRows (table : PagedTable) (index : UInt64) : List (List String) :=
  page table.rows index table.pageSize ++
    List.replicate (table.pageSize.toNat - (page table.rows index table.pageSize).length)
      (List.replicate table.columns placeholder)

theorem length_page_le (table : PagedTable) (index : UInt64) :
    (page table.rows index table.pageSize).length ≤ table.pageSize.toNat := by
  unfold page pageBounds
  simp only [List.length_take, Sizing.toNat_min, Word.toNat_add]
  omega

theorem showPage_eq (table : PagedTable) (index : UInt64) :
    (table.showPage index : Edit κ Unit) = (do
      clearContents table.body
      (table.shownRows index).forM fun values => do
        let _ ← addRow table.body values) := by
  have length := length_page_le table index
  have small := table.pageSize.toNat_lt_size
  have blanks : (table.pageSize - UInt64.ofNat (page table.rows index table.pageSize).length).toNat =
      table.pageSize.toNat - (page table.rows index table.pageSize).length := by
    have toNat : (UInt64.ofNat (page table.rows index table.pageSize).length).toNat =
        (page table.rows index table.pageSize).length :=
      UInt64.toNat_ofNat_of_lt' (Nat.lt_of_le_of_lt length small)
    rw [UInt64.toNat_sub_of_le _ _ (UInt64.le_iff_toNat_le.2 (by rwa [toNat])), toNat]
  unfold showPage shownRows addBlankRows
  simp only [blanks, List.forM_eq_forM, List.forM_append]

theorem run_showPage_gains (forest : doc.IsForest) (known : table.body < doc.size) (index : UInt64) :
    ∃ empty new after, (table.showPage index).run doc = .ok () after ∧
      Empties table.body doc empty ∧ Gains table.body new empty after ∧
      after.children table.body = new ∧
      new.map after.element = (table.shownRows index).map rowElement := by
  -- First the body is emptied, then it gains the rows of the page.
  obtain ⟨empty, runClear, empties⟩ := run_clearContents_empties forest table.body
  have forestEmpty : empty.IsForest := isForest_of_run forest runClear
  obtain ⟨new, after, runRows, gains, elements⟩ := run_addRows forestEmpty
    (empties.size_eq ▸ known) (table.shownRows index)
  refine ⟨empty, new, after, ?_, empties, gains, ?_, elements⟩
  · rw [showPage_eq, run_bind_of_ok runClear, runRows]
  · rw [gains.children_eq, children, empties.node_eq, List.nil_append]

theorem run_showPage (forest : doc.IsForest) (known : table.body < doc.size) (index : UInt64) :
    ∃ after, (table.showPage index).run doc = .ok () after ∧
      (after.children table.body).map after.element = (table.shownRows index).map rowElement ∧
      after.node table.body =
        { doc.node table.body with children := after.children table.body, text := "" } ∧
      ChangedWithin (doc.preorder table.body) doc after := by
  obtain ⟨empty, new, after, run, empties, gains, rows, elements⟩ :=
    run_showPage_gains forest known index
  refine ⟨after, run, ?_, ?_, ?_⟩
  · rw [rows, elements]
  · rw [gains.parent_node, rows, children, empties.node_eq, List.nil_append]
  · refine (empties.changedWithin forest).trans gains.toChangedWithin fun m _ same => ?_
    rw [List.mem_singleton.1 same]
    exact forest.mem_preorder_self

end PagedTable

/-! ## New tables -/

def headElement (columns : List String) : Element :=
  branchElement "thead" [branchElement "tr" (columns.map (leafElement "th"))]

structure TableNodes where
  table : NodeId
  head : NodeId
  body : NodeId

/-- A table with the given header; what is in its body is left open. -/
structure IsTable (columns : List String) (nodes : TableNodes) (doc : Document κ) : Prop where
  table : doc.content nodes.table = { tag := "table", children := [nodes.head, nodes.body] }
  head : doc.element nodes.head = headElement columns
  body : doc.content nodes.body = { tag := "tbody", children := doc.children nodes.body }

theorem IsTable.element_eq {columns : List String} {nodes : TableNodes}
    (isTable : IsTable columns nodes doc) (forest : doc.IsForest) :
    doc.element nodes.table = branchElement "table" [headElement columns,
      branchElement "tbody" ((doc.children nodes.body).map doc.element)] := by
  rw [forest.element_of_content isTable.table, List.map_cons, List.map_singleton, isTable.head,
    forest.element_of_content isTable.body]
  rfl

theorem IsTable.kept {before : Document κ} {columns : List String} {nodes : TableNodes}
    (isTable : IsTable columns nodes before) (forest : before.IsForest) (forest' : after.IsForest)
    (same : ∀ m ∈ before.preorder nodes.table, after.node m = before.node m) :
    IsTable columns nodes after := by
  have child {n : NodeId} (member : n ∈ [nodes.head, nodes.body]) :
      n ∈ before.children nodes.table := by
    rw [children_of_content isTable.table]
    exact member
  have inside {n m : NodeId} (member : n ∈ [nodes.head, nodes.body]) (below : m ∈ before.preorder n) :
      after.node m = before.node m := same m (forest.mem_preorder_of_child (child member) below)
  have body := inside (by simp) (forest.mem_preorder_self (n := nodes.body))
  refine ⟨?_, ?_, ?_⟩
  · rw [content_of_node (same _ forest.mem_preorder_self), isTable.table]
  · rw [forest.element_kept forest' fun m below => content_of_node (inside (by simp) below),
      isTable.head]
  · rw [content_of_node body, children_of_node body, isTable.body]

theorem IsTable.kept_around_body {before : Document κ} {columns : List String} {nodes : TableNodes}
    (isTable : IsTable columns nodes before) (forest : before.IsForest) (forest' : after.IsForest)
    (changed : ChangedWithin (before.preorder nodes.body) before after)
    (body : after.node nodes.body =
      { before.node nodes.body with children := after.children nodes.body, text := "" }) :
    IsTable columns nodes after := by
  have link {n : NodeId} (member : n ∈ [nodes.head, nodes.body]) :
      before.parent n = some nodes.table := by
    rw [← forest.mem_children_iff, children_of_content isTable.table]
    exact member
  have different : nodes.head ≠ nodes.body := by
    have distinct := forest.nodup_children nodes.table
    rw [children_of_content isTable.table] at distinct
    simpa using distinct
  have known := forest.known_of_child (link (n := nodes.body) (by simp))
  have head : ∀ m ∈ before.preorder nodes.head, after.node m = before.node m := fun m below =>
    changed.kept m (forest.known_of_mem_preorder (known_of_parent (link (by simp))) below)
      (forest.disjoint_preorder_of_siblings (link (by simp)) (link (by simp)) different below)
  refine ⟨?_, ?_, ?_⟩
  · rw [content_of_node (changed.kept _ known (forest.not_mem_preorder_child (link (by simp)))),
      isTable.table]
  · rw [forest.element_kept forest' fun m below => content_of_node (head m below), isTable.head]
  · have old := isTable.body
    rw [content] at old ⊢
    rw [body]
    simp only [Node.mk.injEq] at old ⊢
    simp [old]

theorem run_createTable_built (forest : doc.IsForest) (p : NodeId) (columns : List String) :
    ∃ cells built, (createTable p columns).run doc =
        (append p doc.size >>= fun _ => pure (doc.size + 2) : Edit κ NodeId).run built ∧
      built.IsForest ∧
      Extends [
        { tag := "table", children := [doc.size + 1, doc.size + 2] },
        { tag := "thead", children := [doc.size + 3], parent := some doc.size },
        { tag := "tbody", parent := some doc.size },
        { tag := "tr", children := cells, parent := some (doc.size + 1) }] doc built ∧
      List.Forall₂ (fun cell text => doc.size < cell ∧ built.content cell = { tag := "th", text })
        cells columns := by
  obtain ⟨d1, runTable, e1, size1⟩ := (Extends.refl doc).plant rfl
    (run_create_of_small (by decide : isTagName "table" = true) (by decide) doc)
  obtain ⟨d2, runHead, e2, size2⟩ := e1.plant size1
    (run_create_of_small (by decide : isTagName "thead" = true) (by decide) d1)
  obtain ⟨d3, runBody, e3, size3⟩ := e2.plant size2
    (run_create_of_small (by decide : isTagName "tbody" = true) (by decide) d2)
  obtain ⟨d4, runRow, e4, size4⟩ := e3.plant size3
    (run_create_of_small (by decide : isTagName "tr" = true) (by decide) d3)
  have forest4 : d4.IsForest := isForest_of_run (isForest_of_run (isForest_of_run
    (isForest_of_run forest runTable) runHead) runBody) runRow
  have knownRow : doc.size + 3 < d4.size := by rw [size4]; exact Nat.lt_succ_self _
  obtain ⟨cells, d5, runCells, gainsCells, leaves⟩ := run_addHeaderCells forest4 knownRow columns
  have e5 : Extends [{ tag := "table" }, { tag := "thead" }, { tag := "tbody" },
      { tag := "tr", children := cells }] doc d5 := e4.gains (by simp) gainsCells
  have forest5 : d5.IsForest := isForest_of_run forest4 runCells
  obtain ⟨d6, appendRow, e6, others6⟩ :=
    e5.adopt (i := 1) (j := 3) forest5 (by simp) (by simp) (by simp) rfl rfl
  have forest6 := isForest_of_run forest5 appendRow
  obtain ⟨d7, appendHead, e7, others7⟩ :=
    e6.adopt (i := 0) (j := 1) forest6 (by simp) (by simp) (by simp) rfl rfl
  have forest7 := isForest_of_run forest6 appendHead
  obtain ⟨d8, appendBody, e8, others8⟩ :=
    e7.adopt (i := 0) (j := 2) forest7 (by simp) (by simp) (by simp) rfl rfl
  refine ⟨cells, d8, ?_, isForest_of_run forest7 appendBody, e8, ?_⟩
  · refine (run_bind_of_ok runTable).trans ?_
    refine (run_bind_of_ok runHead).trans ?_
    refine (run_bind_of_ok runBody).trans ?_
    refine (run_bind_of_ok runRow).trans ?_
    refine (run_bind_of_ok runCells).trans ?_
    refine (run_bind_of_ok appendRow).trans ?_
    refine (run_bind_of_ok appendHead).trans ?_
    exact run_bind_of_ok appendBody
  · -- The cells are newer than the nodes that were appended after them.
    have new := (List.forall₂_and_left cells columns).2 ⟨gainsCells.size_le_new, leaves⟩
    refine new.imp fun cell text found => ?_
    have younger : doc.size + 4 ≤ cell := size4 ▸ found.1
    refine ⟨by omega, ?_⟩
    rw [← found.2]
    refine content_of_node ?_
    rw [others8 _ (by omega) (by omega), others7 _ (by omega) (by omega),
      others6 _ (by omega) (by omega)]

theorem run_createTable (forest : doc.IsForest) (known : p < doc.size) (columns : List String) :
    ∃ after, (createTable p columns).run doc = .ok (doc.size + 2) after ∧
      Gains p [doc.size] doc after ∧
      IsTable columns { table := doc.size, head := doc.size + 1, body := doc.size + 2 } after ∧
      after.children (doc.size + 2) = [] := by
  obtain ⟨cells, built, run, forestBuilt, new, leaves⟩ := run_createTable_built forest p columns
  have size : doc.size + 4 ≤ built.size := new.size_le
  have table : built.node doc.size =
      { tag := "table", children := [doc.size + 1, doc.size + 2] } := new.new_eq 0 (by simp)
  obtain ⟨appendTable, gains, tableNode, others⟩ := forest.gains_adopt forestBuilt
    new.changedWithin known (Nat.le_refl _) (by omega) (by rw [parent, table])
  have forest' := isForest_of_run forestBuilt appendTable
  have same {m : Nat} (younger : doc.size < m) :
      (built.adopt p doc.size).content m = built.content m :=
    content_of_node (others m (by omega) (by omega))
  have head : (built.adopt p doc.size).content (doc.size + 1) =
      { tag := "thead", children := [doc.size + 3] } := by
    rw [same (by omega), content, new.new_eq 1 (by simp)]
    rfl
  have row : (built.adopt p doc.size).content (doc.size + 3) =
      { tag := "tr", children := cells } := by
    rw [same (by omega), content, new.new_eq 3 (by simp)]
    rfl
  have body : (built.adopt p doc.size).content (doc.size + 2) = { tag := "tbody" } := by
    rw [same (by omega), content, new.new_eq 2 (by simp)]
    rfl
  have leaves' : List.Forall₂ (fun cell text =>
      (built.adopt p doc.size).content cell = { tag := "th", text }) cells columns :=
    leaves.imp fun cell text found => (same found.1).trans found.2
  have leaf : (built.adopt p doc.size).children (doc.size + 2) = [] := children_of_content body
  refine ⟨_, ?_, gains, ⟨?_, ?_, ?_⟩, leaf⟩
  · rw [run, run_bind_of_ok appendTable]
    rfl
  · rw [content, tableNode, table]
  · rw [forest'.element_of_content head, List.map_singleton, forest'.element_of_content row,
      forest'.map_element_of_leaves leaves']
    rfl
  · rw [leaf, body]

end ReportCards
