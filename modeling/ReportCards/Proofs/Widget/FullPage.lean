import ReportCards.Proofs.Click.Registration
import ReportCards.Proofs.Paging.Partition
import ReportCards.Proofs.Widget.Coherence

namespace ReportCards
open Document Edit Relation

variable {κ ν : Type} {spec : ReportSpec} {rows : List (List String)} {sizing : Sizing}
  {table : PagedTable} {nodes : TableNodes} {container : Nat} {index : UInt64}
  {doc before after : Document κ}

namespace PagedTable

def recordCount (table : PagedTable) (index : UInt64) : Nat :=
  min table.pageSize.toNat (table.rows.length - index.toNat * table.pageSize.toNat)

/-- The body shows a page at its full height, in place of what was there. -/
structure FillsPage (table : PagedTable) (index : UInt64) (before after : Document κ) : Prop where
  height : (after.children table.body).length = table.pageSize.toNat
  ownText_eq : after.ownText table.body = ""
  record : ∀ i < table.recordCount index, ∃ row values,
    (after.children table.body)[i]? = some row ∧
      table.rows[index.toNat * table.pageSize.toNat + i]? = some values ∧
      after.element row = rowElement values
  blank : ∀ i < table.pageSize.toNat, table.recordCount index ≤ i → ∃ row,
    (after.children table.body)[i]? = some row ∧
      after.element row = rowElement (List.replicate table.columns placeholder)
  fits : UInt64.ofNat (page table.rows index table.pageSize).length ≤ table.pageSize
  blanks : (table.pageSize - UInt64.ofNat (page table.rows index table.pageSize).length).toNat =
    table.pageSize.toNat - table.recordCount index
  fresh : ∀ row ∈ after.children table.body, before.size ≤ row
  detached : ∀ row ∈ before.children table.body, after.parent row = none
  body_kept : after.node table.body =
    { before.node table.body with children := after.children table.body, text := "" }
  outside_kept : ChangedWithin (before.preorder table.body) before after
  registered_eq : after.registered = before.registered

/-! ## Rows of a page -/

section

variable (short : table.rows.length < UInt64.size)
include short

theorem length_page_eq (index : UInt64) :
    (page table.rows index table.pageSize).length = table.recordCount index :=
  length_page short index table.pageSize

theorem toNat_blanks (index : UInt64) :
    UInt64.ofNat (page table.rows index table.pageSize).length ≤ table.pageSize ∧
      (table.pageSize - UInt64.ofNat (page table.rows index table.pageSize).length).toNat =
        table.pageSize.toNat - table.recordCount index := by
  have count : (UInt64.ofNat (page table.rows index table.pageSize).length).toNat =
      table.recordCount index := by
    rw [length_page_eq short]
    exact UInt64.toNat_ofNat_of_lt' (Nat.lt_of_le_of_lt (Nat.min_le_left ..) table.pageSize.toNat_lt_size)
  have fits : UInt64.ofNat (page table.rows index table.pageSize).length ≤ table.pageSize := by
    rw [UInt64.le_iff_toNat_le, count]
    exact Nat.min_le_left ..
  exact ⟨fits, by rw [UInt64.toNat_sub_of_le _ _ fits, count]⟩

theorem getElem?_shownRows_of_lt {i : Nat} (inside : i < table.recordCount index) :
    (table.shownRows index)[i]? = table.rows[index.toNat * table.pageSize.toNat + i]? := by
  have small : i < table.pageSize.toNat := Nat.lt_of_lt_of_le inside (Nat.min_le_left ..)
  rw [shownRows, List.getElem?_append_left (by rwa [length_page_eq short]), page_eq short,
    List.getElem?_take_of_lt small, List.getElem?_drop]

theorem getElem?_shownRows_of_le {i : Nat} (past : table.recordCount index ≤ i)
    (small : i < table.pageSize.toNat) :
    (table.shownRows index)[i]? = some (List.replicate table.columns placeholder) := by
  rw [shownRows, List.getElem?_append_right (by rwa [length_page_eq short]), length_page_eq short,
    List.getElem?_replicate, if_pos (by omega)]

end

theorem length_shownRows (table : PagedTable) (index : UInt64) :
    (table.shownRows index).length = table.pageSize.toNat := by
  have length := length_page_le table index
  rw [shownRows, List.length_append, List.length_replicate]
  omega

/-! ## One page -/

theorem run_showPage_fillsPage (short : table.rows.length < UInt64.size) (forest : doc.IsForest)
    (known : table.body < doc.size) (index : UInt64) :
    ∃ after, (table.showPage index).run doc = .ok () after ∧ table.FillsPage index doc after := by
  obtain ⟨after, run, elements, node, changed⟩ := run_showPage forest known index
  obtain ⟨empty, new, after', run', empties, gains, children, -⟩ :=
    run_showPage_gains forest known index
  cases run.symm.trans run'
  have exists_row {i : Nat} {values : List String} (shown : (table.shownRows index)[i]? = some values) :
      ∃ row, (after.children table.body)[i]? = some row ∧ after.element row = rowElement values := by
    rw [← Option.map_eq_some_iff, ← List.getElem?_map, elements, List.getElem?_map, shown,
      Option.map_some]
  have registered : (Edit.after (table.showPage index) doc).registered = doc.registered :=
    RegistersNone.registered_eq doc
  obtain ⟨fits, blanks⟩ := toNat_blanks short index
  refine ⟨after, run,
    { height := ?_
      ownText_eq := by rw [ownText, node]
      record := fun i inside => ?_
      blank := fun i small past => exists_row (getElem?_shownRows_of_le short past small)
      fits
      blanks
      fresh := fun row member => ?_
      detached := fun row child => ?_
      body_kept := node
      outside_kept := changed
      registered_eq := by rwa [Edit.after, run] at registered }⟩
  · have lengths := congrArg List.length elements
    rwa [List.length_map, List.length_map, length_shownRows] at lengths
  · have there : index.toNat * table.pageSize.toNat + i < table.rows.length := by
      unfold recordCount at inside
      omega
    have values := List.getElem?_eq_getElem there
    obtain ⟨row, at_, element⟩ := exists_row ((getElem?_shownRows_of_lt short inside).trans values)
    exact ⟨row, _, at_, values, element⟩
  · rw [children] at member
    rw [← empties.size_eq]
    exact gains.size_le_new row member
  · have link := (forest.mem_children_iff table.body row).1 child
    have different : row ≠ table.body := by
      rintro rfl
      exact forest.parent_ne_self _ link
    have old : row < empty.size := empties.size_eq ▸ known_of_parent link
    rw [gains.parent_kept old, parent, empties.node_other row different, if_pos link]

/-! ## Page after page -/

theorem FillsPage.isTable {columns : List String} (fills : table.FillsPage index before after)
    (forest : before.IsForest) (forest' : after.IsForest) (body : nodes.body = table.body)
    (isTable : IsTable columns nodes before) : IsTable columns nodes after := by
  -- The header stays, since it is not in the body.
  obtain ⟨node, changed⟩ := And.intro fills.body_kept fills.outside_kept
  rw [← body] at node changed
  exact isTable.kept_around_body forest forest' changed node

theorem run_showPages {columns : List String} (short : table.rows.length < UInt64.size)
    (forest : doc.IsForest) (known : table.body < doc.size) (body : nodes.body = table.body)
    (isTable : IsTable columns nodes doc) (earlier : List UInt64) :
    ∃ later, (earlier.forM table.showPage).run doc = .ok PUnit.unit later ∧
      IsTable columns nodes later := by
  induction earlier generalizing doc with
  | nil => exact ⟨doc, rfl, isTable⟩
  | cons index earlier ih =>
      obtain ⟨shown, run, fills⟩ := run_showPage_fillsPage short forest known index
      have forest' : shown.IsForest := isForest_of_run forest run
      have known' : table.body < shown.size := Nat.lt_of_lt_of_le known fills.outside_kept.size_le
      obtain ⟨later, run', isTable'⟩ := ih forest' known' (fills.isTable forest forest' body isTable)
      refine ⟨later, ?_, isTable'⟩
      rw [forM_cons, run_bind_of_ok run, run']

end PagedTable

/-- The table of a report always shows a full page, for every list of rows that can be there at all. Pages may
be shown one after the other, in any order and past the end, and the header stays. The body is filled also
when other code has changed the document. -/
theorem page_always_full {doc : Document (Action ν)} (reachable : doc.Reachable)
    (known : container < doc.size) (spec : ReportSpec) (valid : sizing.validate = .ok ())
    (nonempty : rows ≠ []) (short : rows.length < UInt64.size) :
    ∃ slots nodes shown,
      let content : PagedContent ν := spec.pagedContent rows sizing slots nodes.body
      (Report.render container spec rows sizing).run doc =
        .ok { card := slots, content := some content } shown ∧
      (∀ earlier : List UInt64, ∃ later,
        (earlier.forM content.table.showPage).run shown = .ok PUnit.unit later ∧
          ReflTransGen Change shown later ∧ IsTable spec.columns nodes later) ∧
      ∀ later, ReflTransGen Change shown later → ∀ index, ∃ after,
        (content.table.showPage index).run later = .ok () after ∧
          content.table.FillsPage index later after ∧
          (IsTable spec.columns nodes later → IsTable spec.columns nodes after) := by
  obtain ⟨card, nodes, shown, rendered, -, report⟩ :=
    run_renderReport reachable.isForest known spec nonempty valid
  have forest : shown.IsForest := isForest_of_run reachable.isForest rendered
  have knownBody := report.known_body forest
  refine ⟨card.slots, nodes, shown, rendered, fun earlier => ?_, fun later changes index => ?_⟩
  · obtain ⟨later, run, isTable⟩ :=
      PagedTable.run_showPages short forest knownBody report.body_eq report.isTable earlier
    exact ⟨later, run, changes_of_run run, isTable⟩
  · have forest' := forest.of_changes changes
    have knownBody' := Nat.lt_of_lt_of_le knownBody (size_le_of_changes changes)
    obtain ⟨after, run, fills⟩ :=
      PagedTable.run_showPage_fillsPage short forest' knownBody' index
    exact ⟨after, run, fills, fills.isTable forest' (isForest_of_run forest' run) report.body_eq⟩

theorem page_always_full_short :
    let sizing : Sizing := { pageSize := 2, maxHandles := 1 }
    let blank := rowElement [placeholder]
    0 < desk.size ∧ sizing.validate = .ok () ∧ shortRows ≠ [] ∧ shortRows.length < UInt64.size ∧
      ∃ (slots : Card) (body : NodeId) (shown later second last : Document (Action Unit)),
        let content : PagedContent Unit := shortSpec.pagedContent shortRows sizing slots body
        (Report.render 0 shortSpec shortRows sizing).run desk =
          .ok { card := slots, content := some content } shown ∧
        ([7, 0].forM content.table.showPage).run shown = .ok PUnit.unit later ∧
        (content.table.showPage 1).run later = .ok () second ∧
        (second.children body).length = 2 ∧
        (∃ row, (second.children body)[0]? = some row ∧ second.element row = rowElement ["third"]) ∧
        (∃ row, (second.children body)[1]? = some row ∧ second.element row = blank) ∧
        (content.table.showPage Word.greatest).run second = .ok () last ∧
        (last.children body).length = 2 ∧
        ∀ i < 2, ∃ row, (last.children body)[i]? = some row ∧ last.element row = blank := by
  intro sizing blank
  have known : 0 < desk.size := by decide
  have valid : sizing.validate = .ok () := by decide
  have nonempty : shortRows ≠ [] := by decide
  have small : shortRows.length < UInt64.size := by decide
  obtain ⟨slots, nodes, shown, rendered, pages, always⟩ :=
    page_always_full reachable_desk known shortSpec valid nonempty small
  have records (index : UInt64) :
      (shortSpec.pagedContent shortRows sizing slots nodes.body : PagedContent Unit).table.recordCount
        index = min 2 (3 - index.toNat * 2) := rfl
  have one : min 2 (3 - (1 : UInt64).toNat * 2) = 1 := by decide
  have none : min 2 (3 - Word.greatest.toNat * 2) = 0 := by decide
  obtain ⟨later, run, changes, -⟩ := pages [7, 0]
  obtain ⟨second, run', fills, -⟩ := always later changes 1
  obtain ⟨last, run'', fills', -⟩ := always second (changes.trans (changes_of_run run')) Word.greatest
  refine ⟨known, valid, nonempty, small, slots, nodes.body, shown, later, second, last, rendered, run, run',
    fills.height, ?_, fills.blank 1 Nat.one_lt_two ?_, run'', fills'.height,
    fun i inside => fills'.blank i inside ?_⟩
  · obtain ⟨row, values, at_, third, element⟩ := fills.record 0 (by rw [records, one]; exact Nat.one_pos)
    cases third
    exact ⟨row, at_, element⟩
  · rw [records, one]
  · rw [records, none]
    exact Nat.zero_le i

end ReportCards
