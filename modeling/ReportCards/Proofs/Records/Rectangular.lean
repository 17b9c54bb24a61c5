import ReportCards.Proofs.Records.Reading
import ReportCards.Proofs.Widget.Coherence

namespace ReportCards
open Document Edit

variable {κ ν σ : Type} {doc : Document κ} {columns : List String} {nodes : TableNodes}
  {spec : ReportSpec} {content : PagedContent ν} {card : CardNodes} {table : TableNodes}
  {shown : List (List String)} {control : Option UInt64}

/-! ## Rows of records -/

def Json.isScalar : Json → Bool
  | object _ | array _ => false
  | _ => true

/-- Whether the first record, which decides how all records are read, is neither an object nor an
array. -/
def Json.beginsWithScalar : Json → Bool
  | array (first :: _) => first.isScalar
  | _ => false

namespace Records

def IsRectangular (records : Records) : Prop :=
  ∀ row ∈ records.rows, row.length = records.columns.length

variable {row? : Json → Option (List String)} {index width : Nat} {items : List Json}
  {rows padded : List (List String)}

theorem length_of_padRows (pad : padRows width index rows = .ok padded) :
    ∀ row ∈ padded, row.length = width := by
  intro cells member
  obtain ⟨row, -, narrow, rfl⟩ := exists_right_of_mem (padRows_eq_ok_iff.1 pad).flip member
  rw [List.length_append, List.length_replicate]
  exact Nat.add_sub_of_le narrow

theorem length_of_rowsBy (read : rowsBy row? index items = .ok rows)
    (each : ∀ record row, row? record = some row → row.length = width) :
    ∀ row ∈ rows, row.length = width := by
  intro row member
  obtain ⟨record, -, found⟩ := exists_right_of_mem (rowsBy_eq_ok_iff.1 read).flip member
  exact each record row found

/-! ## Records of one shape -/

variable {given : Option (List String)} {rest : List Json} {records : Records}

theorem isRectangular_of_objects {fields : List (String × Json)}
    (read : ofJson (.array (.object fields :: rest)) given = .ok records) : records.IsRectangular := by
  obtain ⟨rows, found, rfl⟩ := map_eq_ok_iff.1 read
  apply length_of_rowsBy found
  intro record row looked
  cases record <;> cases looked
  exact List.length_map _

theorem isRectangular_of_arrays (read : ofJson (.array (.array items :: rest)) given = .ok records) :
    records.IsRectangular := by
  obtain ⟨rows, -, read⟩ := bind_eq_ok_iff.1 read
  obtain ⟨padded, pad, rfl⟩ := map_eq_ok_iff.1 read
  exact length_of_padRows pad

theorem rows_of_scalars {first : Json} (scalar : first.isScalar = true)
    (read : ofJson (.array (first :: rest)) given = .ok records) :
    records.rows ≠ [] ∧ ∀ row ∈ records.rows, row.length = 1 := by
  have shape : first.shape = .scalar := by
    cases first <;> first | rfl | cases scalar
  rw [ofJson_scalars shape] at read
  obtain ⟨rows, found, rfl⟩ := map_eq_ok_iff.1 read
  constructor
  · rintro rfl
    cases rowsBy_eq_ok_iff.1 found
  · apply length_of_rowsBy found
    intro record row looked
    cases record <;> cases looked <;> rfl

theorem isRectangular_iff {value : Json} (read : ofJson value given = .ok records) :
    records.IsRectangular ↔ ¬ (value.beginsWithScalar = true ∧ records.columns.length ≠ 1) := by
  cases value with
  | null | boolean | integer | double | string | object => cases read
  | array items =>
      cases items with
      | nil =>
          cases read
          simp [IsRectangular, Json.beginsWithScalar]
      | cons first rest =>
          rw [Json.beginsWithScalar]
          cases scalar : first.isScalar with
          | true =>
              obtain ⟨nonempty, one⟩ := rows_of_scalars scalar read
              obtain ⟨row, member⟩ := List.exists_mem_of_ne_nil _ nonempty
              simp only [true_and, not_not]
              refine ⟨fun rectangular => ?_, fun single row member => ?_⟩
              · rw [← rectangular row member, one row member]
              · rw [one row member, single]
          | false =>
              have rectangular : records.IsRectangular := by
                cases first with
                | object fields => exact isRectangular_of_objects read
                | array items => exact isRectangular_of_arrays read
                | null | boolean | integer | double | string => cases scalar
              simp [rectangular]

end Records

/-! ## Cells of a table -/

theorem PagedTable.length_of_mem_shownRows {table : PagedTable}
    (rectangular : ∀ row ∈ table.rows, row.length = table.columns) (index : UInt64) :
    ∀ row ∈ table.shownRows index, row.length = table.columns := by
  intro row member
  rcases List.mem_append.1 member with data | blank
  · exact rectangular row (List.mem_of_mem_drop (List.mem_of_mem_take data))
  · rw [List.eq_of_mem_replicate blank, List.length_replicate]

structure HasCells (doc : Document κ) (row : NodeId) (cellTag : String) (width : Nat) : Prop where
  isRow : doc.tag row = "tr"
  length : (doc.children row).length = width
  cells : ∀ cell ∈ doc.children row, doc.tag cell = cellTag

structure IsRectangularTable (doc : Document κ) (nodes : TableNodes) (width : Nat) : Prop where
  children : doc.children nodes.table = [nodes.head, nodes.body]
  header : ∃ row, doc.children nodes.head = [row] ∧ HasCells doc row "th" width
  rows : ∀ row ∈ doc.children nodes.body, HasCells doc row "td" width

theorem Document.IsForest.tag_element (forest : doc.IsForest) (n : NodeId) :
    (doc.element n).tag = doc.tag n := by
  rw [forest.element_eq]

theorem Document.IsForest.children_element (forest : doc.IsForest) (n : NodeId) :
    (doc.element n).children = (doc.children n).map doc.element := by
  rw [forest.element_eq]

theorem hasCells_of_element (forest : doc.IsForest) {row : NodeId} {tag : String} {texts : List String}
    (same : doc.element row = branchElement "tr" (texts.map (leafElement tag))) :
    HasCells doc row tag texts.length := by
  have children : (doc.children row).map doc.element = texts.map (leafElement tag) := by
    rw [← forest.children_element, same]
    rfl
  refine ⟨?_, ?_, fun cell child => ?_⟩
  · rw [← forest.tag_element, same]
    rfl
  · have lengths := congrArg List.length children
    rwa [List.length_map, List.length_map] at lengths
  · have inRow : doc.element cell ∈ texts.map (leafElement tag) :=
      children ▸ List.mem_map_of_mem child
    obtain ⟨text, -, leaf⟩ := List.mem_map.1 inRow
    rw [← forest.tag_element, ← leaf]
    rfl

theorem IsTable.header (isTable : IsTable columns nodes doc) (forest : doc.IsForest) :
    ∃ row, doc.children nodes.head = [row] ∧ HasCells doc row "th" columns.length := by
  have only : (doc.children nodes.head).map doc.element =
      [branchElement "tr" (columns.map (leafElement "th"))] := by
    rw [← forest.children_element, isTable.head]
    rfl
  obtain ⟨row, children, element⟩ := List.map_eq_singleton_iff.1 only
  exact ⟨row, children, hasCells_of_element forest element⟩

theorem IsReport.isRectangularTable {doc : Document (Action ν)}
    (report : IsReport spec content card table doc shown control) (forest : doc.IsForest)
    (rectangular : ∀ row ∈ shown, row.length = spec.columns.length) :
    IsRectangularTable doc table spec.columns.length where
  children := children_of_content report.isTable.table
  header := report.isTable.header forest
  rows := by
    intro row child
    have inShown : doc.element row ∈ shown.map rowElement := report.rows ▸ List.mem_map_of_mem child
    obtain ⟨values, member, element⟩ := List.mem_map.1 inShown
    rw [← rectangular values member]
    exact hasCells_of_element forest element.symm

theorem IsPaged.isRectangularTable {doc : Document (Action ν)} {rows : List (List String)}
    {sizing : Sizing} {body : NodeId} {pages : ReportPages}
    (report : IsPaged spec (spec.pagedContent rows sizing card.slots body : PagedContent ν) card table
      doc pages)
    (forest : doc.IsForest) (rectangular : ∀ row ∈ rows, row.length = spec.columns.length) :
    IsRectangularTable doc table spec.columns.length :=
  IsReport.isRectangularTable report forest (PagedTable.length_of_mem_shownRows rectangular pages.table)

/-! ## Reports of records -/

/-- Rows are as wide as the header unless scalars are read under a header of another width; then they all
have one cell. In the table of a report of rectangular records, the rows on every page are as wide as the
header row. -/
theorem records_rectangular {value : Json} {given : Option (List String)} {records : Records}
    (read : Records.ofJson value given = .ok records) :
    (records.IsRectangular ↔ ¬ (value.beginsWithScalar = true ∧ records.columns.length ≠ 1)) ∧
      (value.beginsWithScalar = true → ∀ row ∈ records.rows, row.length = 1) ∧
      ∀ (ν σ : Type) (behaviour : Behaviour ν σ) (doc : Document (Action ν)) (container : NodeId)
        (id title : String) (sizing : Sizing),
        records.IsRectangular → records.rows ≠ [] → doc.Reachable → container < doc.size →
          sizing.validate = .ok () →
          ∃ (report : Report ν) (table : PagedTable) (nodes : TableNodes) (column : NodeId)
            (shown : Document (Action ν)),
            (Report.render container { id, title, columns := records.columns } records.rows sizing).run
              doc = .ok report shown ∧
            shown.children container = doc.children container ++ [column] ∧
            report.content.map PagedContent.table = some table ∧ table.body = nodes.body ∧
            ∀ host events world,
              ReportRun behaviour report column { document := shown, host } events world →
              IsRectangularTable world.document nodes records.columns.length := by
  refine ⟨Records.isRectangular_iff read, fun scalar => ?_, ?_⟩
  · cases value with
    | array items =>
        cases items with
        | nil => cases scalar
        | cons first rest => exact (Records.rows_of_scalars scalar read).2
    | null | boolean | integer | double | string | object => cases scalar
  · intro ν σ behaviour doc container id title sizing rectangular nonempty reachable known valid
    obtain ⟨card, table, shown, rendered, added, report⟩ := run_renderReport reachable.isForest known
      { id, title, columns := records.columns } nonempty valid
    have forest : shown.IsForest := isForest_of_run reachable.isForest rendered
    refine ⟨_, _, table, card.column, shown, rendered, added, rfl, rfl, fun host events world run => ?_⟩
    have first : IsPaged { id, title, columns := records.columns } _ card table shown ⟨0, 0⟩ := report
    obtain ⟨forest', pages, report'⟩ := first.after_run rfl forest run
    exact report'.isRectangularTable forest' rectangular

theorem records_rectangular_padded :
    let records : Records := { columns := ["Column 1", "Column 2"], rows := [["a", ""], ["b", "c"]] }
    Records.ofJson (.array [.array [.string "a"], .array [.string "b", .string "c"]]) none = .ok records ∧
      records.IsRectangular ∧
      ∃ (report : Report Unit) (nodes : TableNodes) (shown : Document (Action Unit)),
        (Report.render 0 { id := "pairs", title := "Pairs", columns := records.columns } records.rows
          { pageSize := 3, maxHandles := 1 }).run desk = .ok report shown ∧
        IsRectangularTable shown nodes 2 := by
  intro records
  have read : Records.ofJson (.array [.array [.string "a"], .array [.string "b", .string "c"]]) none =
      .ok records := by rfl
  have rectangular : records.IsRectangular := by
    unfold Records.IsRectangular
    decide
  obtain ⟨-, -, rendering⟩ := records_rectangular read
  obtain ⟨report, -, nodes, column, shown, rendered, -, -, -, always⟩ := rendering Unit Unit idle desk 0
    "pairs" "Pairs" { pageSize := 3, maxHandles := 1 } rectangular (by decide) reachable_desk (by decide)
    (by decide)
  exact ⟨read, rectangular, report, nodes, shown, rendered, always () [] _ .start⟩

theorem scalar_row_under_two_columns :
    Records.ofJson (.array [.integer 1]) (some ["a", "b"]) =
        .ok { columns := ["a", "b"], rows := [["1"]] } ∧
      ¬ Records.IsRectangular { columns := ["a", "b"], rows := [["1"]] } := by
  refine ⟨by rfl, ?_⟩
  unfold Records.IsRectangular
  decide

end ReportCards
