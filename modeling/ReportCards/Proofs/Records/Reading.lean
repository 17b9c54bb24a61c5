import Mathlib.Data.List.Forall2
import Mathlib.Order.Bounds.Basic
import Mathlib.Order.Nat
import ReportCards.Records

namespace ReportCards

section

variable {ε α β : Type} {found : Except ε α} {error : ε} {result : β}

theorem map_eq_ok_iff {change : α → β} :
    found.map change = .ok result ↔ ∃ value, found = .ok value ∧ result = change value := by
  cases found <;> simp [Except.map, eq_comm]

theorem map_eq_error_iff {change : α → β} : found.map change = .error error ↔ found = .error error := by
  cases found <;> simp [Except.map]

theorem bind_eq_ok_iff {next : α → Except ε β} :
    found.bind next = .ok result ↔ ∃ value, found = .ok value ∧ next value = .ok result := by
  cases found <;> simp [Except.bind]

theorem bind_eq_error_iff {next : α → Except ε β} :
    found.bind next = .error error ↔
      found = .error error ∨ ∃ value, found = .ok value ∧ next value = .error error := by
  cases found <;> simp [Except.bind]

end

inductive RecordShape where
  | object
  | array
  | scalar
deriving DecidableEq, Repr

namespace Json

def shape : Json → RecordShape
  | object _ => .object
  | array _ => .array
  | _ => .scalar

def items : Json → List Json
  | array items => items
  | _ => []

theorem shape_eq_object_iff {value : Json} : value.shape = .object ↔ ∃ fields, value = object fields := by
  cases value <;> simp [shape]

theorem shape_eq_array_iff {value : Json} : value.shape = .array ↔ ∃ items, value = array items := by
  cases value <;> simp [shape]

end Json

namespace Records

/-! ## What is read -/

inductive CellOf : Option Json → String → Prop
  | missing : CellOf none ""
  | null : CellOf (some .null) ""
  | string (text : String) : CellOf (some (.string text)) text
  | written {value : Json} (noNull : value ≠ .null) (noString : ∀ text, value ≠ .string text) :
      CellOf (some value) value.write

inductive ReadsRow (columns : List String) : Json → List String → Prop
  | object {fields : List (String × Json)} {row : List String}
      (cells : List.Forall₂ (fun column cell => CellOf (fields.lookup column) cell) columns row) :
      ReadsRow columns (.object fields) row
  | array {items : List Json} {row : List String} (fits : items.length ≤ columns.length)
      (length : row.length = columns.length)
      (cells : ∀ j (inside : j < row.length), CellOf items[j]? row[j]) :
      ReadsRow columns (.array items) row
  | scalar {record : Json} {cell : String} (scalar : record.shape = .scalar)
      (shown : CellOf (some record) cell) : ReadsRow columns record [cell]

/-- The header: the given columns, or those that the first record asks for. -/
inductive ReadsColumns : Option (List String) → List Json → List String → Prop
  | given (columns : List String) (records : List Json) : ReadsColumns (some columns) records columns
  | nothing : ReadsColumns none [] []
  | keys (fields : List (String × Json)) (rest : List Json) :
      ReadsColumns none (.object fields :: rest) (fields.map Prod.fst)
  | numbered {items : List Json} {rest : List Json} {width : Nat}
      (widest : IsGreatest {n | ∃ record ∈ Json.array items :: rest, record.items.length = n} width) :
      ReadsColumns none (.array items :: rest)
        ((List.range width).map fun j => "Column " ++ Decimal.ofNat (j + 1))
  | value {first : Json} (scalar : first.shape = .scalar) (rest : List Json) :
      ReadsColumns none (first :: rest) ["value"]

/-- The fault that a value is refused for, and its wording. -/
inductive Refuses (given : Option (List String)) : Json → ValidationFault → String → Prop
  | noArray {value : Json} (noArray : value.shape ≠ .array) :
      Refuses given value .notAnArray "report data must be a JSON array"
  | shape {first : Json} {rest : List Json} {i : Nat}
      (least : (first :: rest).findIdx? (fun record => record.shape ≠ first.shape) = some i) :
      Refuses given (.array (first :: rest)) (.shapeMismatch i)
        ("record " ++ Decimal.ofNat i ++ " does not match the shape of the first record")
  | width {records : List Json} {columns : List String} {i : Nat} {wide : Json}
      (arrays : ∀ record ∈ records, record.shape = .array) (asked : given = some columns)
      (least : records.findIdx? (fun record => columns.length < record.items.length) = some i)
      (found : records[i]? = some wide) :
      Refuses given (.array records) (.tooWide i wide.items.length columns.length)
        ("record " ++ Decimal.ofNat i ++ " has " ++ Decimal.ofNat wide.items.length ++ " cells but only "
          ++ Decimal.ofNat columns.length ++ " columns")

/-! ## Passes over the records -/

variable {row? : Json → Option (List String)} {index width : Nat} {items : List Json}
  {rows padded : List (List String)} {error : Error}

theorem rowsBy_eq_ok_iff :
    rowsBy row? index items = .ok rows ↔
      List.Forall₂ (fun record row => row? record = some row) items rows := by
  induction items generalizing index rows with
  | nil => simp [rowsBy, eq_comm]
  | cons record items ih =>
      rw [rowsBy]
      cases found : row? record with
      | none => simp [List.forall₂_cons_left_iff, found]
      | some row => simp [map_eq_ok_iff, List.forall₂_cons_left_iff, found, ih]

theorem rowsBy_eq_error_iff :
    rowsBy row? index items = .error error ↔
      ∃ i, items.findIdx? (fun record => (row? record).isNone) = some i ∧
        error = .validation (.shapeMismatch (index + i)) := by
  induction items generalizing index with
  | nil => simp [rowsBy]
  | cons record items ih =>
      rw [rowsBy, List.findIdx?_cons]
      cases found : row? record with
      | none => simp [eq_comm]
      | some row => simp [map_eq_error_iff, ih, Nat.add_assoc, Nat.add_comm 1]

theorem padRows_eq_ok_iff :
    padRows width index rows = .ok padded ↔
      List.Forall₂ (fun row cells => row.length ≤ width ∧
        cells = row ++ List.replicate (width - row.length) "") rows padded := by
  induction rows generalizing index padded with
  | nil => simp [padRows, eq_comm]
  | cons row rows ih =>
      rw [padRows]
      split
      · rename_i wide
        simp [List.forall₂_cons_left_iff, Nat.not_le.2 wide]
      · rename_i narrow
        simp [map_eq_ok_iff, List.forall₂_cons_left_iff, Nat.not_lt.1 narrow, ih]

theorem padRows_eq_error_iff :
    padRows width index rows = .error error ↔
      ∃ i row, rows.findIdx? (fun row => width < row.length) = some i ∧ rows[i]? = some row ∧
        error = .validation (.tooWide (index + i) row.length width) := by
  induction rows generalizing index with
  | nil => simp [padRows]
  | cons row rows ih =>
      rw [padRows, List.findIdx?_cons]
      split
      · rename_i wide
        simp [wide, eq_comm]
      · rename_i narrow
        simp [map_eq_error_iff, narrow, ih, Nat.add_assoc, Nat.add_comm 1]

/-! ## Single records -/

variable {columns row texts : List String} {record : Json}

theorem cellOf_iff {value? : Option Json} {cell : String} :
    CellOf value? cell ↔ (value?.map cellText).getD "" = cell := by
  constructor
  · intro shown
    cases shown with
    | missing | null | string => rfl
    | @written value noNull noString =>
        cases value with
        | null => exact absurd rfl noNull
        | string text => exact absurd rfl (noString text)
        | boolean | integer | double | array | object => rfl
  · rintro rfl
    cases value? with
    | none => exact .missing
    | some value =>
        cases value with
        | null => exact .null
        | string text => exact .string text
        | boolean | integer | double | array | object => exact .written nofun nofun

theorem objectRow?_eq_some_iff :
    objectRow? columns record = some row ↔ record.shape = .object ∧ ReadsRow columns record row := by
  cases record with
  | object fields =>
      have looked : objectRow? columns (.object fields) = some row ↔
          List.Forall₂ (fun column cell => CellOf (fields.lookup column) cell) columns row := by
        simp only [cellOf_iff]
        rw [objectRow?, Option.some.injEq, ← List.forall₂_map_left_iff (R := Eq), List.forall₂_eq_eq_eq]
      rw [looked]
      constructor
      · intro cells
        exact ⟨rfl, .object cells⟩
      · rintro ⟨-, reads⟩
        cases reads with
        | object cells => exact cells
        | scalar scalar => cases scalar
  | null | boolean | integer | double | string | array => simp [objectRow?, Json.shape]

theorem isNone_objectRow? : (objectRow? columns record).isNone = decide (record.shape ≠ .object) := by
  cases record <;> simp [objectRow?, Json.shape]

theorem scalarRow?_eq_some_iff :
    scalarRow? record = some row ↔ record.shape = .scalar ∧ ReadsRow columns record row := by
  have shown (scalar : record.shape = .scalar) :
      [cellText record] = row ↔ ReadsRow columns record row := by
    constructor
    · rintro rfl
      exact .scalar scalar (cellOf_iff.2 rfl)
    · intro reads
      cases reads with
      | object | array => cases scalar
      | scalar _ shown => rw [← cellOf_iff.1 shown]; rfl
  cases record with
  | object | array => simp [scalarRow?, Json.shape]
  | null | boolean | integer | double | string =>
      rw [← shown rfl]
      simp [scalarRow?, Json.shape]

theorem isNone_scalarRow? : (scalarRow? record).isNone = decide (record.shape ≠ .scalar) := by
  cases record <;> simp [scalarRow?, Json.shape]

theorem arrayRow?_eq_some_iff :
    arrayRow? record = some texts ↔ record.shape = .array ∧ record.items.map cellText = texts := by
  cases record <;> simp [arrayRow?, Json.shape, Json.items]

theorem isNone_arrayRow? : (arrayRow? record).isNone = decide (record.shape ≠ .array) := by
  cases record <;> simp [arrayRow?, Json.shape]

theorem readsRow_array_iff (array : record.shape = .array) :
    ReadsRow columns record row ↔ record.items.length ≤ columns.length ∧
      row = record.items.map cellText ++ List.replicate (columns.length - record.items.length) "" := by
  obtain ⟨items, rfl⟩ := Json.shape_eq_array_iff.1 array
  rw [Json.items]
  constructor
  · intro reads
    cases reads with
    | scalar scalar => cases scalar
    | array fits length cells =>
        refine ⟨fits, List.ext_getElem ?_ fun j inside _ => ?_⟩
        · simp only [List.length_append, List.length_map, List.length_replicate]
          omega
        · rw [← cellOf_iff.1 (cells j inside), List.getElem_append]
          split
          · rename_i early
            rw [List.length_map] at early
            simp [early]
          · rename_i late
            rw [List.length_map, Nat.not_lt] at late
            simp [late]
  · rintro ⟨fits, rfl⟩
    refine .array fits ?_ fun j inside => ?_
    · simp only [List.length_append, List.length_map, List.length_replicate]
      omega
    · rw [cellOf_iff, List.getElem_append]
      split
      · rename_i early
        rw [List.length_map] at early
        simp [early]
      · rename_i late
        rw [List.length_map, Nat.not_lt] at late
        simp [late]

theorem isGreatest_greatestWidth (some : rows ≠ []) :
    IsGreatest {n | ∃ row ∈ rows, row.length = n} (greatestWidth rows) := by
  have folded (rows : List (List String)) (start : Nat) :
      start ≤ rows.foldl (fun widest row => max widest row.length) start ∧
        (∀ row ∈ rows, row.length ≤ rows.foldl (fun widest row => max widest row.length) start) ∧
        (rows.foldl (fun widest row => max widest row.length) start = start ∨
          ∃ row ∈ rows, row.length = rows.foldl (fun widest row => max widest row.length) start) := by
    induction rows generalizing start with
    | nil => simp
    | cons row rows ih =>
        obtain ⟨above, others, reached⟩ := ih (max start row.length)
        rw [List.foldl_cons, List.forall_mem_cons]
        refine ⟨by omega, ⟨by omega, others⟩, ?_⟩
        rcases reached with start' | ⟨widest, member, reached⟩
        · rcases Nat.le_total row.length start with less | more
          · exact .inl (by rw [start']; omega)
          · exact .inr ⟨row, List.mem_cons_self, by rw [start']; omega⟩
        · exact .inr ⟨widest, List.mem_cons_of_mem _ member, reached⟩
  obtain ⟨-, others, reached⟩ := folded rows 0
  constructor
  · rcases reached with zero | reached
    · obtain ⟨row, member⟩ := List.exists_mem_of_ne_nil rows some
      have small := others row member
      exact ⟨row, member, by rw [greatestWidth]; omega⟩
    · exact reached
  · rintro n ⟨row, member, rfl⟩
    exact others row member

/-! ## Records of one shape -/

variable {given : Option (List String)} {first : Json} {rest : List Json} {records : Records}
  {fault : ValidationFault} {text : String}

theorem forall₂_rows_iff {shape : RecordShape}
    (each : ∀ record row, row? record = some row ↔ record.shape = shape ∧ ReadsRow columns record row) :
    List.Forall₂ (fun record row => row? record = some row) items rows ↔
      (∀ record ∈ items, record.shape = shape) ∧ List.Forall₂ (ReadsRow columns) items rows := by
  simp only [each]
  exact List.forall₂_and_left _ _

def ReadsAll (columns : List String) (records : List Json) (rows : List (List String)) : Prop :=
  (∀ first ∈ records.head?, ∀ record ∈ records, record.shape = first.shape) ∧
    List.Forall₂ (ReadsRow columns) records rows

theorem ofJson_objects (fields : List (String × Json)) (rest : List Json) (given : Option (List String)) :
    ofJson (.array (.object fields :: rest)) given =
      let columns := given.getD (fields.map Prod.fst)
      (rowsBy (objectRow? columns) 0 (.object fields :: rest)).map fun rows => { columns, rows } :=
  rfl

theorem ofJson_scalars (scalar : first.shape = .scalar) (rest : List Json)
    (given : Option (List String)) :
    ofJson (.array (first :: rest)) given =
      (rowsBy scalarRow? 0 (first :: rest)).map fun rows =>
        { columns := given.getD [scalarColumn], rows } := by
  cases first <;> first | rfl | cases scalar

def arrayTexts (records : List Json) : List (List String) :=
  records.map fun record => record.items.map cellText

def arrayColumns (given : Option (List String)) (rows : List (List String)) : List String :=
  given.getD ((List.range' 1 (greatestWidth rows)).map numberedColumn)

theorem arrayColumns_some : arrayColumns (some columns) rows = columns := rfl

theorem ofJson_arrays (items rest : List Json) (given : Option (List String)) :
    ofJson (.array (.array items :: rest)) given =
      (rowsBy arrayRow? 0 (.array items :: rest)).bind fun rows =>
        (padRows (arrayColumns given rows).length 0 rows).map fun padded =>
          { columns := arrayColumns given rows, rows := padded } :=
  rfl

theorem readsColumns_iff_of_object {fields : List (String × Json)} :
    ReadsColumns given (.object fields :: rest) columns ↔ given.getD (fields.map Prod.fst) = columns := by
  constructor
  · intro reads
    cases reads with
    | given | keys => rfl
    | value scalar => cases scalar
  · rintro rfl
    cases given with
    | none => exact .keys fields rest
    | some columns => exact .given columns _

theorem readsColumns_iff_of_scalar (scalar : first.shape = .scalar) :
    ReadsColumns given (first :: rest) columns ↔ given.getD [scalarColumn] = columns := by
  constructor
  · intro reads
    cases reads with
    | given | value => rfl
    | keys | numbered => cases scalar
  · rintro rfl
    cases given with
    | none => exact .value scalar rest
    | some columns => exact .given columns _

theorem readsColumns_iff_of_array :
    ReadsColumns given (.array items :: rest) columns ↔
      arrayColumns given (arrayTexts (.array items :: rest)) = columns := by
  have greatest : IsGreatest {n | ∃ record ∈ Json.array items :: rest, record.items.length = n}
      (greatestWidth (arrayTexts (.array items :: rest))) := by
    have some : arrayTexts (.array items :: rest) ≠ [] := by simp [arrayTexts]
    have widest := isGreatest_greatestWidth some
    simpa only [arrayTexts, List.mem_map, exists_exists_and_eq_and, List.length_map] using widest
  have numbered (width : Nat) : (List.range' 1 width).map numberedColumn =
      (List.range width).map fun j => "Column " ++ Decimal.ofNat (j + 1) := by
    rw [List.range'_eq_map_range, List.map_map]
    refine List.map_congr_left fun j _ => ?_
    rw [Function.comp_apply, Nat.add_comm]
    rfl
  rw [arrayColumns, numbered]
  constructor
  · intro reads
    cases reads with
    | given => rfl
    | numbered widest => rw [widest.unique greatest]; rfl
    | value scalar => cases scalar
  · rintro rfl
    cases given with
    | none => exact .numbered greatest
    | some columns => exact .given columns _

theorem readsAll_cons_iff {shape : RecordShape} (same : first.shape = shape) :
    ReadsAll columns (first :: rest) rows ↔
      (∀ record ∈ first :: rest, record.shape = shape) ∧
        List.Forall₂ (ReadsRow columns) (first :: rest) rows := by
  simp [ReadsAll, same]

theorem rowsBy_arrays_eq_ok_iff :
    rowsBy arrayRow? index items = .ok rows ↔
      (∀ record ∈ items, record.shape = .array) ∧ arrayTexts items = rows := by
  simp only [rowsBy_eq_ok_iff, arrayRow?_eq_some_iff]
  rw [arrayTexts, List.forall₂_and_left, ← List.forall₂_map_left_iff (R := Eq), List.forall₂_eq_eq_eq]

theorem padRows_arrayTexts_eq_ok_iff (arrays : ∀ record ∈ items, record.shape = .array) :
    padRows columns.length index (arrayTexts items) = .ok rows ↔
      List.Forall₂ (ReadsRow columns) items rows := by
  rw [padRows_eq_ok_iff, arrayTexts, List.forall₂_map_left_iff]
  simp only [List.length_map]
  induction items generalizing rows with
  | nil => simp
  | cons record items ih =>
      obtain ⟨array, others⟩ := List.forall_mem_cons.1 arrays
      simp only [List.forall₂_cons_left_iff, ih others, readsRow_array_iff array]

theorem ofJson_cons_eq_ok_iff :
    ofJson (.array (first :: rest)) given = .ok records ↔
      ReadsColumns given (first :: rest) records.columns ∧
        ReadsAll records.columns (first :: rest) records.rows := by
  obtain ⟨columns, rows⟩ := records
  cases shape : first.shape with
  | object =>
      obtain ⟨fields, rfl⟩ := Json.shape_eq_object_iff.1 shape
      simp only [ofJson_objects, map_eq_ok_iff, rowsBy_eq_ok_iff, readsColumns_iff_of_object,
        readsAll_cons_iff shape, forall₂_rows_iff fun _ _ => objectRow?_eq_some_iff, Records.mk.injEq]
      constructor
      · rintro ⟨_, read, rfl, rfl⟩
        exact ⟨rfl, read⟩
      · rintro ⟨rfl, read⟩
        exact ⟨rows, read, rfl, rfl⟩
  | scalar =>
      have each (record : Json) (row : List String) : scalarRow? record = some row ↔
          record.shape = .scalar ∧ ReadsRow columns record row := scalarRow?_eq_some_iff
      simp only [ofJson_scalars shape, map_eq_ok_iff, rowsBy_eq_ok_iff, readsColumns_iff_of_scalar shape,
        readsAll_cons_iff shape, forall₂_rows_iff each, Records.mk.injEq]
      constructor
      · rintro ⟨_, read, rfl, rfl⟩
        exact ⟨rfl, read⟩
      · rintro ⟨rfl, read⟩
        exact ⟨rows, read, rfl, rfl⟩
  | array =>
      obtain ⟨items, rfl⟩ := Json.shape_eq_array_iff.1 shape
      rw [ofJson_arrays, readsAll_cons_iff shape, readsColumns_iff_of_array]
      constructor
      · intro read
        obtain ⟨texts, first, read⟩ := bind_eq_ok_iff.1 read
        obtain ⟨arrays, rfl⟩ := rowsBy_arrays_eq_ok_iff.1 first
        obtain ⟨padded, pad, same⟩ := map_eq_ok_iff.1 read
        cases same
        exact ⟨rfl, arrays, (padRows_arrayTexts_eq_ok_iff arrays).1 pad⟩
      · rintro ⟨rfl, arrays, read⟩
        apply bind_eq_ok_iff.2
        refine ⟨_, rowsBy_arrays_eq_ok_iff.2 ⟨arrays, rfl⟩, ?_⟩
        apply map_eq_ok_iff.2
        exact ⟨rows, (padRows_arrayTexts_eq_ok_iff arrays).2 read, rfl⟩

/-! ## Faults -/

theorem Refuses.message_eq {value : Json} (refuses : Refuses given value fault text) :
    fault.message = text := by
  cases refuses <;> rfl

theorem refuses_shape_iff {shape : RecordShape} (same : first.shape = shape) (noArrays : shape ≠ .array) :
    (∃ text, Refuses given (.array (first :: rest)) fault text) ↔
      ∃ i, (first :: rest).findIdx? (fun record => record.shape ≠ shape) = some i ∧
        fault = .shapeMismatch i := by
  subst same
  constructor
  · rintro ⟨text, refuses⟩
    cases refuses with
    | noArray noArray => exact absurd rfl noArray
    | shape least => exact ⟨_, least, rfl⟩
    | width arrays => exact absurd (arrays first List.mem_cons_self) noArrays
  · rintro ⟨i, least, rfl⟩
    exact ⟨_, .shape least⟩

theorem rowsBy_eq_error_iff_of_shape {shape : RecordShape}
    (each : ∀ record, (row? record).isNone = decide (record.shape ≠ shape)) :
    rowsBy row? 0 items = .error error ↔
      ∃ i, items.findIdx? (fun record => record.shape ≠ shape) = some i ∧
        error = .validation (.shapeMismatch i) := by
  simp only [rowsBy_eq_error_iff, each, Nat.zero_add]

theorem padRows_arrayTexts_eq_error_iff :
    padRows (arrayColumns given (arrayTexts items)).length 0 (arrayTexts items) = .error error ↔
      ∃ columns i wide, given = some columns ∧
        items.findIdx? (fun record => columns.length < record.items.length) = some i ∧
        items[i]? = some wide ∧ error = .validation (.tooWide i wide.items.length columns.length) := by
  rw [padRows_eq_error_iff]
  constructor
  · rintro ⟨i, texts, least, found, rfl⟩
    cases given with
    | none =>
        obtain ⟨inside, wide, -⟩ := List.findIdx?_eq_some_iff_getElem.1 least
        have member := List.getElem_mem inside
        have widest := (isGreatest_greatestWidth (List.ne_nil_of_mem member)).2 ⟨_, member, rfl⟩
        rw [arrayColumns, Option.getD_none, List.length_map, List.length_range', decide_eq_true_eq] at wide
        exact absurd widest (Nat.not_le.2 wide)
    | some columns =>
        rw [arrayTexts, List.getElem?_map, Option.map_eq_some_iff] at found
        obtain ⟨record, found, rfl⟩ := found
        refine ⟨columns, i, record, rfl, ?_, found, ?_⟩
        · rw [arrayTexts, List.findIdx?_map] at least
          simpa only [Function.comp_def, List.length_map, arrayColumns_some] using least
        · rw [Nat.zero_add, List.length_map]
          rfl
  · rintro ⟨columns, i, wide, rfl, least, found, rfl⟩
    refine ⟨i, wide.items.map cellText, ?_, ?_, ?_⟩
    · rw [arrayTexts, List.findIdx?_map]
      simpa only [Function.comp_def, List.length_map, arrayColumns_some] using least
    · rw [arrayTexts, List.getElem?_map, found]
      rfl
    · rw [Nat.zero_add, List.length_map]
      rfl

theorem ofJson_cons_eq_error_iff :
    ofJson (.array (first :: rest)) given = .error error ↔
      ∃ fault, (∃ text, Refuses given (.array (first :: rest)) fault text) ∧ error = .validation fault := by
  have blamed {shape : RecordShape} (same : first.shape = shape) (noArrays : shape ≠ .array) :
      (∃ i, (first :: rest).findIdx? (fun record => record.shape ≠ shape) = some i ∧
        error = .validation (.shapeMismatch i)) ↔
      ∃ fault, (∃ text, Refuses given (.array (first :: rest)) fault text) ∧ error = .validation fault := by
    simp only [refuses_shape_iff same noArrays]
    constructor
    · rintro ⟨i, least, rfl⟩
      exact ⟨_, ⟨i, least, rfl⟩, rfl⟩
    · rintro ⟨_, ⟨i, least, rfl⟩, rfl⟩
      exact ⟨i, least, rfl⟩
  cases shape : first.shape with
  | object =>
      rw [← blamed shape nofun]
      obtain ⟨fields, rfl⟩ := Json.shape_eq_object_iff.1 shape
      rw [ofJson_objects, map_eq_error_iff, rowsBy_eq_error_iff_of_shape fun _ => isNone_objectRow?]
  | scalar =>
      rw [← blamed shape nofun]
      rw [ofJson_scalars shape, map_eq_error_iff, rowsBy_eq_error_iff_of_shape fun _ => isNone_scalarRow?]
  | array =>
      obtain ⟨items, rfl⟩ := Json.shape_eq_array_iff.1 shape
      rw [ofJson_arrays, bind_eq_error_iff, rowsBy_eq_error_iff_of_shape fun _ => isNone_arrayRow?]
      constructor
      · rintro (⟨i, least, rfl⟩ | ⟨texts, first, pad⟩)
        · exact ⟨_, ⟨_, .shape least⟩, rfl⟩
        · obtain ⟨arrays, rfl⟩ := rowsBy_arrays_eq_ok_iff.1 first
          obtain ⟨columns, i, wide, asked, least, found, rfl⟩ :=
            padRows_arrayTexts_eq_error_iff.1 (map_eq_error_iff.1 pad)
          exact ⟨_, ⟨_, .width arrays asked least found⟩, rfl⟩
      · rintro ⟨fault, ⟨text, refuses⟩, rfl⟩
        cases refuses with
        | noArray noArray => exact absurd rfl noArray
        | shape least => exact .inl ⟨_, least, rfl⟩
        | width arrays asked least found =>
            refine .inr ⟨_, rowsBy_arrays_eq_ok_iff.2 ⟨arrays, rfl⟩, ?_⟩
            apply map_eq_error_iff.2
            exact padRows_arrayTexts_eq_error_iff.2 ⟨_, _, _, asked, least, found, rfl⟩

/-! ## Every value -/

variable {value : Json}

theorem ofJson_eq_ok_iff :
    ofJson value given = .ok records ↔ ∃ items, value = .array items ∧
      ReadsColumns given items records.columns ∧ ReadsAll records.columns items records.rows := by
  cases value with
  | array items =>
      simp only [Json.array.injEq, exists_eq_left']
      cases items with
      | nil =>
          obtain ⟨columns, rows⟩ := records
          rw [ofJson, Except.ok.injEq, Records.mk.injEq]
          constructor
          · rintro ⟨rfl, rfl⟩
            refine ⟨?_, nofun, .nil⟩
            cases given with
            | none => exact .nothing
            | some columns => exact .given columns []
          · rintro ⟨header, -, reads⟩
            cases reads
            cases header <;> exact ⟨rfl, rfl⟩
      | cons first rest => exact ofJson_cons_eq_ok_iff
  | null | boolean | integer | double | string | object => simp [ofJson]

theorem ofJson_eq_error_iff :
    ofJson value given = .error error ↔
      ∃ fault, (∃ text, Refuses given value fault text) ∧ error = .validation fault := by
  have other (noArray : value.shape ≠ .array) (refused : ofJson value given = .error (.validation .notAnArray)) :
      ofJson value given = .error error ↔
        ∃ fault, (∃ text, Refuses given value fault text) ∧ error = .validation fault := by
    rw [refused, Except.error.injEq, eq_comm]
    constructor
    · rintro rfl
      exact ⟨_, ⟨_, .noArray noArray⟩, rfl⟩
    · rintro ⟨_, ⟨_, refuses⟩, rfl⟩
      cases refuses with
      | noArray => rfl
      | shape | width => exact absurd rfl noArray
  cases value with
  | array items =>
      cases items with
      | nil =>
          refine ⟨nofun, ?_⟩
          rintro ⟨_, ⟨_, refuses⟩, -⟩
          cases refuses with
          | noArray noArray => exact absurd rfl noArray
          | width arrays asked least => cases least
      | cons first rest => exact ofJson_cons_eq_error_iff
  | null | boolean | integer | double | string | object => exact other nofun rfl

theorem exists_findIdx?_eq_some {p : Json → Prop} [DecidablePred p] (found : ∃ record ∈ items, p record) :
    ∃ i, items.findIdx? (fun record => p record) = some i := by
  rw [← Option.isSome_iff_exists, List.findIdx?_isSome]
  simpa using found

theorem exists_refuses_iff :
    (∃ fault text, Refuses given value fault text) ↔
      value.shape ≠ .array ∨
        (∃ first ∈ value.items.head?, ∃ record ∈ value.items, record.shape ≠ first.shape) ∨
        ∃ columns ∈ given, (∀ record ∈ value.items, record.shape = .array) ∧
          ∃ record ∈ value.items, columns.length < record.items.length := by
  constructor
  · rintro ⟨fault, text, refuses⟩
    cases refuses with
    | noArray noArray => exact .inl noArray
    | shape least =>
        obtain ⟨inside, other, -⟩ := List.findIdx?_eq_some_iff_getElem.1 least
        exact .inr (.inl ⟨_, rfl, _, List.getElem_mem inside, of_decide_eq_true other⟩)
    | width arrays asked least =>
        obtain ⟨inside, wide, -⟩ := List.findIdx?_eq_some_iff_getElem.1 least
        exact .inr (.inr ⟨_, asked, arrays, _, List.getElem_mem inside, of_decide_eq_true wide⟩)
  · rintro (noArray | ⟨first, head, record, member, other⟩ | ⟨columns, asked, arrays, record, member, wide⟩)
    · exact ⟨_, _, .noArray noArray⟩
    · cases value with
      | array items =>
          rw [Json.items] at head member
          obtain ⟨rest, rfl⟩ := List.head?_eq_some_iff.1 head
          obtain ⟨i, least⟩ := exists_findIdx?_eq_some (p := fun record => record.shape ≠ first.shape)
            ⟨record, member, other⟩
          exact ⟨_, _, .shape least⟩
      | null | boolean | integer | double | string | object => cases member
    · cases value with
      | array items =>
          rw [Json.items] at arrays member
          obtain ⟨i, least⟩ :=
            exists_findIdx?_eq_some (p := fun record => columns.length < record.items.length)
              ⟨record, member, wide⟩
          obtain ⟨inside, -⟩ := List.findIdx?_eq_some_iff_getElem.1 least
          exact ⟨_, _, .width arrays asked least (List.getElem?_eq_getElem inside)⟩
      | null | boolean | integer | double | string | object => cases member

/-- A value is refused in three cases and for the fault that `Refuses` gives; otherwise every value of every
record is read into its cell. -/
theorem ofJson_reads_or_refuses (value : Json) (given : Option (List String)) :
    ((∃ error, ofJson value given = .error error) ↔
      value.shape ≠ .array ∨
        (∃ first ∈ value.items.head?, ∃ record ∈ value.items, record.shape ≠ first.shape) ∨
        ∃ columns ∈ given, (∀ record ∈ value.items, record.shape = .array) ∧
          ∃ record ∈ value.items, columns.length < record.items.length) ∧
    (∀ error, ofJson value given = .error error ↔
      ∃ fault text, Refuses given value fault text ∧ error = .validation fault ∧
        error.message = "Validation error: " ++ text) ∧
    ∀ records, ofJson value given = .ok records ↔
      ∃ items, value = .array items ∧ ReadsColumns given items records.columns ∧
        ReadsAll records.columns items records.rows := by
  refine ⟨?_, fun error => ?_, fun records => ofJson_eq_ok_iff⟩
  · rw [← exists_refuses_iff]
    simp only [ofJson_eq_error_iff]
    constructor
    · rintro ⟨_, fault, refused, -⟩
      exact ⟨fault, refused⟩
    · rintro ⟨fault, refused⟩
      exact ⟨_, fault, refused, rfl⟩
  · rw [ofJson_eq_error_iff]
    constructor
    · rintro ⟨fault, ⟨text, refuses⟩, rfl⟩
      exact ⟨fault, text, refuses, rfl, congrArg ("Validation error: " ++ ·) refuses.message_eq⟩
    · rintro ⟨fault, text, refuses, rfl, -⟩
      exact ⟨fault, ⟨text, refuses⟩, rfl⟩

example : ofJson (.array [.array [.null, .null], .object []]) (some ["a"]) =
    .error (.validation (.shapeMismatch 1)) := rfl

end Records
end ReportCards
