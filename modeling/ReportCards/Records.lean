import ReportCards.Error
import ReportCards.Json.Value

namespace ReportCards

structure Records where
  columns : List String
  rows : List (List String)
deriving DecidableEq, Repr

namespace Records

def scalarColumn : String := "value"

def numberedColumn (n : Nat) : String :=
  "Column " ++ Decimal.ofNat n

def cellText : Json → String
  | .string value => value
  | .null => ""
  | value => value.write

/-- Applies `row?` to every record, from number `index` on. The first record that has none is the
one that is reported. -/
def rowsBy (row? : Json → Option (List String)) :
    (index : Nat) → List Json → Except Error (List (List String))
  | _, [] => .ok []
  | index, record :: rest =>
      match row? record with
      | none => .error (.validation (.shapeMismatch index))
      | some row => (rowsBy row? (index + 1) rest).map (row :: ·)

def objectRow? (columns : List String) : Json → Option (List String)
  | .object fields =>
      some (columns.map fun column => ((fields.lookup column).map cellText).getD "")
  | _ => none

def arrayRow? : Json → Option (List String)
  | .array items => some (items.map cellText)
  | _ => none

def scalarRow? : Json → Option (List String)
  | .object _ | .array _ => none
  | value => some [cellText value]

def padRows (columns : Nat) :
    (index : Nat) → List (List String) → Except Error (List (List String))
  | _, [] => .ok []
  | index, row :: rest =>
      if columns < row.length then .error (.validation (.tooWide index row.length columns))
      else
        (padRows columns (index + 1) rest).map
          ((row ++ List.replicate (columns - row.length) "") :: ·)

def greatestWidth (rows : List (List String)) : Nat :=
  rows.foldl (fun widest row => max widest row.length) 0

def ofJson (value : Json) (columns : Option (List String)) : Except Error Records :=
  match value with
  | .array [] => .ok { columns := columns.getD [], rows := [] }
  | .array (first :: rest) =>
      let records := first :: rest
      match first with
      | .object fields => do
          let columns := columns.getD (fields.map (·.1))
          let rows ← rowsBy (objectRow? columns) 0 records
          return { columns, rows }
      | .array _ => do
          let rows ← rowsBy arrayRow? 0 records
          let columns :=
            columns.getD ((List.range' 1 (greatestWidth rows)).map numberedColumn)
          let rows ← padRows columns.length 0 rows
          return { columns, rows }
      | _ => do
          let rows ← rowsBy scalarRow? 0 records
          return { columns := columns.getD [scalarColumn], rows }
  | _ => .error (.validation .notAnArray)

end Records
end ReportCards
