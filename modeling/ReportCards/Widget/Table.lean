import ReportCards.Decimal.Notation
import ReportCards.Widget.Contents

namespace ReportCards

inductive CellValue where
  | text (value : String)
  | flag (value : Bool)
  | integer (value : Int)
  | double (value : Float)

def CellValue.shown : CellValue → String
  | text value => value
  | flag true => "true"
  | flag false => "false"
  | integer value => Decimal.ofInt value
  | double value => Decimal.Notation.plain.write value

/-- The content of a blank cell: a no-break space, which keeps the height of the row. -/
def placeholder : String := "\u00a0"

open Edit

variable {κ : Type}

def createTable (container : NodeId) (columns : List String) : Edit κ NodeId := do
  let table ← create "table"
  let head ← create "thead"
  let body ← create "tbody"
  let row ← create "tr"
  columns.forM fun column => do
    let cell ← create "th"
    setText cell column
    append row cell
  append head row
  append table head
  append table body
  append container table
  return body

def addCell (row : NodeId) (value : CellValue) : Edit κ NodeId := do
  let cell ← create "td"
  setText cell value.shown
  append row cell
  return cell

def addRow (body : NodeId) (values : List String) : Edit κ NodeId := do
  let row ← create "tr"
  values.forM fun value => do
    let _ ← addCell row (.text value)
  append body row
  return row

def addBlankRows (body : NodeId) (count columns : Nat) : Edit κ Unit :=
  (List.replicate count (List.replicate columns placeholder)).forM fun values => do
    let _ ← addRow body values

end ReportCards
