import ReportCards.Widget.Card
import ReportCards.Widget.Notice
import ReportCards.Widget.Pager

namespace ReportCards

structure ReportSpec where
  id : String
  title : String
  columns : List String
deriving DecidableEq, Repr

structure PagedContent (ν : Type) where
  table : PagedTable
  pager : Pager ν
deriving DecidableEq, Repr

structure Report (ν : Type) where
  card : Card
  content : Option (PagedContent ν)
deriving DecidableEq, Repr

namespace Report

open Edit

variable {ν : Type}

def isAllGood (report : Report ν) : Bool :=
  report.content.isNone

def createContent (card : Card) (columns : List String) (rows : List (List String))
    (sizing : Sizing) : Edit (Action ν) (PagedContent ν) := do
  let body ← createTable card.content columns
  let table : PagedTable := { body, rows, columns := columns.length, pageSize := sizing.pageSize }
  table.showPage 0
  let pager : Pager ν := { container := card.action, sizing, listener := .table table }
  let _ ← pager.render table.rowCount 0
  return { table, pager }

def render (container : NodeId) (spec : ReportSpec) (rows : List (List String))
    (sizing : Sizing) : Edit (Action ν) (Report ν) := do
  match sizing.validate with
  | .error error => throw error
  | .ok () =>
      let card ← createCard container spec.id spec.title
      if rows = [] then
        let _ ← showAllGood card.content
        return { card, content := none }
      else
        let content ← createContent card spec.columns rows sizing
        return { card, content := some content }

/-- Show a page in the table and in the control; an index past the end means the last page. -/
def showPage (report : Report ν) (index : UInt64) : Edit (Action ν) Unit := do
  match report.content with
  | none => return ()
  | some { table, pager } =>
      let count := table.rowCount
      let index := min index (Word.subtract (pager.sizing.pageCount count) 1)
      table.showPage index
      let _ ← pager.render count index

end Report
end ReportCards
