import ReportCards.Widget.Report

namespace ReportCards

inductive Operation (ν : Type) : Type → Type where
  | create (tag : String) : Operation ν NodeId
  | setText (n : NodeId) (text : String) : Operation ν Unit
  | setId (n : NodeId) (id : String) : Operation ν Unit
  | addClass (n : NodeId) (name : String) : Operation ν Unit
  | setAttribute (n : NodeId) (name value : String) : Operation ν Unit
  | append (parent child : NodeId) : Operation ν Unit
  | remove (parent child : NodeId) : Operation ν Unit
  | onClick (n : NodeId) (action : Action ν) : Operation ν Unit
  | clearHandlers (n : NodeId) : Operation ν Unit
  | clearContents (n : NodeId) : Operation ν Unit
  | createCard (container : NodeId) (id title : String) : Operation ν Card
  | createTable (container : NodeId) (columns : List String) : Operation ν NodeId
  | addCell (row : NodeId) (value : CellValue) : Operation ν NodeId
  | addRow (body : NodeId) (values : List String) : Operation ν NodeId
  | addBlankRows (body : NodeId) (count columns : Nat) : Operation ν Unit
  | showAllGood (container : NodeId) : Operation ν NodeId
  | showTablePage (table : PagedTable) (index : UInt64) : Operation ν Unit
  | renderPager (pager : Pager ν) (count index : UInt64) : Operation ν (Option NodeId)
  | renderReport (container : NodeId) (spec : ReportSpec) (rows : List (List String))
      (sizing : Sizing) : Operation ν (Report ν)
  | showReportPage (report : Report ν) (index : UInt64) : Operation ν Unit

def Operation.edit {ν α : Type} : Operation ν α → Edit (Action ν) α
  | create tag => Edit.create tag
  | setText n text => Edit.setText n text
  | setId n id => Edit.setId n id
  | addClass n name => Edit.addClass n name
  | setAttribute n name value => Edit.setAttribute n name value
  | append parent child => Edit.append parent child
  | remove parent child => Edit.remove parent child
  | onClick n action => Edit.onClick n action
  | clearHandlers n => Edit.clearHandlers n
  | clearContents n => Edit.clearContents n
  | createCard container id title => ReportCards.createCard container id title
  | createTable container columns => ReportCards.createTable container columns
  | addCell row value => ReportCards.addCell row value
  | addRow body values => ReportCards.addRow body values
  | addBlankRows body count columns => ReportCards.addBlankRows body count columns
  | showAllGood container => ReportCards.showAllGood container
  | showTablePage table index => table.showPage index
  | renderPager pager count index => pager.render count index
  | renderReport container spec rows sizing => Report.render container spec rows sizing
  | showReportPage report index => report.showPage index

def Operation.apply {ν α : Type} (operation : Operation ν α) (doc : Document (Action ν)) :
    Except Error α × Document (Action ν) :=
  match operation.edit.run doc with
  | .ok result doc => (.ok result, doc)
  | .error error doc => (.error error, doc)

end ReportCards
