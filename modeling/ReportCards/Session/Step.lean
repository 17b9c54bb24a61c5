import ReportCards.Markup.Element
import ReportCards.Records
import ReportCards.Widget.Report

namespace ReportCards

structure TreeSpec where
  tag : String
  name : Option String := none
  id : Option String := none
  classes : List String := []
  attributes : List (String × String) := []
  text : Option String := none
  children : List TreeSpec := []

inductive RecordSource where
  | rows (columns : List String) (rows : List (List String))
  | json (text : String) (columns : Option (List String))

/-- One step. Where a step finds or builds a node, `name` is the name that the node gets. -/
inductive Step where
  | create (tag : String) (name : Option String)
  | buildTree (spec : TreeSpec)
  | buildChain (tag : String) (depth : Nat) (name : String)
  | setText (node text : String)
  | setId (node id : String)
  | addClass (node class_ : String)
  | setAttribute (node attribute_ value : String)
  | append (parent child : String)
  | remove (parent child : String)
  | outerHtml (node : String)
  | innerHtml (node : String)
  | text (node : String)
  | describe (node : String)
  | getAttribute (node attribute_ : String)
  | hasClass (node class_ : String)
  | children (node : String)
  | parent (node : String) (name : Option String)
  | inspect (node : String)
  | contains (ancestor node : String)
  | same (first second : String)
  | selectFirst (node selector : String) (name : Option String)
  | selectAll (node selector : String) (name : Option String)
  | onClick (node label : String) (reaction : List Step)
  | stop
  | clearHandlers (node : String)
  | countHandlers (node : String)
  | click (node : String)
  | card (container id title : String) (name : Option String)
  | table (container : String) (columns : List String) (name : Option String)
  | cell (row : String) (value : CellValue) (name : Option String)
  | row (body : String) (values : List String) (name : Option String)
  | blankRows (body : String) (count columns : Nat)
  | allGood (container : String) (name : Option String)
  | clearContents (node : String)
  | pager (container : String) (sizing : Sizing) (label : String) (reaction : List Step)
      (name : Option String)
  | renderPager (pager : String) (count index : UInt64) (name : Option String)
  | renderOnce (container : String) (count index : UInt64) (label : String)
      (reaction : List Step) (name : Option String)
  | report (container id title : String) (sizing : Sizing) (source : RecordSource)
      (name : Option String)
  | showReportPage (report : String) (index : UInt64)
  | showTablePage (report : String) (index : UInt64)
  | reportSummary (report : String)

structure Reaction where
  label : String
  steps : List Step

structure NodeSummary where
  tag : String
  text : String
  ownText : String
  classes : List String
  attributes : List (String × String)
  childCount : Nat
  handlerCount : Nat
  place : String
  parent : Option String
  first : Option String
  last : Option String
deriving DecidableEq, Repr

inductive Answer where
  | nothing
  | flag (value : Bool)
  | count (value : Nat)
  | text (value : String)
  | optionalText (value : Option String)
  | texts (values : List String)
  | sizes (sizing : Sizing)
  | node (summary : NodeSummary)
  | report (isAllGood : Bool) (rowCount : Option UInt64)
deriving DecidableEq, Repr

inductive StepError where
  | failed (error : Error)
  | unknownName (name : String)
  | invalidJson
  | unfinished
deriving DecidableEq, Repr

inductive LogEntry where
  | label (text : String)
  | answer (result : Except StepError Answer)

end ReportCards
