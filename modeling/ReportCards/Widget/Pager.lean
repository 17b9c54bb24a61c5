import ReportCards.Paging.Page
import ReportCards.Paging.Window
import ReportCards.Selector.Reader
import ReportCards.Widget.Table

/-!
# Page controls

A pager keeps a control in a container: a list of handles for the pages of a window, between a
handle for the previous and one for the next page. Every rendering reuses the list and fills it
anew, so the handles in it always belong to the rendering that was last.

What a handle does when it is clicked is written down as an action: which pager it belongs to, for
how many records it was rendered, and where it leads.
-/
namespace ReportCards

structure PagedTable where
  body : NodeId
  rows : List (List String)
  columns : Nat
  pageSize : UInt64
deriving DecidableEq, Repr

inductive Listener (ν : Type) where
  | table (table : PagedTable)
  | custom (code : ν)
deriving DecidableEq, Repr

structure Pager (ν : Type) where
  container : NodeId
  sizing : Sizing
  listener : Listener ν
deriving DecidableEq, Repr

/-- Where a handle leads. The handles beside the page numbers look at the list for the page that
is current when they are clicked. -/
inductive Target where
  | previous (list : NodeId)
  | page (index : UInt64)
  | next (list : NodeId) (pageCount : UInt64)
deriving DecidableEq, Repr

inductive Action (ν : Type) where
  | custom (code : ν)
  | turn (pager : Pager ν) (count : UInt64) (target : Target)
deriving DecidableEq, Repr

namespace PagedTable

open Edit

variable {κ : Type}

def rowCount (table : PagedTable) : UInt64 :=
  UInt64.ofNat table.rows.length

def showPage (table : PagedTable) (index : UInt64) : Edit κ Unit := do
  clearContents table.body
  let rows := page table.rows index table.pageSize
  rows.forM fun row => do
    let _ ← addRow table.body row
  addBlankRows table.body (table.pageSize - UInt64.ofNat rows.length).toNat table.columns

end PagedTable

namespace Pager

open Edit

variable {ν κ : Type}

def previousLabel : String := "«"
def nextLabel : String := "»"
def ellipsisLabel : String := "…"

def listClass : String := "pagination"

def listSelector : String := "ul.pagination"

def activeClass : String := "active"

def activeSelector : String := "a.active"

def indexAttribute : String := "data-index"

def activeIndex (doc : Document κ) (list : NodeId) : Option UInt64 :=
  match doc.selectFirst list activeSelector with
  | .ok (some handle) => doc.getAttribute handle indexAttribute >>= Decimal.wordOf?
  | _ => none

def addHandle (list : NodeId) (label : String) : Edit κ NodeId := do
  let item ← create "li"
  let link ← create "a"
  setText link label
  append item link
  append list item
  return link

/-- The control in a container: the list that is there, or else a new one. -/
def findOrCreateList (container : NodeId) : Edit κ NodeId := do
  match (← get).selectFirst container listSelector with
  | .error error => throw error
  | .ok (some list) => return list
  | .ok none =>
      let list ← createWithClasses "ul" [listClass]
      append container list
      return list

def addPageHandle (pager : Pager ν) (list : NodeId) (count : UInt64) (window : PageWindow)
    (index : UInt64) : Edit (Action ν) Unit := do
  let handle ← addHandle list (Decimal.ofWord (index + 1))
  setAttribute handle indexAttribute (Decimal.ofWord index)
  if window.isCurrent index then addClass handle activeClass
  onClick handle (.turn pager count (.page index))

def fillList (pager : Pager ν) (list : NodeId) (count : UInt64) (window : PageWindow) :
    Edit (Action ν) Unit := do
  let previous ← addHandle list previousLabel
  onClick previous (.turn pager count (.previous list))
  if window.hidesEarlier then let _ ← addHandle list ellipsisLabel
  window.pages.forM (pager.addPageHandle list count window)
  if window.hidesLater then let _ ← addHandle list ellipsisLabel
  let next ← addHandle list nextLabel
  onClick next (.turn pager count (.next list window.pageCount))

/-- Render the control for `count` records with page `index` current. When everything fits on one
page there is no control, and the container is left alone. -/
def render (pager : Pager ν) (count index : UInt64) : Edit (Action ν) (Option NodeId) := do
  if pager.sizing.needsPages count then
    let window := pager.sizing.window count index
    let list ← findOrCreateList pager.container
    clearContents list
    pager.fillList list count window
    return some list
  else return none

end Pager
end ReportCards
