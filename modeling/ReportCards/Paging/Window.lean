import ReportCards.Paging.Sizing

namespace ReportCards

structure PageWindow where
  start : UInt64
  stop : UInt64
  current : UInt64
  pageCount : UInt64
deriving DecidableEq, Repr

namespace PageWindow

/-- The window around page `index` of `pageCount` pages; an index past the end means the last
page. -/
def around (sizing : Sizing) (pageCount index : UInt64) : PageWindow :=
  let current := min index (Word.subtract pageCount 1)
  let (start, stop) :=
    if pageCount ≤ sizing.maxHandles then (0, pageCount)
    else
      let start := Word.subtract current sizing.side
      let stop := start + sizing.maxHandles
      if pageCount < stop then (Word.subtract pageCount sizing.maxHandles, pageCount)
      else (start, stop)
  { start, stop, current, pageCount }

/-- The window around a page needs no sum, or one that fits into a word. -/
def SumFits (sizing : Sizing) (pageCount index : UInt64) : Prop :=
  pageCount ≤ sizing.maxHandles ∨
    (Word.subtract (min index (Word.subtract pageCount 1)) sizing.side).toNat
      + sizing.maxHandles.toNat < UInt64.size

instance (sizing : Sizing) (pageCount index : UInt64) :
    Decidable (SumFits sizing pageCount index) :=
  inferInstanceAs (Decidable (_ ∨ _))

def size (window : PageWindow) : UInt64 :=
  window.stop - window.start

def isEmpty (window : PageWindow) : Bool :=
  window.start = window.stop

def firstPages (window : PageWindow) (limit : Nat) : List UInt64 :=
  (List.range' window.start.toNat (min limit (window.stop.toNat - window.start.toNat))).map
    UInt64.ofNat

def pages (window : PageWindow) : List UInt64 :=
  window.firstPages (window.stop.toNat - window.start.toNat)

def hidesEarlier (window : PageWindow) : Bool :=
  0 < window.start

def hidesLater (window : PageWindow) : Bool :=
  window.stop < window.pageCount

def isCurrent (window : PageWindow) (index : UInt64) : Bool :=
  window.current = index

def previous (window : PageWindow) : Option UInt64 :=
  if window.current = 0 then none else some (window.current - 1)

def next (window : PageWindow) : Option UInt64 :=
  if window.current + 1 < window.pageCount then some (window.current + 1) else none

theorem pageCount_around (sizing : Sizing) (pageCount index : UInt64) :
    (around sizing pageCount index).pageCount = pageCount := rfl

theorem current_around (sizing : Sizing) (pageCount index : UInt64) :
    (around sizing pageCount index).current = min index (Word.subtract pageCount 1) := rfl

end PageWindow

def Sizing.window (sizing : Sizing) (count index : UInt64) : PageWindow :=
  .around sizing (sizing.pageCount count) index

end ReportCards
