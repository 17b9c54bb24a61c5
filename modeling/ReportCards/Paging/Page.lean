import ReportCards.Paging.Word

namespace ReportCards

def pageBounds (length index pageSize : UInt64) : UInt64 × UInt64 :=
  let start := min (Word.multiply index pageSize) length
  let stop := min (Word.add start pageSize) length
  (start, stop)

def page {α : Type} (items : List α) (index pageSize : UInt64) : List α :=
  let (start, stop) := pageBounds (UInt64.ofNat items.length) index pageSize
  (items.drop start.toNat).take (stop.toNat - start.toNat)

def integersBetween (first last : Int) : List Int :=
  (List.range (last - first + 1).toNat).map fun offset : Nat => first + offset

end ReportCards
