import ReportCards.Error
import ReportCards.Paging.Word

namespace ReportCards

structure Sizing where
  pageSize : UInt64 := 5
  maxHandles : UInt64 := 5
deriving DecidableEq, Repr, Inhabited

namespace Sizing

def validate (sizing : Sizing) : Except Error Unit :=
  if sizing.pageSize = 0 then .error (.validation .zeroPageSize)
  else if sizing.maxHandles = 0 then .error (.validation .zeroMaxHandles)
  else .ok ()

def ofSizes (pageSize maxHandles : UInt64) : Except Error Sizing := do
  let sizing : Sizing := { pageSize, maxHandles }
  sizing.validate
  return sizing

def side (sizing : Sizing) : UInt64 :=
  Word.subtract sizing.maxHandles 1 / 2

def pageCount (sizing : Sizing) (count : UInt64) : UInt64 :=
  if sizing.pageSize = 0 then 0
  else
    let whole := count / sizing.pageSize
    if count % sizing.pageSize = 0 then whole else whole + 1

def needsPages (sizing : Sizing) (count : UInt64) : Bool :=
  sizing.pageSize < count

theorem validate_eq_ok_iff (sizing : Sizing) :
    sizing.validate = .ok () ↔ sizing.pageSize ≠ 0 ∧ sizing.maxHandles ≠ 0 := by
  by_cases page : sizing.pageSize = 0
  · simp [validate, page]
  · by_cases handles : sizing.maxHandles = 0 <;> simp [validate, page, handles]

end Sizing
end ReportCards
