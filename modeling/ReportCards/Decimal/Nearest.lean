import ReportCards.Decimal.Integer

namespace ReportCards.Decimal

/-- The double nearest to `digits · 10 ^ exponent`. A number whose first digit is beyond place 400
to either side is infinite or zero. -/
def nearest (digits : Nat) (exponent : Int) : Float :=
  let leading := exponent + (Decimal.digits digits).length
  if digits = 0 ∨ leading < -400 then 0
  else if 400 < leading then 1 / 0
  else Float.ofScientific digits (exponent < 0) exponent.natAbs

end ReportCards.Decimal
