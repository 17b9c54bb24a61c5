import ReportCards.Decimal.Integer
import ReportCards.Decimal.Shortest

namespace ReportCards.Decimal

structure Notation where
  /-- The exponents of the first digit that are written without an exponent, or all. -/
  positional : Option (Int × Int)
  keepPoint : Bool
  tie : Tie

namespace Notation

def data : Notation :=
  { positional := some (-5, 15), keepPoint := true, tie := .even }

def plain : Notation :=
  { positional := none, keepPoint := false, tie := .up }

def placePoint (keepPoint : Bool) (ds : List Char) (whole : Int) : List Char :=
  if whole ≤ 0 then '0' :: '.' :: List.replicate (-whole).toNat '0' ++ ds
  else
    let places := whole.toNat
    if places < ds.length then ds.take places ++ '.' :: ds.drop places
    else ds ++ List.replicate (places - ds.length) '0' ++ (if keepPoint then ['.', '0'] else [])

def withExponent (ds : List Char) (exponent : Int) : List Char :=
  let mantissa :=
    match ds with
    | first :: second :: rest => first :: '.' :: second :: rest
    | ds => ds
  mantissa ++ 'e' :: (if exponent < 0 then '-' else '+') :: digits exponent.natAbs

def layOut (style : Notation) (decimal : Scaled) : List Char :=
  let ds := digits decimal.digits
  let leading : Int := decimal.exponent + ds.length - 1
  let isPositional :=
    decimal.digits = 0 || style.positional.all fun (low, high) => low ≤ leading && leading ≤ high
  if isPositional then placePoint style.keepPoint ds (leading + 1)
  else withExponent ds leading

def write (style : Notation) (x : Float) : String :=
  let bits := x.toBits
  let sign := if bits >>> 63 = 1 then ['-'] else []
  if x.isNaN then "NaN"
  else if x.isInf then String.ofList (sign ++ ['i', 'n', 'f'])
  else String.ofList (sign ++ style.layOut ((Binary.ofBits bits).shortest style.tie))

end Notation
end ReportCards.Decimal
