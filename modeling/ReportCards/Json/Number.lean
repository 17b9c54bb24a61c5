import ReportCards.Json.Value

namespace ReportCards.Json

structure NumberText where
  negative : Bool
  whole : List Char
  fraction : Option (List Char)
  exponent : Option (Bool × List Char)

structure Gathered where
  significand : Nat := 0
  exponent : Int := 0

def Gathered.push? (n : Nat) (digit : Char) : Option Nat :=
  let longer := 10 * n + (digit.toNat - '0'.toNat)
  if longer < UInt64.size then some longer else none

def Gathered.whole (gathered : Gathered) : List Char → Gathered
  | [] => gathered
  | digit :: rest =>
      match Gathered.push? gathered.significand digit with
      | some significand => Gathered.whole { gathered with significand } rest
      | none => { gathered with exponent := gathered.exponent + (rest.length + 1) }

def Gathered.fraction (gathered : Gathered) : List Char → Gathered
  | [] => gathered
  | digit :: rest =>
      match Gathered.push? gathered.significand digit with
      | some significand =>
          Gathered.fraction { significand, exponent := gathered.exponent - 1 } rest
      | none => gathered

def greatestPower : Nat := 308

/-- `x · 10 ^ exponent`, or nothing when that is beyond all doubles. A very small number is brought
into reach of one division by dividing by the largest power first; `fuel` bounds how often. -/
def scale (x : Float) (exponent : Int) : (fuel : Nat) → Option Float
  | 0 => some 0
  | fuel + 1 =>
      if exponent.natAbs ≤ greatestPower then
        let power := Float.ofScientific 1 false exponent.natAbs
        let scaled := if 0 ≤ exponent then x * power else x / power
        if scaled.isInf then none else some scaled
      else if x == 0 then some x
      else if 0 ≤ exponent then none
      else scale (x / Float.ofScientific 1 false greatestPower) (exponent + greatestPower) fuel

def greatestExponent : Nat := 0x7FFFFFFF

def NumberText.double? (number : NumberText) : Option Float :=
  let gathered := ({} : Gathered).whole number.whole
  let gathered := gathered.fraction (number.fraction.getD [])
  let (negativeExponent, digits) := number.exponent.getD (false, [])
  let written : Nat := Nat.ofDigitChars 10 digits 0
  let magnitude :=
    if greatestExponent < written then
      if gathered.significand ≠ 0 ∧ ¬negativeExponent then none else some 0
    else
      let exponent := if negativeExponent then -(written : Int) else written
      scale (UInt64.ofNat gathered.significand).toFloat (gathered.exponent + exponent) 4
  magnitude.map fun x => if number.negative then -x else x

def NumberText.value? (number : NumberText) : Option Json :=
  let n : Nat := Nat.ofDigitChars 10 number.whole 0
  match number.fraction, number.exponent with
  | none, none =>
      if number.negative then
        if 0 < n ∧ n ≤ UInt64.size / 2 then some (integer (-n)) else number.double?.map double
      else if n < UInt64.size then some (integer n)
      else number.double?.map double
  | _, _ => number.double?.map double

def spanDigits (text : List Char) : List Char × List Char :=
  (text.takeWhile Char.isDigit, text.dropWhile Char.isDigit)

def readFraction : List Char → Option (Option (List Char) × List Char)
  | '.' :: rest =>
      let (digits, rest) := spanDigits rest
      if digits = [] then none else some (some digits, rest)
  | text => some (none, text)

def readExponent (text : List Char) : Option (Option (Bool × List Char) × List Char) :=
  match text with
  | c :: rest =>
      if c = 'e' ∨ c = 'E' then
        let (negative, rest) :=
          match rest with
          | '-' :: rest => (true, rest)
          | '+' :: rest => (false, rest)
          | rest => (false, rest)
        let (digits, rest) := spanDigits rest
        if digits = [] then none else some (some (negative, digits), rest)
      else some (none, text)
  | [] => some (none, [])

def readNumber (text : List Char) : Option (Json × List Char) := do
  let (negative, text) :=
    match text with
    | '-' :: rest => (true, rest)
    | text => (false, text)
  let (whole, rest) := spanDigits text
  if whole = [] ∨ (1 < whole.length ∧ whole.head? = some '0') then none
  else
    let (fraction, rest) ← readFraction rest
    let (exponent, rest) ← readExponent rest
    let value ← NumberText.value? { negative, whole, fraction, exponent }
    return (value, rest)

end ReportCards.Json
