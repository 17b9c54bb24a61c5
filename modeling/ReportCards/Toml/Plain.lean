import ReportCards.Decimal.Nearest
import ReportCards.Text.Digit
import ReportCards.Text.Split
import ReportCards.Toml.Text
import ReportCards.Toml.Value

namespace ReportCards.Toml

open Text

def isPlainValue (c : Char) : Bool :=
  c.isAlphanum || c = '+' || c = '-' || c = '_' || c = '.' || c = ':'

/-! ## Numbers -/

def joinDigits? (base : Nat) (text : List Char) : Option (List Char) :=
  let groups := splitOn (· = '_') text
  if groups.all fun group => group ≠ [] && group.all fun c => (digit? base c).isSome then
    some groups.flatten
  else none

def wholeDigits? (text : List Char) : Option (List Char) :=
  if text.head? = some '0' ∧ text ≠ ['0'] then none else joinDigits? 10 text

def splitSign : List Char → Bool × List Char
  | '-' :: rest => (true, rest)
  | '+' :: rest => (false, rest)
  | text => (false, text)

def integerOf? (negative : Bool) (n : Nat) : Option Toml :=
  let limit := UInt64.size / 2
  if negative then if n ≤ limit then some (.integer (-n)) else none
  else if n < limit then some (.integer n) else none

def readInteger (text : List Char) : Option Toml :=
  let based (base : Nat) (rest : List Char) : Option Toml := do
    let n ← number? base (← joinDigits? base rest)
    integerOf? false n
  match text with
  | '0' :: 'x' :: rest => based 16 rest
  | '0' :: 'o' :: rest => based 8 rest
  | '0' :: 'b' :: rest => based 2 rest
  | _ => do
      let (negative, rest) := splitSign text
      let n ← number? 10 (← wholeDigits? rest)
      integerOf? negative n

def splitExponent (text : List Char) : List Char × Option (List Char) :=
  let isMark (c : Char) : Bool := c = 'e' || c = 'E'
  match text.dropWhile fun c => !isMark c with
  | [] => (text, none)
  | _ :: exponent => (text.takeWhile fun c => !isMark c, some exponent)

def readExponent (text : List Char) : Option Int := do
  let (negative, rest) := splitSign text
  let n ← number? 10 (← joinDigits? 10 rest)
  return if negative then -(n : Int) else n

def readMagnitude (text : List Char) : Option Float := do
  let (mantissa, exponent?) := splitExponent text
  let (whole, fraction?) :=
    match splitOnce '.' mantissa with
    | some (whole, fraction) => (whole, some fraction)
    | none => (mantissa, none)
  if exponent?.isNone ∧ fraction?.isNone then none
  else
    let whole ← wholeDigits? whole
    let fraction ← fraction?.elim (some []) (joinDigits? 10)
    let exponent ← exponent?.elim (some 0) readExponent
    let digits ← number? 10 (whole ++ fraction)
    return Decimal.nearest digits (exponent - fraction.length)

/-- The double of a text. Beyond the range of doubles a positive number is refused, and a negative
one is minus infinity. -/
def readDouble (text : List Char) : Option Toml := do
  let (negative, rest) := splitSign text
  match rest with
  | ['i', 'n', 'f'] => return .double (if negative then -1 / 0 else 1 / 0)
  | ['n', 'a', 'n'] => return .double (0 / 0)
  | _ =>
      let magnitude ← readMagnitude rest
      if negative then return .double (-magnitude)
      else if magnitude.isInf then none
      else return .double magnitude

/-! ## Dates and times -/

def readDigits (digits : Nat) (text : List Char) : Option (Nat × List Char) :=
  if digits ≤ text.length then
    (number? 10 (text.take digits)).map fun n => (n, text.drop digits)
  else none

def expect (c : Char) : List Char → Option (List Char)
  | [] => none
  | first :: rest => if first = c then some rest else none

def isLeapYear (year : Nat) : Bool :=
  year % 4 = 0 && (year % 100 ≠ 0 || year % 400 = 0)

def daysIn? (year month : Nat) : Option Nat :=
  if month = 2 then some (if isLeapYear year then 29 else 28)
  else if month ∈ [4, 6, 9, 11] then some 30
  else if 1 ≤ month ∧ month ≤ 12 then some 31
  else none

def dropDate? (text : List Char) : Option (List Char) := do
  let (year, rest) ← readDigits 4 text
  let (month, rest) ← readDigits 2 (← expect '-' rest)
  let (day, rest) ← readDigits 2 (← expect '-' rest)
  let days ← daysIn? year month
  if 1 ≤ day ∧ day ≤ days then some rest else none

def dropHourAndMinute? (text : List Char) : Option (List Char) := do
  let (hour, rest) ← readDigits 2 text
  let (minute, rest) ← readDigits 2 (← expect ':' rest)
  if hour ≤ 23 ∧ minute ≤ 59 then some rest else none

def dropTime? (text : List Char) : Option (List Char) := do
  let rest ← dropHourAndMinute? text
  let (second, rest) ← readDigits 2 (← expect ':' rest)
  if 60 < second then none
  else
    match rest with
    | '.' :: fraction =>
        if fraction.takeWhile Char.isDigit = [] then none
        else some (fraction.dropWhile Char.isDigit)
    | rest => some rest

def isOffset : List Char → Bool
  | [] => true
  | ['Z'] | ['z'] => true
  | '+' :: rest | '-' :: rest => dropHourAndMinute? rest = some []
  | _ => false

def isTimeWithOffset (text : List Char) : Bool :=
  (dropTime? text).any isOffset

def readMoment (text : List Char) : Option Toml :=
  let isMoment :=
    match dropDate? text with
    | some [] => true
    | some ('T' :: rest) | some ('t' :: rest) => isTimeWithOffset rest
    | some _ => false
    | none => dropTime? text = some []
  if isMoment then some (.moment (String.ofList text)) else none

/-! ## All plain values -/

def plainValue? (text : List Char) : Option Toml :=
  match text with
  | ['t', 'r', 'u', 'e'] => some (.boolean true)
  | ['f', 'a', 'l', 's', 'e'] => some (.boolean false)
  | _ => readInteger text <|> readDouble text <|> readMoment text

def readPlain (text : List Char) : Option (Toml × List Char) :=
  let value := text.takeWhile isPlainValue
  let rest := text.dropWhile isPlainValue
  match dropDate? value, rest with
  | some [], ' ' :: more =>
      let time := more.takeWhile isPlainValue
      if isTimeWithOffset time then
        some (.moment (String.ofList (value ++ ' ' :: time)), more.dropWhile isPlainValue)
      else (plainValue? value).map fun value => (value, rest)
  | _, _ => (plainValue? value).map fun value => (value, rest)

end ReportCards.Toml
