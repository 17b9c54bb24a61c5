/-!
# The shortest decimal of a double

A double is m · 2^q. Every real number between its two midpoints to the neighbouring doubles reads
back as the same double. The shortest decimal is found on ever finer decimal grids: for one, two, …
digits the two neighbours of the value on that grid are tried, and the first grid on which one of
them lies between the midpoints decides. If both do, the nearer one is taken.

All comparisons are of natural numbers and exact.
-/
namespace ReportCards.Decimal

inductive Tie where
  | even
  | up
deriving DecidableEq, Repr

structure Binary where
  mantissa : Nat
  exponent : Int
  isLowest : Bool := false
deriving DecidableEq, Repr

structure Scaled where
  digits : Nat
  exponent : Int
deriving DecidableEq, Repr

def Binary.ofBits (bits : UInt64) : Binary :=
  let fraction := (bits &&& 0xFFFFFFFFFFFFF).toNat
  let scale := ((bits >>> 52) &&& 0x7FF).toNat
  if scale = 0 then { mantissa := fraction, exponent := -1074 }
  else
    { mantissa := 0x10000000000000 + fraction
      exponent := (scale : Int) - 1075
      isLowest := fraction = 0 && 1 < scale }

def times (a p k : Nat) : Nat :=
  a * Nat.pow 2 p * Nat.pow 10 k

def compareScaled (a : Nat) (p : Int) (b : Nat) (k : Int) : Ordering :=
  compare (times a p.toNat (-k).toNat) (times b (-p).toNat k.toNat)

namespace Binary

/-- Whether `d · 10 ^ k` reads back as the value. The midpoints themselves do when the mantissa is
even. -/
def readsBack (value : Binary) (d : Nat) (k : Int) : Bool :=
  let low := 4 * value.mantissa - if value.isLowest then 1 else 2
  let high := 4 * value.mantissa + 2
  let p := value.exponent - 2
  match compareScaled low p d k, compareScaled high p d k with
  | .lt, .gt => true
  | .eq, _ | _, .eq => value.mantissa % 2 = 0
  | _, _ => false

def floorOn (value : Binary) (k : Int) : Nat :=
  times value.mantissa value.exponent.toNat (-k).toNat / times 1 (-value.exponent).toNat k.toNat

def leadingExponent (value : Binary) : (fuel : Nat) → (guess : Int) → Int
  | 0, guess => guess
  | fuel + 1, guess =>
      if 0 < value.floorOn guess then guess else value.leadingExponent fuel (guess - 1)

def onGrid? (value : Binary) (tie : Tie) (k : Int) : Option Scaled :=
  let low := value.floorOn k
  let high := low + 1
  match value.readsBack low k, value.readsBack high k with
  | false, false => none
  | true, false => some ⟨low, k⟩
  | false, true => some ⟨high, k⟩
  | true, true =>
      match compareScaled (2 * value.mantissa) value.exponent (low + high) k with
      | .lt => some ⟨low, k⟩
      | .gt => some ⟨high, k⟩
      | .eq => some ⟨if tie = .even ∧ low % 2 = 0 then low else high, k⟩

def firstGrid (value : Binary) (tie : Tie) : (grids : Nat) → (k : Int) → Scaled
  | 0, k => ⟨value.floorOn k, k⟩
  | grids + 1, k =>
      match value.onGrid? tie k with
      | some decimal => decimal
      | none => value.firstGrid tie grids (k - 1)

end Binary

def Scaled.trimZeros : (fuel : Nat) → Scaled → Scaled
  | 0, decimal => decimal
  | fuel + 1, decimal =>
      if decimal.digits ≠ 0 ∧ decimal.digits % 10 = 0 then
        trimZeros fuel ⟨decimal.digits / 10, decimal.exponent + 1⟩
      else decimal

/-- The decimal with the fewest digits that reads back as the value, and of those the nearest. A
double needs at most 17 digits, and the exponent of its first digit is at most 308 and at least
-324. -/
def Binary.shortest (value : Binary) (tie : Tie) : Scaled :=
  if value.mantissa = 0 then ⟨0, 0⟩
  else (value.firstGrid tie 17 (value.leadingExponent 640 309)).trimZeros 20

end ReportCards.Decimal
