namespace ReportCards.Word

def greatest : UInt64 := 0xFFFFFFFFFFFFFFFF

def subtract (a b : UInt64) : UInt64 :=
  if a < b then 0 else a - b

def add (a b : UInt64) : UInt64 :=
  if a.toNat + b.toNat < UInt64.size then a + b else greatest

def multiply (a b : UInt64) : UInt64 :=
  if a.toNat * b.toNat < UInt64.size then a * b else greatest

@[simp] theorem toNat_greatest : greatest.toNat = UInt64.size - 1 := rfl

@[simp] theorem toNat_subtract (a b : UInt64) : (subtract a b).toNat = a.toNat - b.toNat := by
  unfold subtract
  split
  case isTrue less =>
    rw [UInt64.lt_iff_toNat_lt] at less
    simp only [UInt64.toNat_zero]
    omega
  case isFalse notLess =>
    rw [UInt64.not_lt] at notLess
    exact UInt64.toNat_sub_of_le a b notLess

@[simp] theorem toNat_add (a b : UInt64) :
    (add a b).toNat = min (a.toNat + b.toNat) (UInt64.size - 1) := by
  unfold add
  split
  case isTrue fits =>
    rw [UInt64.toNat_add, Nat.mod_eq_of_lt fits]
    simp only [UInt64.size] at fits ⊢
    omega
  case isFalse large =>
    simp only [UInt64.size] at large
    simp only [toNat_greatest, UInt64.size]
    omega

@[simp] theorem toNat_multiply (a b : UInt64) :
    (multiply a b).toNat = min (a.toNat * b.toNat) (UInt64.size - 1) := by
  unfold multiply
  split
  case isTrue fits =>
    rw [UInt64.toNat_mul, Nat.mod_eq_of_lt fits]
    simp only [UInt64.size] at fits ⊢
    omega
  case isFalse large =>
    simp only [UInt64.size] at large
    simp only [toNat_greatest, UInt64.size]
    omega

end ReportCards.Word
