namespace ReportCards.Decimal

def digits (n : Nat) : List Char :=
  Nat.toDigits 10 n

def ofNat (n : Nat) : String :=
  String.ofList (digits n)

def ofInt : Int → String
  | .ofNat n => ofNat n
  | .negSucc n => String.ofList ('-' :: digits (n + 1))

def ofWord (n : UInt64) : String :=
  ofNat n.toNat

def natOfDigits? (text : List Char) : Option Nat :=
  if text ≠ [] ∧ text.all Char.isDigit then some (Nat.ofDigitChars 10 text 0) else none

def wordOf? (text : String) : Option UInt64 := do
  let unsigned := match text.toList with
    | '+' :: rest => rest
    | text => text
  let n ← natOfDigits? unsigned
  if n < UInt64.size then some (UInt64.ofNat n) else none

theorem natOfDigits?_digits (n : Nat) : natOfDigits? (digits n) = some n := by
  have nonempty : digits n ≠ [] := by
    simp only [digits]
    rw [Nat.toDigits_eq_if (by decide)]
    split <;> simp
  have allDigits : (digits n).all Char.isDigit := by
    rw [List.all_eq_true]
    intro c member
    exact Nat.isDigit_of_mem_toDigits (by decide) (by decide) member
  simp [natOfDigits?, nonempty, allDigits]
  exact Nat.ofDigitChars_toDigits (by decide) (by decide)

theorem wordOf?_ofWord (n : UInt64) : wordOf? (ofWord n) = some n := by
  have read := natOfDigits?_digits n.toNat
  have small : n.toNat < UInt64.size := n.toNat_lt_size
  simp only [wordOf?, ofWord, ofNat, String.toList_ofList]
  split
  case h_1 rest equal =>
    rw [equal] at read
    simp [natOfDigits?, Char.isDigit] at read
  case h_2 => simp [read, small]

end ReportCards.Decimal
