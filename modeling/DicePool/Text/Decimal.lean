/-!
# Decimal numerals

Whole numbers are written and read in base ten. A written number has no leading
zero, a read one may; the law says that reading undoes writing.
-/

namespace DicePool.Decimal

/-- The digits of `n`, most significant first, without leading zeros. -/
def digits (n : Nat) : List Char := Nat.toDigits 10 n

/-- The number that a run of digits denotes. -/
def value (run : List Char) : Nat := Nat.ofDigitChars 10 run 0

/-- A negative number carries its sign in front of its digits. -/
def signed (n : Int) : List Char :=
  if n < 0 then '-' :: digits n.natAbs else digits n.natAbs

/-- The text of a 64-bit integer. -/
def ofInt64 (n : Int64) : List Char := signed n.toInt

/-- The digits of a number are read back as the number. -/
@[simp] theorem value_digits (n : Nat) : value (digits n) = n :=
  Nat.ofDigitChars_ten_toDigits

/-- Every number has a digit. -/
theorem digits_ne_nil (n : Nat) : digits n ≠ [] := Nat.toDigits_ne_nil

/-- The digits of a number are decimal digits. -/
theorem isDigit_of_mem_digits {n : Nat} {c : Char} (h : c ∈ digits n) : c.isDigit = true :=
  Nat.isDigit_of_mem_toDigits (by decide) (by decide) h

end DicePool.Decimal
