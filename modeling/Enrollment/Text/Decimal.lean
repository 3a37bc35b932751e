/-!
# Decimal numerals

Natural numbers as decimal digits. `read?` accepts an optional plus sign and one or more ASCII
digits, leading zeros included, whose value does not exceed a bound; `write` gives the shortest
numeral.
-/

namespace Enrollment.Decimal

/-- The value of a row of digits. -/
def value (digits : List Char) : Nat :=
  Nat.ofDigitChars 10 digits 0

/-- A non-empty row of ASCII digits. -/
def isNumeral (digits : List Char) : Bool :=
  !digits.isEmpty && digits.all Char.isDigit

def unsigned : List Char → List Char
  | '+' :: digits => digits
  | digits => digits

/-- The number a numeral stands for, if it is at most `bound`. -/
def read? (bound : Nat) (cs : List Char) : Option Nat :=
  let digits := unsigned cs
  if isNumeral digits && value digits ≤ bound then some (value digits) else none

/-- The shortest numeral of a number. -/
def write (n : Nat) : List Char :=
  Nat.toDigits 10 n

theorem value_write (n : Nat) : value (write n) = n :=
  Nat.ofDigitChars_toDigits (by decide) (by decide)

end Enrollment.Decimal
