/-!
# Hexadecimal text

Bytes as lowercase hexadecimal digits, two to a byte, and the value of a hexadecimal digit of
either case.
-/

namespace Enrollment.Hex

/-- The lowercase digit of a number below sixteen. -/
def digit (n : Nat) : Char :=
  Nat.digitChar n

/-- The two digits of a byte, the high one first. -/
def ofByte (b : UInt8) : List Char :=
  [digit (b.toNat / 16), digit (b.toNat % 16)]

def encode (bytes : List UInt8) : List Char :=
  bytes.flatMap ofByte

/-- The value of a digit, of either case. -/
def value? (c : Char) : Option Nat :=
  if '0' ≤ c ∧ c ≤ '9' then some (c.toNat - '0'.toNat)
  else if 'a' ≤ c ∧ c ≤ 'f' then some (c.toNat - 'a'.toNat + 10)
  else if 'A' ≤ c ∧ c ≤ 'F' then some (c.toNat - 'A'.toNat + 10)
  else none

theorem length_encode (bytes : List UInt8) : (encode bytes).length = 2 * bytes.length := by
  induction bytes with
  | nil => rfl
  | cons b bytes ih => simp [encode, ofByte] at ih ⊢; omega

end Enrollment.Hex
