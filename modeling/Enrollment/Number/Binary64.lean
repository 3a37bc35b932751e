import Enrollment.Number.Scale

/-!
# Double precision numbers

The magnitude of an IEEE 754 double as an exact value, `significand · 2 ^ exponent`, with rounding
of quotients to the nearest double, ties to the even significand. Every operation here is exact
arithmetic followed by one rounding, which is how the standard defines it; the sign is kept by
whoever needs one.
-/

namespace Enrollment

/-- The magnitude of a double. A finite one has a significand below `2 ^ 53`, and one of at least
`2 ^ 52` unless its exponent is the least one, `-1074`. -/
inductive Binary64 where
  | finite (significand : Nat) (exponent : Int)
  | infinite
  deriving Repr, DecidableEq, Inhabited

namespace Binary64

/-- The leading bit of a significand, which is not stored. -/
def hiddenBit : Nat := 4503599627370496

/-- The quotient rounded to the nearest whole number, a half to the even neighbour. -/
def roundQuotient (num den : Nat) : Nat :=
  let quotient := num / den
  let twice := 2 * (num % den)
  if twice < den then quotient
  else if den < twice then quotient + 1
  else quotient + quotient % 2

/-- Numerator and denominator of `num / den / 2 ^ exponent`. -/
def scaled (num den : Nat) (exponent : Int) : Nat × Nat :=
  (num <<< (-exponent).toNat, den <<< exponent.toNat)

/-- The exponent of the double nearest to a positive quotient: the one that leaves 53 significant
bits, or the least one. -/
def exponentOf (num den : Nat) : Int :=
  let exponent := (num.log2 : Int) - den.log2 - 52
  let fraction := scaled num den exponent
  max (-1074) (if fraction.1 / fraction.2 < hiddenBit then exponent - 1 else exponent)

/-- The double nearest to `num / den`. -/
def ofQuotient (num den : Nat) : Binary64 :=
  if num = 0 then .finite 0 (-1074)
  else
    let exponent := exponentOf num den
    let fraction := scaled num den exponent
    let significand := roundQuotient fraction.1 fraction.2
    let carried :=
      if significand = 2 * hiddenBit then (hiddenBit, exponent + 1) else (significand, exponent)
    if 971 < carried.2 then .infinite else .finite carried.1 carried.2

/-- The double nearest to a whole number. -/
def ofNat (n : Nat) : Binary64 :=
  ofQuotient n 1

def isZero : Binary64 → Bool
  | .finite significand _ => significand = 0
  | .infinite => false

def mul : Binary64 → Binary64 → Binary64
  | .finite m e, .finite n f =>
      let power := e + f
      ofQuotient ((m * n) <<< power.toNat) (1 <<< (-power).toNat)
  | _, _ => .infinite

/-- The quotient of two magnitudes, the second of them positive. -/
def div : Binary64 → Binary64 → Binary64
  | .finite m e, .finite n f =>
      let power := e - f
      ofQuotient (m <<< power.toNat) (n <<< (-power).toNat)
  | .finite _ _, .infinite => .finite 0 (-1074)
  | .infinite, _ => .infinite

instance : Mul Binary64 := ⟨mul⟩
instance : Div Binary64 := ⟨div⟩

/-- The encoding of a magnitude: biased exponent, then the 52 stored bits of the significand. -/
def toBits : Binary64 → UInt64
  | .finite significand exponent =>
      if significand < hiddenBit then significand.toUInt64
      else ((exponent + 1075).toNat * hiddenBit + (significand - hiddenBit)).toUInt64
  | .infinite => 0x7FF0000000000000

end Binary64

end Enrollment
