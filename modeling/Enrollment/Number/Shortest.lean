import Enrollment.Number.Binary64

/-!
# Shortest decimal digits

The fewest decimal digits that read back as a given double, and of all such digits the ones nearest
to it. A double stands for every real number that rounds to it: an interval whose ends count when
the significand is even. With `n` digits only the two neighbours of the double on the grid of step
`10 ^ (p + 1 - n)` can be nearest, where `10 ^ p` is the power of ten just below it, so the first
`n` with a neighbour in the interval gives the answer; seventeen digits always suffice.
-/

namespace Enrollment.Shortest

/-- `digits · 10 ^ exponent`. -/
structure Decimal where
  digits : Nat
  exponent : Int
  deriving Repr, DecidableEq, Inhabited

def width (n : Nat) : Nat :=
  (Nat.toDigits 10 n).length

/-- The exponent of the greatest power of ten that is at most the positive quotient. -/
def magnitude (num den : Nat) : Int :=
  let guess := (width num : Int) - width den
  if den * powerOfTen guess.toNat ≤ num * powerOfTen (-guess).toNat then guess else guess - 1

/-- Quarters of the last bit, as multiples of `2 ^ exponent`, around a double: its value and the two
ends of the interval that rounds to it. -/
structure Interval where
  value : Nat
  lower : Nat
  upper : Nat
  exponent : Int
  closed : Bool

/-- The reals that round to a positive finite double. Below a power of two the doubles are twice as
dense. -/
def interval (significand : Nat) (exponent : Int) : Interval where
  value := 4 * significand
  lower := 4 * significand - if significand = Binary64.hiddenBit ∧ -1074 < exponent then 1 else 2
  upper := 4 * significand + 2
  exponent := exponent - 2
  closed := significand % 2 = 0

/-- `point · 10 ^ exponent` and `bound · 2 ^ i.exponent` as numbers of one scale. -/
private def onScale (i : Interval) (exponent : Int) (point bound : Nat) : Nat × Nat :=
  ((point * powerOfTen exponent.toNat) <<< (-i.exponent).toNat,
    (bound * powerOfTen (-exponent).toNat) <<< i.exponent.toNat)

def Interval.contains (i : Interval) (exponent : Int) (point : Nat) : Bool :=
  let low := onScale i exponent point i.lower
  let high := onScale i exponent point i.upper
  if i.closed then low.2 ≤ low.1 && high.1 ≤ high.2 else low.2 < low.1 && high.1 < high.2

/-- The neighbours of the value on the grid of step `10 ^ exponent` that lie in the interval, the
nearer one first and an even one before an odd one. -/
def neighbour? (i : Interval) (exponent : Int) : Option Decimal :=
  let scales := onScale i exponent 1 i.value
  let below := scales.2 / scales.1
  let twice := 2 * (scales.2 % scales.1)
  let belowFirst := twice < scales.1 || (twice == scales.1 && below % 2 == 0)
  let candidates := if belowFirst then [below, below + 1] else [below + 1, below]
  (candidates.find? (i.contains exponent)).map (⟨·, exponent⟩)

/-- The first grid, from one digit up to seventeen, with a neighbour in the interval. -/
def digits (significand : Nat) (exponent : Int) : Decimal :=
  let i := interval significand exponent
  let scales := onScale i 0 1 i.value
  let top := magnitude scales.2 scales.1
  ((List.range 17).findSome? fun (n : Nat) => neighbour? i (top - n)).getD ⟨0, 0⟩

/-- The significant digits without trailing zeros, and the exponent of the first one. -/
def Decimal.scientific (d : Decimal) : List Char × Int :=
  let written := Nat.toDigits 10 d.digits
  let kept := (written.reverse.dropWhile (· = '0')).reverse
  (if kept.isEmpty then ['0'] else kept, d.exponent + written.length - 1)

end Enrollment.Shortest
