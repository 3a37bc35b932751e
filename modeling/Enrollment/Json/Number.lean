import Enrollment.Number.Shortest
import Enrollment.Text.Decimal

/-!
# Numbers of JSON

A number is kept as it was written as far as it can be: a whole number that fits in an unsigned
word, or a negative one that fits in a signed word, is exact, and every other number is a double.
The digits of a double are read into a word as long as they fit; the rest only moves the exponent.
The word is rounded to a double, which is then multiplied or divided by a power of ten, each step
rounded. A number too large for a double is none.

A double is written with the fewest digits that read back: positional from `0.00001` on and below
`10 ^ 16`, always with a decimal point, and otherwise with an exponent.
-/

namespace Enrollment.Json

/-- A number as it was read. -/
inductive Number where
  /-- A whole number below `2 ^ 64`. -/
  | count (n : Nat)
  /-- The negation of a number from one to `2 ^ 63`. -/
  | negated (n : Nat)
  | real (negative : Bool) (magnitude : Binary64)
  deriving Repr, DecidableEq

/-- The parts of a written number. Digits are given by their values. -/
structure Numeral where
  negative : Bool
  whole : List Nat
  decimals : List Nat
  /-- The sign and the digits of the exponent. -/
  exponent : Option (Bool × List Nat)
  /-- Whether the number has a fraction or an exponent. -/
  isReal : Bool
  deriving Repr, DecidableEq

namespace Numeral

/-- The number a row of digits stands for. -/
def valueOf (digits : List Nat) : Nat :=
  digits.foldl (fun n d => n * 10 + d) 0

/-- Appends digits to a number as long as the result fits in a word; the digits that are left come
with it. -/
def absorb (n : Nat) : List Nat → Nat × List Nat
  | [] => (n, [])
  | d :: digits => if n * 10 + d < UInt64.size then absorb (n * 10 + d) digits else (n, d :: digits)

/-- The greatest exponent that is told apart from larger ones. -/
def maxExponent : Nat := 2147483647

/-- The power of ten by which a double can be multiplied or divided at once. -/
def maxPower : Nat := 308

/-- A double divided by a power of ten, by the largest step at a time. -/
def shrink (f : Binary64) (power : Nat) : Binary64 :=
  if power ≤ maxPower then f / .ofNat (powerOfTen power)
  else if f.isZero then f
  else shrink (f / .ofNat (powerOfTen maxPower)) (power - maxPower)
termination_by power
decreasing_by simp only [maxPower] at *; omega

/-- A word times a power of ten, unless it is too large for a double. -/
def assemble? (significand : Nat) (power : Int) : Option Binary64 :=
  let f := Binary64.ofNat significand
  if power < 0 then some (shrink f (-power).toNat)
  else if power.toNat ≤ maxPower then
    match f * .ofNat (powerOfTen power.toNat) with
    | .infinite => none
    | product => some product
  else if f.isZero then some f
  else none

/-- The magnitude of a numeral as a double. -/
def magnitude? (n : Numeral) : Option Binary64 :=
  let (head, dropped) := absorb 0 n.whole
  let (significand, unread) := absorb head n.decimals
  let shift : Int := dropped.length - (n.decimals.length - unread.length : Nat)
  match n.exponent with
  | none => assemble? significand shift
  | some (negative, digits) =>
      let exponent := valueOf digits
      if maxExponent < exponent then
        if significand ≠ 0 && !negative then none else some (.finite 0 (-1074))
      else assemble? significand (if negative then shift - exponent else shift + exponent)

/-- The number that a numeral stands for, unless it is too large for a double. -/
def toNumber? (n : Numeral) : Option Number :=
  let whole := valueOf n.whole
  if n.isReal || UInt64.size ≤ whole then n.magnitude?.map (.real n.negative ·)
  else if !n.negative then some (.count whole)
  else if 1 ≤ whole && whole ≤ signedSize then some (.negated whole)
  else some (.real true (.ofNat whole))

end Numeral

/-- Digits with a decimal point after the first `places`, filled up with zeros where digits lack. -/
def pointAfter (digits : List Char) (places : Nat) : List Char :=
  let whole := digits.take places ++ List.replicate (places - digits.length) '0'
  let decimals := digits.drop places
  whole ++ ['.'] ++ if decimals.isEmpty then ['0'] else decimals

def writeMagnitude (significand : Nat) (exponent : Int) : List Char :=
  if significand = 0 then ['0', '.', '0']
  else
    let (digits, first) := (Shortest.digits significand exponent).scientific
    if 0 ≤ first ∧ first ≤ 15 then pointAfter digits (first.toNat + 1)
    else if -5 ≤ first ∧ first < 0 then
      ['0', '.'] ++ List.replicate ((-first).toNat - 1) '0' ++ digits
    else
      let mantissa :=
        match digits with
        | d :: rest => if rest.isEmpty then [d] else d :: '.' :: rest
        | [] => []
      let sign := if first < 0 then '-' else '+'
      mantissa ++ ['e', sign] ++ Decimal.write first.natAbs

/-- The text of a double; only finite ones have one. -/
def writeReal (negative : Bool) (magnitude : Binary64) : List Char :=
  match magnitude with
  | .finite significand exponent =>
      (if negative then ['-'] else []) ++ writeMagnitude significand exponent
  | .infinite => "null".toList

end Enrollment.Json
