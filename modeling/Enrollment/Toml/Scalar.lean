import Enrollment.Number.Binary64
import Enrollment.Toml.Text

/-!
# Numbers and moments of TOML

Integers in four bases, real numbers and moments of time, read from the front of a text. Between two
digits an underscore may stand. An integer must fit in a signed word, and a real number must not be
too large for a double unless it is negative.
-/

namespace Enrollment.Toml

/-- The digits of a number in a base, each after the first with an underscore before it if it has
one. -/
def readDigits (value? : Char → Option Nat) (cs : List Char) : Option (List Nat × List Char) :=
  match cs with
  | [] => none
  | c :: cs =>
      match value? c with
      | none => none
      | some d =>
          let (digits, rest) := more cs
          some (d :: digits, rest)
where
  /-- The digits after the first. -/
  more : List Char → List Nat × List Char
    | '_' :: c :: cs =>
        match value? c with
        | some d =>
            let rest := more cs
            (d :: rest.1, rest.2)
        | none => ([], '_' :: c :: cs)
    | c :: cs =>
        match value? c with
        | some d =>
            let rest := more cs
            (d :: rest.1, rest.2)
        | none => ([], c :: cs)
    | [] => ([], [])

/-- The value of a digit in a base of at most sixteen. -/
def digitIn? (base : Nat) (c : Char) : Option Nat :=
  (Hex.value? c).filter (· < base)

/-- The number a row of digits stands for. -/
def valueIn (base : Nat) (digits : List Nat) : Nat :=
  digits.foldl (fun n d => n * base + d) 0

/-- The text after a sign, and whether the sign was a minus. -/
def readSign : List Char → Bool × List Char
  | '+' :: cs => (false, cs)
  | '-' :: cs => (true, cs)
  | cs => (false, cs)

/-- Decimal digits without a leading zero. -/
def readWhole (cs : List Char) : Option (List Nat × List Char) :=
  match cs with
  | '0' :: cs => some ([0], cs)
  | cs => readDigits (digitIn? 10) cs

/-- The integer, if it fits in a signed word. -/
def inWord? (negative : Bool) (n : Nat) : Option Int :=
  if negative then if n ≤ signedSize then some (-n) else none
  else if n < signedSize then some n else none

/-- A number in a base that is named in front of it. -/
def readBased (base : Nat) (cs : List Char) : Option (Int × List Char) := do
  let (digits, cs) ← readDigits (digitIn? base) cs
  let n ← inWord? false (valueIn base digits)
  some (n, cs)

def readInteger (cs : List Char) : Option (Int × List Char) :=
  match cs with
  | '0' :: 'x' :: cs => readBased 16 cs
  | '0' :: 'o' :: cs => readBased 8 cs
  | '0' :: 'b' :: cs => readBased 2 cs
  | cs => do
      let (negative, cs) := readSign cs
      let (digits, cs) ← readWhole cs
      let n ← inWord? negative (valueIn 10 digits)
      some (n, cs)

/-- The decimals of a real number. -/
def readFraction (cs : List Char) : Option (List Nat × List Char) :=
  (after? '.' cs).bind (readDigits (digitIn? 10))

/-- The exponent of a real number. -/
def readExponent (cs : List Char) : Option (Int × List Char) := do
  let cs ← (after? 'e' cs).or (after? 'E' cs)
  let (negative, cs) := readSign cs
  let (digits, cs) ← readDigits (digitIn? 10) cs
  let n := valueIn 10 digits
  some (if negative then -n else n, cs)

/-- Whether `significand · 10 ^ exponent` is too large for a double. Outside a range of four hundred
orders of magnitude the answer is plain. -/
def isTooLarge (significand : Nat) (exponent : Int) : Bool :=
  let order : Int := (Nat.toDigits 10 significand).length + exponent
  if significand = 0 || order < -400 then false
  else if 400 < order then true
  else
    match Binary64.ofQuotient (significand * powerOfTen exponent.toNat)
      (powerOfTen (-exponent).toNat) with
    | .infinite => true
    | .finite _ _ => false

/-- A real number; only that it is one matters here. -/
def readReal (cs : List Char) : Option (Unit × List Char) :=
  let (negative, unsigned) := readSign cs
  match (afterWord? "inf".toList unsigned).or (afterWord? "nan".toList unsigned) with
  | some cs => some ((), cs)
  | none => do
      let (whole, cs) ← readWhole unsigned
      let fraction := readFraction cs
      let (decimals, cs) := fraction.getD ([], cs)
      let power := readExponent cs
      let (exponent, cs) := power.getD (0, cs)
      if fraction.isNone && power.isNone then none
      else if !negative && isTooLarge (valueIn 10 (whole ++ decimals)) (exponent - decimals.length)
        then none
      else some ((), cs)

/-! ## Moments -/

/-- A number of a fixed count of digits within bounds. -/
def readBounded (width low high : Nat) (cs : List Char) : Option (Nat × List Char) :=
  let digits := (cs.take width).filterMap (digitIn? 10)
  let n := valueIn 10 digits
  if digits.length = width ∧ low ≤ n ∧ n ≤ high then some (n, cs.drop width) else none

def daysIn (year month : Nat) : Nat :=
  if month = 2 then
    if year % 4 = 0 ∧ (year % 100 ≠ 0 ∨ year % 400 = 0) then 29 else 28
  else if month = 4 ∨ month = 6 ∨ month = 9 ∨ month = 11 then 30
  else 31

def afterDate? (cs : List Char) : Option (List Char) := do
  let (year, cs) ← readBounded 4 0 9999 cs
  let cs ← after? '-' cs
  let (month, cs) ← readBounded 2 1 12 cs
  let cs ← after? '-' cs
  let (_, cs) ← readBounded 2 1 (daysIn year month) cs
  some cs

def afterTime? (cs : List Char) : Option (List Char) := do
  let (_, cs) ← readBounded 2 0 23 cs
  let cs ← after? ':' cs
  let (_, cs) ← readBounded 2 0 59 cs
  let cs ← after? ':' cs
  let (_, cs) ← readBounded 2 0 60 cs
  match after? '.' cs with
  | none => some cs
  | some cs =>
      let rest := cs.dropWhile Char.isDigit
      if rest.length = cs.length then none else some rest

def afterOffset? (cs : List Char) : Option (List Char) :=
  match cs with
  | [] => none
  | c :: cs =>
      if c = 'Z' ∨ c = 'z' then some cs
      else if c = '+' ∨ c = '-' then do
        let (_, cs) ← readBounded 2 0 23 cs
        let cs ← after? ':' cs
        let (_, cs) ← readBounded 2 0 59 cs
        some cs
      else none

/-- The text after a moment: a date, a time of day, or both with or without an offset. -/
def afterMoment? (cs : List Char) : Option (List Char) :=
  match afterDate? cs with
  | none => afterTime? cs
  | some rest =>
      match rest with
      | c :: after =>
          if c = 'T' ∨ c = 't' ∨ c = ' ' then
            match afterTime? after with
            | none => some rest
            | some rest => some ((afterOffset? rest).getD rest)
          else some rest
      | [] => some rest

end Enrollment.Toml
