import Enrollment.Json.Mismatch
import Enrollment.Json.Scan
import Enrollment.Json.Value

/-!
# Kinds of values

The kinds of values that records are made of, how each is read and how it is written. A value of
another kind is reported by what was found; for that it is read as far as its text shows it, a
number or a string to its end.
-/

namespace Enrollment.Json

/-- Kinds of values. -/
inductive Kind where
  | text
  | flag
  | count
  | optional (kind : Kind)
  deriving Repr, DecidableEq

/-- The values of a kind. -/
abbrev Kind.Carrier : Kind → Type
  | .text => String
  | .flag => Bool
  | .count => UInt64
  | .optional kind => Option kind.Carrier

/-- What is read from the front of bytes, and the bytes that are left. -/
abbrev Reader (α : Type) := Bytes → Except Fault (α × Bytes)

/-- What was read, or that the bytes are malformed. -/
def orMalformed (read : Option α) : Except Fault α :=
  match read with
  | some a => .ok a
  | none => .error .malformed

def readNumber : Reader Number := fun s => do
  let (numeral, s) ← orMalformed (numeral? s)
  let n ← orMalformed numeral.toNumber?
  .ok (n, s)

def startsNumber : Bytes → Bool
  | b :: _ => b == byte '-' || isDigit b
  | [] => false

/-- What stands where something else was expected. -/
def found (s : Bytes) : Except Fault Found :=
  if (after? '[' s).isSome then .ok .list
  else if (after? '{' s).isSome then .ok .object
  else if startsNumber s then (readNumber s).map fun (n, _) => .number n
  else
    match after? '"' s with
    | some s => (orMalformed (string? s)).map fun (text, _) => .text text
    | none =>
        if (afterWord? "null" s).isSome then .ok .null
        else if (afterWord? "true" s).isSome then .ok (.flag true)
        else if (afterWord? "false" s).isSome then .ok (.flag false)
        else .error .malformed

/-- The fault of finding something else than what was expected. -/
def expected (what : String) (s : Bytes) : Except Fault α :=
  match found s with
  | .ok found => .error (.mismatch .whole (.type found what))
  | .error fault => .error fault

def readText : Reader String := fun s =>
  let s := skipBlanks s
  match after? '"' s with
  | some s => orMalformed (string? s)
  | none => expected "a string" s

def readFlag : Reader Bool := fun s =>
  let s := skipBlanks s
  match afterWord? "true" s, afterWord? "false" s with
  | some s, _ => .ok (true, s)
  | none, some s => .ok (false, s)
  | none, none => expected "a boolean" s

/-- A number that fits in an unsigned word. -/
def readCount : Reader UInt64 := fun s =>
  let s := skipBlanks s
  if startsNumber s then
    match readNumber s with
    | .error fault => .error fault
    | .ok (.count n, s) => .ok (UInt64.ofNat n, s)
    | .ok (.negated n, _) => .error (.mismatch .whole (.value (.number (.negated n)) "u64"))
    | .ok (.real negative magnitude, _) =>
        .error (.mismatch .whole (.type (.number (.real negative magnitude)) "u64"))
  else expected "u64" s

/-- A value of a kind. An optional value is null or there. -/
def Kind.read : (kind : Kind) → Reader kind.Carrier
  | .text => readText
  | .flag => readFlag
  | .count => readCount
  | .optional kind => fun s =>
      match after? 'n' (skipBlanks s) with
      | some _ => (orMalformed (afterWord? "null" (skipBlanks s))).map fun s => (none, s)
      | none => (kind.read s).map fun (value, s) => (some value, s)

/-- A value of a kind as it is written; an absent one is not. -/
def Kind.write : (kind : Kind) → kind.Carrier → Option Value
  | .text, s => some (.text s)
  | .flag, b => some (.flag b)
  | .count, n => some (.count n.toNat)
  | .optional kind, value => value.bind kind.write

end Enrollment.Json
