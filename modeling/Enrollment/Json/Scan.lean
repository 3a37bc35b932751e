import Enrollment.Json.Number
import Enrollment.Text.Hex
import Enrollment.Text.Utf8

/-!
# Reading JSON from bytes

The words, strings and numbers of JSON, read from the front of a row of bytes: each reader answers
with what it read and the bytes that are left, or with nothing if the bytes are malformed.

A string can be read or skipped. Skipping checks that its escapes are complete and that it has no
control characters; reading also asks for paired surrogates and well-formed UTF-8. Likewise a
number that is skipped may have any size, and a value that is skipped may be nested to any depth.
-/

namespace Enrollment.Json

abbrev Bytes := List UInt8

/-- The byte of an ASCII character. -/
def byte (c : Char) : UInt8 :=
  UInt8.ofNat c.toNat

/-- Space, tab, line feed and carriage return. -/
def isBlank (b : UInt8) : Bool :=
  b == 0x20 || b == 0x09 || b == 0x0A || b == 0x0D

/-- The bytes from the first one that is not blank. -/
def skipBlanks (s : Bytes) : Bytes :=
  s.dropWhile isBlank

def isDigit (b : UInt8) : Bool :=
  byte '0' ≤ b && b ≤ byte '9'

def afterWord? (word : String) (s : Bytes) : Option Bytes :=
  let w := Utf8.encode word
  if w.isPrefixOf s then some (s.drop w.length) else none

def after? (c : Char) : Bytes → Option Bytes
  | b :: s => if b = byte c then some s else none
  | [] => none

/-- The values of the digits at the front, and what follows them. -/
def digits (s : Bytes) : List Nat × Bytes :=
  ((s.takeWhile isDigit).map (fun b => b.toNat - '0'.toNat), s.dropWhile isDigit)

/-- At least one digit. -/
def someDigits? (s : Bytes) : Option (List Nat × Bytes) :=
  if (digits s).1.isEmpty then none else some (digits s)

/-- The whole part of a number, which has no leading zero. -/
def wholePart? (s : Bytes) : Option (List Nat × Bytes) :=
  (someDigits? s).filter fun part => part.1.length == 1 || part.1.head? != some 0

/-- The decimals of a number, if it has a point. -/
def decimalPart? (s : Bytes) : Option (Option (List Nat) × Bytes) :=
  match after? '.' s with
  | some s => (someDigits? s).map fun part => (some part.1, part.2)
  | none => some (none, s)

/-- The sign and the digits of an exponent, if there is one. -/
def exponentPart? (s : Bytes) : Option (Option (Bool × List Nat) × Bytes) :=
  match (after? 'e' s).or (after? 'E' s) with
  | none => some (none, s)
  | some s =>
      let negative := (after? '-' s).isSome
      let unsigned := ((after? '-' s).or (after? '+' s)).getD s
      (someDigits? unsigned).map fun part => (some (negative, part.1), part.2)

/-- A number from its sign to its last digit. -/
def numeral? (s : Bytes) : Option (Numeral × Bytes) := do
  let negative := (after? '-' s).isSome
  let (whole, s) ← wholePart? ((after? '-' s).getD s)
  let (decimals, s) ← decimalPart? s
  let (exponent, s) ← exponentPart? s
  some (⟨negative, whole, decimals.getD [], exponent, decimals.isSome || exponent.isSome⟩, s)

/-- The character of an escape of one letter. -/
def shortEscape? (b : UInt8) : Option UInt8 :=
  if b = byte '"' ∨ b = byte '\\' ∨ b = byte '/' then some b
  else if b = byte 'b' then some 0x08
  else if b = byte 'f' then some 0x0C
  else if b = byte 'n' then some 0x0A
  else if b = byte 'r' then some 0x0D
  else if b = byte 't' then some 0x09
  else none

/-- The number of four hexadecimal digits. -/
def hexQuad? (a b c d : UInt8) : Option Nat := do
  let value (b : UInt8) := Hex.value? (Char.ofNat b.toNat)
  some (((← value a) * 16 + (← value b)) * 256 + (← value c) * 16 + (← value d))

/-- Whether a code unit is the first one of a pair. -/
def isHighSurrogate (unit : Nat) : Bool :=
  0xD800 ≤ unit && unit < 0xDC00

/-- Whether a code unit is the second one of a pair. -/
def isLowSurrogate (unit : Nat) : Bool :=
  0xDC00 ≤ unit && unit < 0xE000

/-- The character of a pair of code units. -/
def ofSurrogates (high low : Nat) : Char :=
  Char.ofNat (0x10000 + (high - 0xD800) * 0x400 + (low - 0xDC00))

/-- The bytes of a string whose opening quote has been read. `read` holds those before, the last one
first. -/
def stringBytes? (read : Bytes) : Bytes → Option (Bytes × Bytes)
  | [] => none
  | b :: s =>
      if b = byte '"' then some (read.reverse, s)
      else if b = byte '\\' then
        match s with
        | [] => none
        | e :: s =>
            if e = byte 'u' then
              match s with
              | h₁ :: h₂ :: h₃ :: h₄ :: s =>
                  match hexQuad? h₁ h₂ h₃ h₄ with
                  | none => none
                  | some unit =>
                      if isLowSurrogate unit then none
                      else if isHighSurrogate unit then
                        match s with
                        | b :: u :: l₁ :: l₂ :: l₃ :: l₄ :: s =>
                            match hexQuad? l₁ l₂ l₃ l₄ with
                            | none => none
                            | some low =>
                                if b = byte '\\' ∧ u = byte 'u' ∧ isLowSurrogate low then
                                  stringBytes? (appendChar read (ofSurrogates unit low)) s
                                else none
                        | _ => none
                      else stringBytes? (appendChar read (Char.ofNat unit)) s
              | _ => none
            else
              match shortEscape? e with
              | some c => stringBytes? (c :: read) s
              | none => none
      else if b < 0x20 then none
      else stringBytes? (b :: read) s
where
  /-- The bytes of a character after others, the last one first. -/
  appendChar (read : Bytes) (c : Char) : Bytes :=
    (String.utf8EncodeChar c).reverse ++ read

/-- The text of a string whose opening quote has been read. -/
def string? (s : Bytes) : Option (String × Bytes) :=
  (stringBytes? [] s).bind fun (string, s) => (Utf8.decode? string).map (·, s)

/-- Skips a string whose opening quote has been read. -/
def skipString? : Bytes → Option Bytes
  | [] => none
  | b :: s =>
      if b = byte '"' then some s
      else if b = byte '\\' then
        match s with
        | [] => none
        | e :: s =>
            if e = byte 'u' then
              match s with
              | h₁ :: h₂ :: h₃ :: h₄ :: s =>
                  if (hexQuad? h₁ h₂ h₃ h₄).isSome then skipString? s else none
              | _ => none
            else if (shortEscape? e).isSome then skipString? s
            else none
      else if b < 0x20 then none
      else skipString? s

/-- What a value that is skipped stands in, the innermost container first. -/
inductive Container where
  | list
  | object
  deriving Repr, DecidableEq

/-- Skips a member's name and the colon after it. -/
def skipName? (s : Bytes) : Option Bytes := do
  let s ← after? '"' (skipBlanks s)
  let s ← skipString? s
  after? ':' (skipBlanks s)

/-- The bytes after a value that is neither a list nor an object. -/
def skipScalar? (s : Bytes) : Option Bytes :=
  match after? '"' s with
  | some s => skipString? s
  | none =>
      (afterWord? "null" s).or <| (afterWord? "true" s).or <| (afterWord? "false" s).or <|
        (numeral? s).map (·.2)

/-- Skips to the end of a value and of the containers around it; `ended` says that the value itself
has been read. Each step reads at least one byte, so the number of bytes bounds the steps. -/
def skipFrom? : Nat → (ended : Bool) → List Container → Bytes → Option Bytes
  | _, true, [], s => some s
  | 0, _, _, _ => none
  | fuel + 1, false, around, s =>
      let s := skipBlanks s
      match after? '[' s, after? '{' s with
      | some s, _ =>
          match after? ']' (skipBlanks s) with
          | some s => skipFrom? fuel true around s
          | none => skipFrom? fuel false (.list :: around) s
      | none, some s =>
          match after? '}' (skipBlanks s) with
          | some s => skipFrom? fuel true around s
          | none =>
              match skipName? s with
              | some s => skipFrom? fuel false (.object :: around) s
              | none => none
      | none, none =>
          match skipScalar? s with
          | some s => skipFrom? fuel true around s
          | none => none
  | fuel + 1, true, .list :: around, s =>
      let s := skipBlanks s
      match after? ']' s, after? ',' s with
      | some s, _ => skipFrom? fuel true around s
      | none, some s => skipFrom? fuel false (.list :: around) s
      | none, none => none
  | fuel + 1, true, .object :: around, s =>
      let s := skipBlanks s
      match after? '}' s, after? ',' s with
      | some s, _ => skipFrom? fuel true around s
      | none, some s =>
          match skipName? s with
          | some s => skipFrom? fuel false (.object :: around) s
          | none => none
      | none, none => none

def skipValue? (s : Bytes) : Option Bytes :=
  skipFrom? (s.length + 1) false [] s

end Enrollment.Json
