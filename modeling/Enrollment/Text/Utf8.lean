/-!
# UTF-8

The bytes of a text, the text of well-formed bytes, and a reading that never fails. The last one
writes U+FFFD for each maximal ill-formed part: a lead byte together with those continuation bytes
that could still have led to a character.
-/

namespace Enrollment.Utf8

/-- The UTF-8 bytes of a text. -/
def encode (s : String) : List UInt8 :=
  s.toList.flatMap String.utf8EncodeChar

/-- The text that well-formed bytes encode. -/
def decode? (bytes : List UInt8) : Option String :=
  String.fromUTF8? bytes.toByteArray

/-- Stands for bytes that encode no character. -/
def replacement : Char := '\uFFFD'

/-- A byte that continues a character: its two high bits are `10`. -/
def isContinuation (b : UInt8) : Bool :=
  0x80 ≤ b && b ≤ 0xBF

/-- Whether `second` can follow `lead`: no overlong form, no surrogate, nothing above U+10FFFF. -/
def mayFollow (lead second : UInt8) : Bool :=
  if lead = 0xE0 then 0xA0 ≤ second && second ≤ 0xBF
  else if lead = 0xED then 0x80 ≤ second && second ≤ 0x9F
  else if lead = 0xF0 then 0x90 ≤ second && second ≤ 0xBF
  else if lead = 0xF4 then 0x80 ≤ second && second ≤ 0x8F
  else isContinuation second

/-- How many bytes follow a lead byte, for a byte that may start a character of several bytes. -/
def followers? (lead : UInt8) : Option Nat :=
  if 0xC2 ≤ lead ∧ lead ≤ 0xDF then some 1
  else if 0xE0 ≤ lead ∧ lead ≤ 0xEF then some 2
  else if 0xF0 ≤ lead ∧ lead ≤ 0xF4 then some 3
  else none

/-- The six payload bits of a continuation byte appended to the bits read so far. -/
def append (bits : Nat) (b : UInt8) : Nat :=
  bits * 64 + b.toNat % 64

/-- The characters of bytes, each maximal ill-formed part read as one replacement character.
`pending` is the character under way: the bits read so far, how many bytes are still due, and the
lead byte as long as it is the last byte read. -/
def lossyFrom (pending : Option (Nat × Nat × Option UInt8)) : List UInt8 → List Char
  | [] => if pending.isSome then [replacement] else []
  | b :: rest =>
      match pending with
      | some (bits, due, lead) =>
          if (lead.map (mayFollow · b)).getD (isContinuation b) then
            match due with
            | 0 | 1 => Char.ofNat (append bits b) :: lossyFrom none rest
            | due + 2 => lossyFrom (some (append bits b, due + 1, none)) rest
          else replacement :: start b rest
      | none => start b rest
where
  /-- Reads a byte that is not part of a character under way. -/
  start (b : UInt8) (rest : List UInt8) : List Char :=
    if b < 0x80 then Char.ofNat b.toNat :: lossyFrom none rest
    else
      match followers? b with
      | none => replacement :: lossyFrom none rest
      | some 1 => lossyFrom (some (b.toNat % 32, 1, some b)) rest
      | some 2 => lossyFrom (some (b.toNat % 16, 2, some b)) rest
      | some _ => lossyFrom (some (b.toNat % 8, 3, some b)) rest

/-- The text of any bytes. -/
def decodeLossy (bytes : List UInt8) : String :=
  String.ofList (lossyFrom none bytes)

theorem toByteArray_encode (s : String) : (encode s).toByteArray = s.toUTF8 := by
  rw [String.toUTF8_eq_toByteArray, ← String.utf8Encode_toList, List.utf8Encode.eq_1]
  rfl

theorem decode?_encode (s : String) : decode? (encode s) = some s := by
  simp only [decode?, toByteArray_encode, String.fromUTF8?, String.toUTF8_eq_toByteArray,
    dif_pos s.isValidUTF8]
  rfl

theorem encode_injective {s t : String} (h : encode s = encode t) : s = t :=
  Option.some.inj (by rw [← decode?_encode s, h, decode?_encode])

end Enrollment.Utf8
