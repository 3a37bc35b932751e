import Enrollment.Text.Decimal
import Enrollment.Text.Hex

/-!
# Internet addresses

Addresses of both versions, how they are read and how they are written.

A version 4 address is four numbers of at most three digits without leading zeros. A version 6
address is eight groups of at most four hexadecimal digits; its last two groups may be written as a
version 4 address, and one row of groups, all zero, may be written as two colons.

Written out, a version 6 address shortens its longest row of two or more zero groups, the first one
if there are several, and shows an address that maps version 4 with the version 4 address at its
end.
-/

namespace Enrollment

/-- An address of version 4. -/
structure AddressV4 where
  a : UInt8
  b : UInt8
  c : UInt8
  d : UInt8
  deriving Repr, DecidableEq

/-- An address of version 6. -/
structure AddressV6 where
  groups : List UInt16
  length_groups : groups.length = 8
  deriving Repr, DecidableEq

/-- An address. -/
inductive Address where
  | v4 (address : AddressV4)
  | v6 (address : AddressV6)
  deriving Repr, DecidableEq

/-- The text after a separator, which stands before every part but the first. -/
def afterSeparator? (c : Char) (first : Bool) (cs : List Char) : Option (List Char) :=
  if first then some cs
  else
    match cs with
    | d :: cs => if d = c then some cs else none
    | [] => none

namespace AddressV4

/-- A number from zero to 255 without leading zeros. -/
def readOctet? (cs : List Char) : Option (UInt8 × List Char) :=
  let digits := cs.takeWhile Char.isDigit
  let value := Decimal.value digits
  if digits.isEmpty || 3 < digits.length || (digits.head? == some '0' && 1 < digits.length) ||
      255 < value then none
  else some (UInt8.ofNat value, cs.dropWhile Char.isDigit)

def readPart? (first : Bool) (cs : List Char) : Option (UInt8 × List Char) :=
  (afterSeparator? '.' first cs).bind readOctet?

/-- A version 4 address at the front of a text. -/
def read? (cs : List Char) : Option (AddressV4 × List Char) := do
  let (a, cs) ← readPart? true cs
  let (b, cs) ← readPart? false cs
  let (c, cs) ← readPart? false cs
  let (d, cs) ← readPart? false cs
  some (⟨a, b, c, d⟩, cs)

/-- A version 4 address as the two groups it stands for. -/
def toGroups (a : AddressV4) : List UInt16 :=
  [UInt16.ofNat (a.a.toNat * 256 + a.b.toNat), UInt16.ofNat (a.c.toNat * 256 + a.d.toNat)]

def write (a : AddressV4) : List Char :=
  ['.'].intercalate ([a.a, a.b, a.c, a.d].map (Decimal.write ·.toNat))

end AddressV4

namespace AddressV6

/-- The number that a row of hexadecimal digits stands for. -/
def hexValue (digits : List Char) : Nat :=
  digits.foldl (fun n c => n * 16 + (Hex.value? c).getD 0) 0

def isHexDigit (c : Char) : Bool :=
  (Hex.value? c).isSome

/-- A group of one to four hexadecimal digits. -/
def readGroup? (cs : List Char) : Option (UInt16 × List Char) :=
  let digits := cs.takeWhile isHexDigit
  if digits.isEmpty || 4 < digits.length then none
  else some (UInt16.ofNat (hexValue digits), cs.dropWhile isHexDigit)

/-- Groups that were read, whether they ended in a version 4 address, and the text after them. -/
structure Groups where
  groups : List UInt16
  mapped : Bool
  rest : List Char

/-- As many groups as there are, up to a limit. The last two may be a version 4 address. -/
def readGroups (first : Bool) : (limit : Nat) → List Char → Groups
  | 0, cs => ⟨[], false, cs⟩
  | limit + 1, cs =>
      let mapped :=
        if limit = 0 then none else (afterSeparator? ':' first cs).bind AddressV4.read?
      match mapped with
      | some (address, rest) => ⟨address.toGroups, true, rest⟩
      | none =>
          match (afterSeparator? ':' first cs).bind readGroup? with
          | some (group, rest) =>
              let more := readGroups false limit rest
              ⟨group :: more.groups, more.mapped, more.rest⟩
          | none => ⟨[], false, cs⟩

/-- Eight groups, the zeros between head and tail filled in. -/
def joinGroups? (head tail : List UInt16) : Option AddressV6 :=
  let groups := head ++ List.replicate (8 - head.length - tail.length) 0 ++ tail
  if h : groups.length = 8 then some ⟨groups, h⟩ else none

/-- A version 6 address at the front of a text. -/
def read? (cs : List Char) : Option (AddressV6 × List Char) :=
  let head := readGroups true 8 cs
  if head.groups.length = 8 then (joinGroups? head.groups []).map (·, head.rest)
  else if head.mapped then none
  else
    match head.rest with
    | ':' :: ':' :: rest =>
        let tail := readGroups true (7 - head.groups.length) rest
        (joinGroups? head.groups tail.groups).map (·, tail.rest)
    | _ => none

def writeGroups (groups : List UInt16) : List Char :=
  [':'].intercalate (groups.map (Nat.toDigits 16 ·.toNat))

def leadingZeros (groups : List UInt16) : Nat :=
  (groups.takeWhile (· == 0)).length

/-- Where the longest row of zero groups starts, and its length. The first group has the given
index. -/
def longestZeros (index : Nat) : List UInt16 → Nat × Nat
  | [] => (index, 0)
  | group :: groups =>
      let here := leadingZeros (group :: groups)
      let later := longestZeros (index + 1) groups
      if here < later.2 then later else (index, here)

/-- The version 4 address that a version 6 address maps. -/
def mappedV4? (a : AddressV6) : Option AddressV4 :=
  match a.groups with
  | [0, 0, 0, 0, 0, 0xFFFF, high, low] =>
      some ⟨UInt8.ofNat (high.toNat / 256), UInt8.ofNat high.toNat,
        UInt8.ofNat (low.toNat / 256), UInt8.ofNat low.toNat⟩
  | _ => none

def write (a : AddressV6) : List Char :=
  match mappedV4? a with
  | some mapped => "::ffff:".toList ++ mapped.write
  | none =>
      let (start, length) := longestZeros 0 a.groups
      if 1 < length then
        writeGroups (a.groups.take start) ++ [':', ':'] ++
          writeGroups (a.groups.drop (start + length))
      else writeGroups a.groups

end AddressV6

namespace Address

/-- The address that stands for no particular one. -/
def unspecified : Address := .v4 ⟨0, 0, 0, 0⟩

/-- The host itself, in version 4. -/
def localhost : Address := .v4 ⟨127, 0, 0, 1⟩

/-- The host itself, in version 6. -/
def localhostV6 : Address := .v6 ⟨[0, 0, 0, 0, 0, 0, 0, 1], rfl⟩

instance : Inhabited Address := ⟨unspecified⟩

/-- The address that a text is, to its last character. -/
def parse? (text : List Char) : Option Address :=
  match AddressV4.read? text with
  | some (address, rest) => if rest.isEmpty then some (.v4 address) else none
  | none =>
      match AddressV6.read? text with
      | some (address, rest) => if rest.isEmpty then some (.v6 address) else none
      | none => none

def write : Address → List Char
  | .v4 a => a.write
  | .v6 a => a.write

def render (a : Address) : String :=
  String.ofList a.write

/-- An address and a port as a string; a version 6 address stands in brackets. -/
def renderWithPort (a : Address) (port : UInt16) : String :=
  let host := match a with
    | .v4 _ => a.write
    | .v6 _ => ['['] ++ a.write ++ [']']
  String.ofList (host ++ [':'] ++ Decimal.write port.toNat)

end Address

end Enrollment
