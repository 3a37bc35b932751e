import Enrollment.Json.Number

/-!
# JSON text

Values as the program writes them, and their compact text: no blanks, members in the order given.
A string escapes the quote, the backslash and the control characters, the latter by a short escape
where there is one and otherwise by four lowercase hexadecimal digits.
-/

namespace Enrollment.Json

/-- A value to be written. -/
inductive Value where
  | null
  | flag (b : Bool)
  | count (n : Nat)
  | real (magnitude : Binary64)
  | text (s : String)
  | object (members : List (String × Value))

def escape (c : Char) : List Char :=
  if c = '"' then ['\\', '"']
  else if c = '\\' then ['\\', '\\']
  else if c = '\x08' then ['\\', 'b']
  else if c = '\x09' then ['\\', 't']
  else if c = '\x0a' then ['\\', 'n']
  else if c = '\x0c' then ['\\', 'f']
  else if c = '\x0d' then ['\\', 'r']
  else if c.toNat < 0x20 then
    ['\\', 'u', '0', '0', Nat.digitChar (c.toNat / 16), Nat.digitChar (c.toNat % 16)]
  else [c]

/-- A string between its quotes. -/
def quote (s : String) : List Char :=
  ['"'] ++ s.toList.flatMap escape ++ ['"']

mutual

/-- The compact text of a value. -/
def Value.write : Value → List Char
  | .null => "null".toList
  | .flag true => "true".toList
  | .flag false => "false".toList
  | .count n => Decimal.write n
  | .real magnitude => writeReal false magnitude
  | .text s => quote s
  | .object members => ['{'] ++ writeMembers members ++ ['}']

def writeMembers : List (String × Value) → List Char
  | [] => []
  | (name, value) :: members =>
      quote name ++ [':'] ++ value.write ++
        if members.isEmpty then [] else ',' :: writeMembers members

end

/-- The text of a value as a string. -/
def Value.render (v : Value) : String :=
  String.ofList v.write

end Enrollment.Json
