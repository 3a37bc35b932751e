import Enrollment.Json.Number
import Enrollment.Text.Quoted

/-!
# Faults of JSON

Bytes can fail to be a record in two ways. They are malformed, about which nothing more is said, or
they are well formed as far as they were read and do not match: then the fault names what was found
and what was expected, and the part of the record that it is in.
-/

namespace Enrollment.Json

/-- What was found in place of what was expected. -/
inductive Found where
  | null
  | flag (b : Bool)
  | number (n : Number)
  | text (s : String)
  | list
  | object
  deriving Repr, DecidableEq

def Found.describe : Found → String
  | .null => "null"
  | .flag b => "boolean " ++ ticked (if b then "true".toList else "false".toList)
  | .number (.count n) => "integer " ++ ticked (Decimal.write n)
  | .number (.negated n) => "integer " ++ ticked ('-' :: Decimal.write n)
  | .number (.real negative magnitude) => "floating point " ++ ticked (writeReal negative magnitude)
  | .text s => "string " ++ Text.quoted s
  | .list => "sequence"
  | .object => "map"
where
  /-- A literal between grave accents. -/
  ticked (literal : List Char) : String :=
    String.ofList (['\x60'] ++ literal ++ ['\x60'])

/-- Why well-formed bytes are no record. -/
inductive Mismatch where
  | type (found : Found) (expected : String)
  | value (found : Found) (expected : String)
  | length (found : Nat) (name : String) (members : Nat)
  | missing (member : String)
  | duplicate (member : String)
  deriving Repr, DecidableEq

def Mismatch.message : Mismatch → String
  | .type found expected => "invalid type: " ++ found.describe ++ ", expected " ++ expected
  | .value found expected => "invalid value: " ++ found.describe ++ ", expected " ++ expected
  | .length found name members =>
      "invalid length " ++ toString found ++ ", expected struct " ++ name ++ " with " ++
        toString members ++ if members = 1 then " element" else " elements"
  | .missing member => "missing field " ++ Found.describe.ticked member.toList
  | .duplicate member => "duplicate field " ++ Found.describe.ticked member.toList

/-- The part of a record that a mismatch is in. -/
inductive Place where
  | whole
  | member (name : String)
  | element (index : Nat)
  deriving Repr, DecidableEq

/-- Why bytes cannot be read. -/
inductive Fault where
  | malformed
  | mismatch (place : Place) (cause : Mismatch)
  deriving Repr, DecidableEq

/-- The same fault as part of a record. -/
def Fault.within (place : Place) : Fault → Fault
  | .malformed => .malformed
  | .mismatch _ cause => .mismatch place cause

end Enrollment.Json
