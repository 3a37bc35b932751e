import Enrollment.Json.Kind

/-!
# Records as JSON

A record is a row of members, each with a name and a kind, some of which may be left out. It is
written as an object with its members in order, absent optional ones left out. It is read from an
object in any order, or from a list of its members in order.

Reading goes through the bytes once and reports the first fault it meets. Members that the record
does not have are skipped. A member that occurs twice is reported where its name stands, before its
value is looked at; a member that is missing is reported at the end of the object, the first one in
order.
-/

namespace Enrollment.Json

/-- A member of a record: its name, its kind, and the value it has when it is left out. -/
structure Member where
  name : String
  kind : Kind
  absent : Option kind.Carrier

namespace Member

/-- A member that must be there. -/
def required (name : String) (kind : Kind) : Member := ⟨name, kind, none⟩

/-- A member with a value of its own when it is left out. -/
def withDefault (name : String) (kind : Kind) (value : kind.Carrier) : Member :=
  ⟨name, kind, some value⟩

/-- A member that may be left out or null. -/
def optional (name : String) (kind : Kind) : Member := ⟨name, .optional kind, some none⟩

end Member

/-- A value for each member. -/
abbrev Row : List Member → Type
  | [] => Unit
  | m :: ms => m.kind.Carrier × Row ms

/-- A value for each member that has been read. -/
abbrev Draft : List Member → Type
  | [] => Unit
  | m :: ms => Option m.kind.Carrier × Draft ms

def afterColon (s : Bytes) : Except Fault Bytes :=
  orMalformed (after? ':' (skipBlanks s))

namespace Draft

def empty : (ms : List Member) → Draft ms
  | [] => ()
  | _ :: ms => (none, empty ms)

/-- Reads the member with a name, from the colon on. -/
def readMember : (ms : List Member) → Draft ms → (name : String) → Reader (Draft ms)
  | [], draft, _ => fun s => do
      let s ← afterColon s
      let s ← orMalformed (skipValue? s)
      .ok (draft, s)
  | m :: ms, (slot, slots), name => fun s =>
      if name = m.name then
        match slot with
        | some _ => .error (.mismatch .whole (.duplicate m.name))
        | none => do
            let s ← afterColon s
            match m.kind.read s with
            | .ok (value, s) => .ok ((some value, slots), s)
            | .error fault => .error (fault.within (.member m.name))
      else do
        let (slots, s) ← readMember ms slots name s
        .ok ((slot, slots), s)

/-- Reads members from the name of the first one to the end of the object. Each member has at least
one byte, so the number of bytes bounds the members. -/
def readMembers : Nat → (ms : List Member) → Draft ms → Reader (Draft ms)
  | 0, _, _ => fun _ => .error .malformed
  | fuel + 1, ms, draft => fun s =>
      match after? '"' (skipBlanks s) with
      | none => .error .malformed
      | some s =>
          match string? s with
          | none => .error .malformed
          | some (name, s) =>
              match readMember ms draft name s with
              | .error fault => .error fault
              | .ok (draft, s) =>
                  let s := skipBlanks s
                  match after? '}' s, after? ',' s with
                  | some s, _ => .ok (draft, s)
                  | none, some s => readMembers fuel ms draft s
                  | none, none => .error .malformed

/-- The row of a draft whose object has ended. -/
def finish : (ms : List Member) → Draft ms → Except Fault (Row ms)
  | [], _ => .ok ()
  | m :: ms, (slot, slots) =>
      match slot.or m.absent with
      | none => .error (.mismatch .whole (.missing m.name))
      | some value => (finish ms slots).map ((value, ·))

end Draft

namespace Row

def readObject (ms : List Member) : Reader (Row ms) := fun s => do
  let (draft, s) ←
    match after? '}' (skipBlanks s) with
    | some s => .ok (Draft.empty ms, s)
    | none => Draft.readMembers s.length ms (Draft.empty ms) s
  let row ← Draft.finish ms draft
  .ok (row, s)

/-- The bytes of the next element of a list, or of the bracket that ends it. -/
def nextElement (index : Nat) (s : Bytes) : Except Fault (Bytes ⊕ Bytes) :=
  let s := skipBlanks s
  if (after? ']' s).isSome then .ok (.inr s)
  else if index = 0 then .ok (.inl s)
  else
    match after? ',' s with
    | none => .error .malformed
    | some s => if (after? ']' (skipBlanks s)).isSome then .error .malformed else .ok (.inl s)

/-- Reads elements, the first of them the one with the given index. -/
def readElements (name : String) (total : Nat) :
    (index : Nat) → (ended : Bool) → (ms : List Member) → Reader (Row ms)
  | _, _, [] => fun s => .ok ((), s)
  | index, ended, m :: ms => fun s => do
      match (← if ended then .ok (.inr s) else nextElement index s) with
      | .inl s =>
          match m.kind.read s with
          | .error fault => .error (fault.within (.element index))
          | .ok (value, s) =>
              let (values, s) ← readElements name total (index + 1) false ms s
              .ok ((value, values), s)
      | .inr s =>
          match m.absent with
          | none => .error (.mismatch .whole (.length index name total))
          | some value =>
              let (values, s) ← readElements name total (index + 1) true ms s
              .ok ((value, values), s)

def readList (name : String) (ms : List Member) : Reader (Row ms) := fun s => do
  let (row, s) ← readElements name ms.length 0 false ms s
  let s ← orMalformed (after? ']' (skipBlanks s))
  .ok (row, s)

def read (name : String) (ms : List Member) : Reader (Row ms) := fun s =>
  let s := skipBlanks s
  match after? '{' s, after? '[' s with
  | some s, _ => readObject ms s
  | none, some s => readList name ms s
  | none, none => expected ("struct " ++ name) s

end Row

/-- The members of a row that are written. -/
def Row.members : (ms : List Member) → Row ms → List (String × Value)
  | [], _ => []
  | m :: ms, (value, values) =>
      ((m.kind.write value).map ((m.name, ·))).toList ++ Row.members ms values

structure Format (ρ : Type) where
  name : String
  fields : List Member
  toRow : ρ → Row fields
  ofRow : Row fields → ρ
  ofRow_toRow : ∀ record, ofRow (toRow record) = record

namespace Format

variable {ρ : Type} (format : Format ρ)

def read : Reader ρ := fun s =>
  (Row.read format.name format.fields s).map fun (row, s) => (format.ofRow row, s)

/-- Reads bytes that are one record and nothing else. -/
def parse (s : Bytes) : Except Fault ρ :=
  match format.read s with
  | .error fault => .error fault
  | .ok (record, s) => if (skipBlanks s).isEmpty then .ok record else .error .malformed

/-- A record as an object. -/
def toValue (record : ρ) : Value :=
  .object (Row.members format.fields (format.toRow record))

/-- The text of a record. -/
def render (record : ρ) : String :=
  (format.toValue record).render

end Format

/-- Reads bytes that are one string and nothing else. -/
def parseText (s : Bytes) : Except Fault String :=
  match readText s with
  | .error fault => .error fault
  | .ok (string, s) => if (skipBlanks s).isEmpty then .ok string else .error .malformed

end Enrollment.Json
