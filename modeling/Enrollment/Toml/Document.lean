import Enrollment.Toml.Scalar
import Enrollment.Toml.Table

/-!
# Documents of TOML

Values, lists and tables in braces, and whole documents: lines that name a table and lines that add
a member to the table named last. Reading a document answers with its members, or with nothing if it
is no document; where and why is not said.
-/

namespace Enrollment.Toml

/-- A value that holds no other. -/
def readScalar (cs : List Char) : Option (Value × List Char) :=
  match cs with
  | [] => none
  | c :: _ =>
      if c = '"' ∨ c = '\'' then (readString cs).map fun (s, cs) => (.text (String.ofList s), cs)
      else
        match afterWord? "true".toList cs, afterWord? "false".toList cs with
        | some cs, _ => some (.flag true, cs)
        | none, some cs => some (.flag false, cs)
        | none, none =>
            match afterMoment? cs, readReal cs, readInteger cs with
            | some cs, _, _ => some (.moment, cs)
            | none, some (_, cs), _ => some (.real, cs)
            | none, none, some (n, cs) => some (.integer n, cs)
            | none, none, none => none

/-- The values of a list after its bracket, on as many lines as it takes; a comma may follow the
last one. Each value is a character at least, so the number of characters bounds the values. -/
def readList (element : Reader Value) (cs : List Char) : Option (List Value × List Char) :=
  go cs.length cs
where
  /-- Reads at most so many values. -/
  go : Nat → List Char → Option (List Value × List Char)
    | 0, _ => none
    | fuel + 1, cs =>
        let cs := skipLines cs
        match after? ']' cs with
        | some cs => some ([], cs)
        | none => do
            let (v, cs) ← element cs
            let cs := skipLines cs
            match after? ',' cs with
            | some cs =>
                let (vs, cs) ← go fuel cs
                some (v :: vs, cs)
            | none => (after? ']' cs).map fun cs => ([v], cs)

/-- A key, the equals sign and a value. -/
def readMember (value : Reader Value) (cs : List Char) :
    Option ((List String × Value) × List Char) := do
  let (key, cs) ← readKey cs
  let cs ← after? '=' cs
  let (v, cs) ← value (skipBlanks cs)
  some ((key, v), cs)

/-- Adds a member to members. -/
def addMember (members : Members) (member : List String × Value) : Option Members :=
  members.addDotted member.1.dropLast (member.1.getLast?.getD "") member.2

/-- The members of a table in braces, after the opening one and on one line. -/
def readMembers (value : Reader Value) (cs : List Char) : Option (Members × List Char) :=
  match after? '}' (skipBlanks cs) with
  | some cs => some ([], cs)
  | none => go cs.length [] cs
where
  /-- Reads at most so many members. -/
  go : Nat → Members → List Char → Option (Members × List Char)
    | 0, _, _ => none
    | fuel + 1, members, cs => do
        let (member, cs) ← readMember value cs
        let members ← addMember members member
        let cs := skipBlanks cs
        match after? ',' cs with
        | some cs => go fuel members cs
        | none => (after? '}' cs).map fun cs => (members, cs)

/-- A value with others inside it up to a depth. -/
def readValue : (depth : Nat) → Reader Value
  | 0 => readScalar
  | depth + 1 => fun cs =>
      match after? '[' cs, after? '{' cs with
      | some cs, _ => (readList (readValue depth) cs).map fun (vs, cs) => (.list vs, cs)
      | none, some cs =>
          (readMembers (readValue depth) cs).map fun (members, cs) =>
            (.table (toValues members), cs)
      | none, none => readScalar cs

/-- The table that the last header names. -/
inductive Current where
  | root
  | table (path : List String) (key : String)
  | element (path : List String) (key : String)
  deriving Repr, DecidableEq

/-- A document as far as it has been read: the tables before the last header, and the members since.
-/
structure Draft where
  root : Members
  current : Current
  members : Members

namespace Draft

/-- A document of which nothing has been read. -/
def empty : Draft := ⟨[], .root, []⟩

/-- Puts the members since the last header in their place. -/
def close (d : Draft) : Option Members :=
  match d.current with
  | .root => some d.members
  | .table path key =>
      d.root.modifyAt (fun parent => some (parent.put key (.table .defined d.members))) path
  | .element path key =>
      d.root.modifyAt (fun parent =>
        match parent.lookup key with
        | none => some (parent.put key (.tables [d.members]))
        | some (.tables elements) => some (parent.put key (.tables (d.members :: elements)))
        | some _ => none) path

/-- Starts the table of a header. A table that was only passed so far is continued; it takes its
place among the members anew. -/
def openTable (d : Draft) (path : List String) (key : String) : Option Draft := do
  let root ← d.close
  let parent ← root.follow? path
  match parent.lookup key with
  | none =>
      let root ← root.modifyAt some path
      some ⟨root, .table path key, []⟩
  | some (.table .passed members) =>
      let root ← root.modifyAt (fun parent => some (parent.remove key)) path
      some ⟨root, .table path key, members⟩
  | some _ => none

/-- Starts another table of a repeated header. -/
def openElement (d : Draft) (path : List String) (key : String) : Option Draft := do
  let root ← d.close
  let parent ← root.follow? path
  let root ← root.modifyAt some path
  match parent.lookup key with
  | none => some ⟨root, .element path key, []⟩
  | some (.tables _) => some ⟨root, .element path key, []⟩
  | some _ => none

def readHeader (d : Draft) (cs : List Char) : Option (Draft × List Char) :=
  match after? '[' cs with
  | some cs => do
      let (key, cs) ← readKey cs
      let cs ← afterWord? [']', ']'] cs
      let d ← d.openElement key.dropLast (key.getLast?.getD "")
      some (d, cs)
  | none => do
      let (key, cs) ← readKey cs
      let cs ← after? ']' cs
      let d ← d.openTable key.dropLast (key.getLast?.getD "")
      some (d, cs)

def readItem (d : Draft) (cs : List Char) : Option (Draft × List Char) :=
  match after? '[' cs with
  | some cs => d.readHeader cs
  | none => do
      let (member, cs) ← readMember (readValue maxDepth) cs
      let members ← addMember d.members member
      some ({ d with members }, cs)

/-- Reads lines to the end of the text. Each line is a character at least, so the number of
characters bounds the lines. -/
def readLines : Nat → Draft → List Char → Option Draft
  | 0, d, cs => if cs.isEmpty then some d else none
  | fuel + 1, d, cs =>
      if cs.isEmpty then some d
      else
        match afterLine? cs with
        | some cs => readLines fuel d cs
        | none => do
            let (d, cs) ← d.readItem (skipBlanks cs)
            let cs ← afterLine? cs
            readLines fuel d cs

end Draft

/-- The members of a document. A byte order mark may stand at its start. -/
def parse? (text : String) : Option (List (String × Value)) := do
  let cs := match text.toList with
    | '\uFEFF' :: cs => cs
    | cs => cs
  let d ← Draft.readLines cs.length .empty cs
  let members ← d.close
  some (toValues members)

end Enrollment.Toml
