/-!
# Values and tables of TOML

A value, and a table under construction. A table remembers how it came to be, because that decides
what may still be added to it: a table that a header or braces define is complete in itself, one
that only stands on the way to another may be defined later, and one that dotted keys made can be
extended by dotted keys alone. Members keep the order in which they were first named.
-/

namespace Enrollment.Toml

/-- A value. Of real numbers and moments only the kind is kept. -/
inductive Value where
  | text (s : String)
  | integer (n : Int)
  | real
  | flag (b : Bool)
  | moment
  | list (values : List Value)
  | table (members : List (String × Value))

/-- How a table came to be. -/
inductive Origin where
  /-- By a header or by braces. -/
  | defined
  /-- On the way to a table that a header names. -/
  | passed
  /-- By dotted keys. -/
  | dotted
  deriving Repr, DecidableEq

/-- A table under construction and what it holds. -/
inductive Node where
  | value (v : Value)
  | table (origin : Origin) (members : List (String × Node))
  /-- The tables of repeated headers, the last one first. -/
  | tables (elements : List (List (String × Node)))

/-- Members of a table under construction. -/
abbrev Members := List (String × Node)

mutual

/-- A finished node as a value. -/
def Node.toValue : Node → Value
  | .value v => v
  | .table _ members => .table (toValues members)
  | .tables elements => .list (toTables elements).reverse

/-- Finished members as members of a table. -/
def toValues : List (String × Node) → List (String × Value)
  | [] => []
  | (key, node) :: members => (key, node.toValue) :: toValues members

/-- Finished tables as values. -/
def toTables : List (List (String × Node)) → List Value
  | [] => []
  | members :: elements => .table (toValues members) :: toTables elements

end

namespace Members

/-- Replaces the node of a key, or appends a member if there is none. -/
def put (members : Members) (key : String) (node : Node) : Members :=
  if members.any (·.1 == key) then members.map fun m => if m.1 == key then (key, node) else m
  else members ++ [(key, node)]

/-- The members without a key. -/
def remove (members : Members) (key : String) : Members :=
  members.filter (·.1 != key)

/-- Adds a value under a dotted key: the tables on the way are made by dotted keys, or have only
been passed, or are the last of repeated tables, and the last one was made by dotted keys. -/
def addDotted (members : Members) : (path : List String) → (key : String) → Value → Option Members
  | [], key, v => if (members.lookup key).isSome then none else some (members.put key (.value v))
  | name :: path, key, v =>
      match members.lookup name with
      | none => (addDotted [] path key v).map fun inner => members.put name (.table .dotted inner)
      | some (.table origin inner) =>
          if origin = .defined || (path.isEmpty && origin ≠ .dotted) then none
          else
            (addDotted inner path key v).map fun inner => members.put name (.table origin inner)
      | some (.tables (last :: before)) =>
          if path.isEmpty then none
          else
            (addDotted last path key v).map fun last => members.put name (.tables (last :: before))
      | some _ => none

/-- Changes the members that a header's path leads to. Tables on the way are made where they lack,
and of repeated tables the last one is meant. -/
def modifyAt (members : Members) (change : Members → Option Members) :
    (path : List String) → Option Members
  | [] => change members
  | name :: path =>
      match members.lookup name with
      | none =>
          (modifyAt [] change path).map fun inner => members.put name (.table .passed inner)
      | some (.table origin inner) =>
          (modifyAt inner change path).map fun inner => members.put name (.table origin inner)
      | some (.tables (last :: before)) =>
          (modifyAt last change path).map fun last => members.put name (.tables (last :: before))
      | some _ => none

/-- The members that a header's path leads to, none where a table lacks. -/
def follow? (members : Members) : (path : List String) → Option Members
  | [] => some members
  | name :: path =>
      match members.lookup name with
      | none => follow? [] path
      | some (.table _ inner) => follow? inner path
      | some (.tables (last :: _)) => follow? last path
      | some _ => none

end Members

end Enrollment.Toml
