import Enrollment.Text.Quoted

/-!
# Inspection text

The notation in which values are shown to an operator: records with named fields, tagged values,
options and lists. A record may end in `..`, which says that it has fields that are not shown.
-/

namespace Enrollment.Inspect

/-- Parts between braces after a name; a name alone when there are none. -/
private def braced (name : String) (parts : List String) : String :=
  if parts.isEmpty then name
  else name ++ String.ofList [' ', '{', ' '] ++ ", ".intercalate parts ++ String.ofList [' ', '}']

private def field (f : String × String) : String :=
  f.1 ++ ": " ++ f.2

/-- A record with its fields in order. -/
def record (name : String) (fields : List (String × String)) : String :=
  braced name (fields.map field)

theorem record_eq (name : String) {fields : List (String × String)} (hfields : fields ≠ []) :
    record name fields =
      name ++ String.ofList [' ', '{', ' '] ++
        ", ".intercalate (fields.map fun f => f.1 ++ ": " ++ f.2) ++
        String.ofList [' ', '}'] := by
  have hparts : (fields.map field).isEmpty = false := by simpa using hfields
  simp only [record, braced, hparts]
  rfl

/-- A record that keeps other fields to itself. -/
def partialRecord (name : String) (fields : List (String × String)) : String :=
  braced name (fields.map field ++ [".."])

def tagged (tag value : String) : String :=
  tag ++ "(" ++ value ++ ")"

/-- An optional value, shown by `inspect` when it is there. -/
def option (inspect : α → String) : Option α → String
  | none => "None"
  | some a => tagged "Some" (inspect a)

def list (values : List String) : String :=
  "[" ++ ", ".intercalate values ++ "]"

/-- An optional string, quoted when it is there. -/
def optionalText : Option String → String :=
  option Text.quoted

def flag (b : Bool) : String :=
  if b then "true" else "false"

end Enrollment.Inspect
