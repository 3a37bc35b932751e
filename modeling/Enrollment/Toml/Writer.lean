import Enrollment.Number.Scale
import Enrollment.Text.Decimal
import Enrollment.Toml.Table

/-!
# Written TOML

Documents whose members are all tables of plain values: one section for each table, a blank line
between two of them. A string is written in the plainest of its notations: between double quotes if
nothing in it needs an escape; else between single quotes; else on several lines, without escapes;
and only if it has control characters, or too many quotes of both kinds in a row, with escapes.
-/

namespace Enrollment.Toml

/-- Whether a character can only be written by an escape. -/
def needsEscape (c : Char) : Bool :=
  (c.toNat < 0x20 && c != '\t' && c != '\n') || c.toNat == 0x7F

/-- The greatest number of times that a character stands in a row. -/
def longestRun (c : Char) (cs : List Char) : Nat :=
  (cs.foldl (fun (best, run) d => if d == c then (max best (run + 1), run + 1) else (best, 0))
    (0, 0)).1

/-- The notations of a string. -/
inductive Notation where
  | basic
  | literal
  | basicLines
  | literalLines
  deriving Repr, DecidableEq

/-- The plainest notation of a string. -/
def notationOf (cs : List Char) : Notation :=
  let escapes := cs.any needsEscape
  let lines := cs.contains '\n'
  let backslash := cs.contains '\\'
  if !escapes && !backslash && longestRun '"' cs = 0 && !lines then .basic
  else if !escapes && longestRun '\'' cs = 0 && !lines then .literal
  else if !escapes && !backslash && longestRun '"' cs ≤ 2 then .basicLines
  else if !escapes && longestRun '\'' cs ≤ 2 then .literalLines
  else if lines then .basicLines
  else .basic

/-- How a character other than a quote is written where escapes are known; a line feed stands for
itself in a string of several lines. -/
def escape (lines : Bool) (c : Char) : List Char :=
  if c = '\x08' then ['\\', 'b']
  else if c = '\t' then ['\\', 't']
  else if c = '\n' then if lines then [c] else ['\\', 'n']
  else if c = '\x0C' then ['\\', 'f']
  else if c = '\r' then ['\\', 'r']
  else if c = '\\' then ['\\', '\\']
  else if needsEscape c then
    ['\\', 'u', '0', '0', Nat.digitChar (c.toNat / 16), (Nat.digitChar (c.toNat % 16)).toUpper]
  else [c]

/-- The characters of a string where escapes are known. At most so many quotes stand in a row
without one. -/
def escapeAll (lines : Bool) (limit : Nat) (run : Nat) : List Char → List Char
  | [] => []
  | c :: cs =>
      if c = '"' then
        if limit ≤ run then '\\' :: '"' :: escapeAll lines limit 0 cs
        else '"' :: escapeAll lines limit (run + 1) cs
      else escape lines c ++ escapeAll lines limit 0 cs

/-- A string in its plainest notation. A string of several lines starts on a line of its own if it
has a line end. -/
def writeString (s : String) : List Char :=
  let cs := s.toList
  let start := if cs.contains '\n' then ['\n'] else []
  match notationOf cs with
  | .basic => ['"'] ++ escapeAll false 0 0 cs ++ ['"']
  | .literal => ['\''] ++ cs ++ ['\'']
  | .basicLines => ['"', '"', '"'] ++ start ++ escapeAll true 2 0 cs ++ ['"', '"', '"']
  | .literalLines => ['\'', '\'', '\''] ++ start ++ cs ++ ['\'', '\'', '\'']

/-- A plain value: a string, a number that fits in a signed word, a truth value, or a list of plain
values. -/
def writeValue? : Value → Option (List Char)
  | .text s => some (writeString s)
  | .integer n =>
      if n < 0 then
        if n.natAbs ≤ signedSize then some ('-' :: Decimal.write n.natAbs) else none
      else if n < signedSize then some (Decimal.write n.natAbs)
      else none
  | .flag b => some (if b then "true".toList else "false".toList)
  | .list values => (writeValues? values).map fun items => ['['] ++ items ++ [']']
  | _ => none
where
  /-- Plain values separated by commas. -/
  writeValues? : List Value → Option (List Char)
    | [] => some []
    | [v] => writeValue? v
    | v :: vs => do
        let first ← writeValue? v
        let rest ← writeValues? vs
        some (first ++ [',', ' '] ++ rest)

/-- A line that gives a member its value. -/
def writeMember? (member : String × Value) : Option (List Char) :=
  (writeValue? member.2).map fun v => member.1.toList ++ [' ', '=', ' '] ++ v ++ ['\n']

/-- A section: the line that names a table, and a line for each member. -/
def writeSection? (table : String × List (String × Value)) : Option (List Char) :=
  (table.2.mapM writeMember?).map fun lines =>
    ['['] ++ table.1.toList ++ [']', '\n'] ++ lines.flatten

/-- A document of tables. Their names and those of their members need no quotes. -/
def render? (tables : List (String × List (String × Value))) : Option String :=
  (tables.mapM writeSection?).map fun sections => String.ofList (['\n'].intercalate sections)

end Enrollment.Toml
