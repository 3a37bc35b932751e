import Enrollment.Text.Decimal
import Enrollment.Time.Span
import Enrollment.Unicode.Blank

/-!
# Written lengths of time

A written span is a numeral followed by one of the units `ms`, `s`, `m` and `h`, or by no unit,
which means seconds. White space may surround the whole and stand before the unit. The unit that is
looked for is the first in that order that the text ends with, and a text that does not have a
numeral before it is an error of that unit.

Whole seconds are written with the unit `s`, every other span in whole milliseconds.
-/

namespace Enrollment

/-- Units of a written span, in the order in which they are looked for. -/
inductive TimeUnit where
  | millis
  | seconds
  | minutes
  | hours
  deriving Repr, DecidableEq

def TimeUnit.letters : TimeUnit → List Char
  | .millis => ['m', 's']
  | .seconds => ['s']
  | .minutes => ['m']
  | .hours => ['h']

/-- What keeps a text from being a written span: no numeral that fits stands before its unit, or
the text has no unit and is no numeral. -/
inductive NotationError where
  | unit (u : TimeUnit)
  | plain
  deriving Repr, DecidableEq

def NotationError.message : NotationError → String
  | .unit .millis => "invalid milliseconds"
  | .unit .seconds => "invalid seconds"
  | .unit .minutes => "invalid minutes"
  | .unit .hours => "invalid hours"
  | .plain => "invalid duration format"

namespace Span

/-- The greatest number a word can hold. -/
def maxWord : Nat := UInt64.size - 1

/-- A number of units, if it is in range: milliseconds and seconds that fit in a word, minutes and
hours whose seconds do. -/
def ofUnits? (count : Nat) : TimeUnit → Option Span
  | .millis => if count ≤ maxWord then ofNanos? (count * nanosPerMilli) else none
  | .seconds => if count ≤ maxWord then ofNanos? (count * nanosPerSecond) else none
  | .minutes => if count * 60 ≤ maxWord then ofNanos? (count * 60 * nanosPerSecond) else none
  | .hours => if count * 3600 ≤ maxWord then ofNanos? (count * 3600 * nanosPerSecond) else none

/-- The text before a unit that the text ends with. -/
def beforeUnit? (cs : List Char) (u : TimeUnit) : Option (List Char) :=
  if u.letters.isSuffixOf cs then some (cs.take (cs.length - u.letters.length)) else none

/-- Splits a text at the unit it ends with. -/
def splitUnit (cs : List Char) : Option (List Char × TimeUnit) :=
  [TimeUnit.millis, .seconds, .minutes, .hours].findSome? fun u =>
    (beforeUnit? cs u).map (·, u)

/-- The numeral and unit as a span. -/
def ofNumeral? (numeral : List Char) (u : TimeUnit) : Option Span :=
  (Decimal.read? maxWord numeral).bind (ofUnits? · u)

def parse (text : String) : Except NotationError Span :=
  let trimmed := Unicode.trim text.toList
  match splitUnit trimmed with
  | some (numeral, u) =>
      match ofNumeral? (Unicode.trim numeral) u with
      | some span => .ok span
      | none => .error (.unit u)
  | none =>
      match ofNumeral? trimmed .seconds with
      | some span => .ok span
      | none => .error .plain

def render (s : Span) : String :=
  if s.subsecNanos = 0 then String.ofList (Decimal.write s.seconds ++ TimeUnit.seconds.letters)
  else String.ofList (Decimal.write s.millis ++ TimeUnit.millis.letters)

/-- A fraction of `width` digits without trailing zeros, after its point. -/
def fraction (value width : Nat) : List Char :=
  let digits := Decimal.write value
  let padded := List.replicate (width - digits.length) '0' ++ digits
  let kept := (padded.reverse.dropWhile (· = '0')).reverse
  if kept.isEmpty then [] else '.' :: kept

/-- How a span is shown: in seconds from one second on, below that in the greatest unit among
milli-, micro- and nanoseconds that it reaches, with as many decimals as it needs. -/
def inspect (s : Span) : String :=
  let nanos := s.subsecNanos
  let shown :=
    if s.seconds ≠ 0 then Decimal.write s.seconds ++ fraction nanos 9 ++ ['s']
    else if nanosPerMilli ≤ nanos then
      Decimal.write (nanos / nanosPerMilli) ++ fraction (nanos % nanosPerMilli) 6 ++ ['m', 's']
    else if 1000 ≤ nanos then
      Decimal.write (nanos / 1000) ++ fraction (nanos % 1000) 3 ++ ['µ', 's']
    else Decimal.write nanos ++ ['n', 's']
  String.ofList shown

end Span

end Enrollment
