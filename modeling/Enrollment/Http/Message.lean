import Enrollment.Net.Address
import Enrollment.Text.Utf8
import Enrollment.Time.Span

/-!
# Requests and answers

What the gateway needs of an HTTP request and of an answer. A header's value is bytes; it counts as
text only if every byte is visible ASCII, a space or a tab. Of several headers of one name the first
one counts.
-/

namespace Enrollment.Http

/-- A request. `arrival` is the time until the part of the body that is read has arrived. -/
structure Request where
  method : String
  target : String
  headers : List (String × List UInt8)
  body : List UInt8
  peer : Option Address
  arrival : Span

namespace Request

/-- Whether a character may stand in the name of a scheme. -/
def isSchemeChar (c : Char) : Bool :=
  c.isAlphanum || c == '+' || c == '-' || c == '.' || c == '~'

/-- Whether a character ends the path in a target. -/
def endsPath (c : Char) : Bool :=
  c == '?' || c == '#'

/-- What follows scheme and authority in a target that starts with `scheme://authority`. -/
def afterAuthority? (target : List Char) : Option (List Char) :=
  match target.dropWhile isSchemeChar with
  | ':' :: '/' :: '/' :: rest => some (rest.dropWhile fun c => c != '/' && !endsPath c)
  | _ => none

/-- The path in a target, without its query. Where none follows an authority, it is the root. -/
def pathOf (target : List Char) : List Char :=
  match afterAuthority? target with
  | none => target.takeWhile (!endsPath ·)
  | some rest =>
      match rest.takeWhile (!endsPath ·) with
      | [] => ['/']
      | path => path

/-- The path that a request asks for. -/
def path (r : Request) : String :=
  String.ofList (pathOf r.target.toList)

/-- The value of the first header of a name, which is given in lower case. -/
def header? (r : Request) (name : String) : Option (List UInt8) :=
  (r.headers.find? fun h => h.1.toList.map Char.toLower == name.toList).map (·.2)

/-- Whether a byte may stand in a value that counts as text. -/
def isVisible (b : UInt8) : Bool :=
  (0x20 ≤ b && b < 0x7F) || b == 0x09

def textOf? (value : List UInt8) : Option (List Char) :=
  if value.all isVisible then some (value.map fun b => Char.ofNat b.toNat) else none

/-- The value of a header as text. -/
def headerText? (r : Request) (name : String) : Option (List Char) :=
  (r.header? name).bind textOf?

end Request

/-- An answer, with the headers that can occur. -/
structure Response where
  status : UInt16
  contentType : Option String
  allow : Option String
  retryAfter : Option String
  body : String
  deriving Repr, DecidableEq, Inhabited

namespace Response

def empty (status : UInt16) : Response :=
  ⟨status, none, none, none, ""⟩

/-- An answer whose body is JSON. -/
def json (status : UInt16) (body : String) : Response :=
  ⟨status, some "application/json", none, none, body⟩

/-- An answer whose body is plain text. -/
def plain (status : UInt16) (body : String) : Response :=
  ⟨status, some "text/plain; charset=utf-8", none, none, body⟩

def withoutBody (r : Response) : Response :=
  { r with body := "" }

end Response

end Enrollment.Http
