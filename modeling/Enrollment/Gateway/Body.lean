import Enrollment.Gateway.Refusal
import Enrollment.Http.MediaType

/-!
# The body of an attempt

How much of a body is accepted and how it is read. A request that announces a longer body than the
limit is turned away before anything else. A body may be no longer than the limit, than the length
that was announced, and than two mebibytes; it must be announced as JSON; and its first value must
be an attempt, while text after that value does not matter.
-/

namespace Enrollment.Gateway

/-- The greatest length of any body that is read. -/
def greatestBody : Nat := 2097152

/-- The length that a request announces, if it is a number. -/
def announcedLength? (r : Http.Request) : Option Nat :=
  (r.headerText? "content-length").bind (Decimal.read? (UInt64.size - 1))

/-- Whether a request announces a body beyond the limit. -/
def announcesTooMuch (limit : UInt64) (r : Http.Request) : Bool :=
  match announcedLength? r with
  | some length => limit.toNat < length
  | none => false

/-- The answer to a request that announces too much. -/
def announcedTooMuch : Http.Response :=
  .plain 413 "length limit exceeded"

/-- How long the body of a request may be. -/
def bodyLimit (limit : UInt64) (r : Http.Request) : Nat :=
  min (min limit.toNat ((announcedLength? r).getD limit.toNat)) greatestBody

/-- Whether the body of a request is announced as JSON. -/
def isAnnouncedAsJson (r : Http.Request) : Bool :=
  match r.headerText? "content-type" with
  | some mediaType => Http.MediaType.isJson mediaType
  | none => false

/-- The attempt in the body of a request. -/
def readAttempt (limit : UInt64) (r : Http.Request) : Except Refusal RegisterRequest :=
  if !isAnnouncedAsJson r then .error (.notJson "Content-Type must be application/json")
  else if bodyLimit limit r < r.body.length then .error .tooLarge
  else
    match Wire.registerRequest.read r.body with
    | .ok (request, _) => .ok request
    | .error fault => .error (.ofFault fault)

end Enrollment.Gateway
