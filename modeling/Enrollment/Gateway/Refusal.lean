import Enrollment.Http.Message
import Enrollment.Registry
import Enrollment.Wire

/-!
# Refusals

The gateway's answers to requests that it does not serve. Each has a status, a code for programs and
a message for people, and becomes an answer with a JSON body. All denied attempts are refused alike.
-/

namespace Enrollment.Gateway

/-- A refusal. -/
structure Refusal where
  status : UInt16
  errcode : String
  message : String
  retryAfterMillis : Option UInt64
  deriving Repr, DecidableEq

namespace Refusal

/-- A refusal that says nothing about trying again. -/
def plain (status : UInt16) (errcode message : String) : Refusal :=
  ⟨status, errcode, message, none⟩

/-- The answer to every attempt that is denied; its status is a setting. -/
def denied (status : UInt16) : Refusal :=
  plain status "M_FORBIDDEN" "Registration denied"

/-- Registration is switched off. -/
def disabled : Refusal :=
  plain 403 "M_FORBIDDEN" "Admin registration is not enabled"

/-- The body is JSON but no attempt. -/
def badJson (details : String) : Refusal :=
  plain 400 "M_BAD_JSON" details

/-- The body is not JSON. -/
def notJson (details : String) : Refusal :=
  plain 400 "M_NOT_JSON" details

/-- A field of the attempt breaks a rule. -/
def invalidParam (details : String) : Refusal :=
  plain 400 "M_INVALID_PARAM" details

/-- The username is taken. -/
def userInUse : Refusal :=
  plain 400 "M_USER_IN_USE" "User ID already taken"

/-- The body is too large. -/
def tooLarge : Refusal :=
  plain 413 "M_TOO_LARGE" "Request body too large"

/-- There is nothing at the path. -/
def notFound : Refusal :=
  plain 404 "M_NOT_FOUND" "Unrecognized request"

/-- The ledger is full; nonces that expire make room. -/
def noncesExhausted : Refusal :=
  plain 503 "M_LIMIT_EXCEEDED" "Too many outstanding nonces"

/-- The request took too long. -/
def timeout : Refusal :=
  plain 504 "M_UNKNOWN" "Request timed out"

/-- Something failed that is not the caller's fault. -/
def internal (details : String) : Refusal :=
  plain 500 "M_UNKNOWN" details

/-- The caller asks too often. -/
def rateLimited (retryAfterMillis : UInt64) : Refusal :=
  ⟨429, "M_LIMIT_EXCEEDED", "Too many requests", some retryAfterMillis⟩

/-- The refusal of an attempt that led to no account. -/
def ofRegistration (denialStatus : UInt16) : RegistrationError → Refusal
  | .denied => denied denialStatus
  | .invalid e => invalidParam e.message
  | .account (.userInUse _) => userInUse
  | .account (.unavailable _) => internal "Account creation failed"

/-- The refusal of a body that is no attempt. -/
def ofFault : Json.Fault → Refusal
  | .malformed => notJson "Failed to parse the request body as JSON"
  | .mismatch place cause =>
      let path := match place with
        | .whole => ""
        | .member name => name ++ ": "
        | .element index => "[" ++ toString index ++ "]: "
      badJson
        ("Failed to deserialize the JSON body into the target type: " ++ path ++ cause.message)

def body (r : Refusal) : ErrorResponse :=
  ⟨r.errcode, r.message, r.retryAfterMillis⟩

/-- The seconds after which to try again: the milliseconds rounded up, at least one. -/
def retryAfterSeconds (millis : UInt64) : Nat :=
  max ((millis.toNat + 999) / 1000) 1

def response (r : Refusal) : Http.Response :=
  { Http.Response.json r.status (Wire.errorResponse.render r.body) with
    retryAfter := r.retryAfterMillis.map fun millis => toString (retryAfterSeconds millis) }

def inspect (r : Refusal) : String :=
  "[" ++ toString r.status ++ " " ++ r.errcode ++ "] " ++ r.message

end Refusal

end Enrollment.Gateway
