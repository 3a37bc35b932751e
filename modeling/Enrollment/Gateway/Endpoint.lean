import Enrollment.Http.Message
import Enrollment.Wire

/-!
# Endpoints

The paths that the gateway knows and the methods that each allows. A path is compared byte for byte.
Where `GET` is allowed `HEAD` is too, and answers the same without the body. An answer to a method
that is not allowed names those that are.
-/

namespace Enrollment.Gateway

/-- What there is at the known paths. -/
inductive Endpoint where
  | nonce
  | register
  | health
  | metrics
  deriving Repr, DecidableEq

namespace Endpoint

def ofPath? (path : String) : Option Endpoint :=
  if path = Wire.noncePath then some .nonce
  else if path = Wire.registerPath then some .register
  else if path = "/health" then some .health
  else if path = "/metrics" then some .metrics
  else none

def methods : Endpoint → List String
  | .register => ["POST"]
  | _ => ["GET", "HEAD"]

def allows (e : Endpoint) (method : String) : Bool :=
  e.methods.contains method

/-- The list of methods as a header. -/
def allowHeader (e : Endpoint) : String :=
  ",".intercalate e.methods

/-- An endpoint's answer as it is sent. -/
def finish (e : Endpoint) (method : String) (r : Http.Response) : Http.Response :=
  if !e.allows method then { r with allow := some e.allowHeader }
  else if method = "HEAD" then r.withoutBody
  else r

end Endpoint

end Enrollment.Gateway
