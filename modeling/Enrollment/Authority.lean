import Enrollment.Nonce.Ledger
import Enrollment.Signature

/-!
# The decision on an attempt

An authority issues nonces and decides attempts: first the nonce is consumed, then the signature is
compared. The nonce is spent even if the signature turns out wrong. Why an attempt was rejected is
noted for the log and stays inside; a caller only learns that it was denied.
-/

namespace Enrollment

/-- Why an attempt was rejected. -/
inductive Rejection where
  | nonce (e : NonceError)
  | signature
  deriving Repr, DecidableEq

namespace Rejection

/-- What is logged of a signature that differs. -/
def mismatch : String := "signature mismatch"

def message : Rejection → String
  | .nonce e => "nonce invalid: " ++ e.message
  | .signature => "bad signature"

def inspect : Rejection → String
  | .nonce e => Inspect.tagged "NonceInvalid" e.inspect
  | .signature => Inspect.tagged "BadSignature" "SignatureMismatch"

end Rejection

/-- What the log says of a denied attempt. -/
structure DenialNotice where
  nonce : String
  username : String
  reason : Rejection
  deriving Repr, DecidableEq

/-- The notice for an attempt: of its nonce only the leading characters. -/
def Attempt.denialNotice (a : Attempt) (reason : Rejection) : DenialNotice :=
  ⟨Text.excerpt a.fields.nonce, a.fields.username, reason⟩

/-- The report of a denied attempt, the same for every reason. -/
def denialMessage : String := "registration denied"

/-- Issues nonces and decides attempts. -/
structure Authority where
  secret : Secret
  ledger : Ledger
  deriving DecidableEq

namespace Authority

def issue (a : Authority) (reading : Reading) (token : String) :
    Except TimeOverflow (Except TableFull String) × Authority :=
  let (result, ledger) := a.ledger.issue reading token
  (result, { a with ledger })

def sweep (a : Authority) (reading : Reading) : Except TimeOverflow Nat × Authority :=
  let (result, ledger) := a.ledger.sweep reading
  (result, { a with ledger })

/-- The signature's part of the decision. -/
def authorize (a : Authority) (attempt : Attempt) : Except Rejection Authorization :=
  if a.secret.verify attempt.fields.message attempt.mac then
    .ok ⟨attempt.fields.nonce, attempt.mac, attempt.fields⟩
  else .error .signature

def decide (a : Authority) (reading : Reading) (attempt : Attempt) :
    Except TimeOverflow (Except Rejection Authorization) × Authority :=
  match a.ledger.consume reading attempt.fields.nonce with
  | (.error e, ledger) => (.error e, { a with ledger })
  | (.ok (.error e), ledger) => (.ok (.error (.nonce e)), { a with ledger })
  | (.ok (.ok ()), ledger) => (.ok (a.authorize attempt), { a with ledger })

def inspect (a : Authority) : String :=
  Inspect.record "RegistrationVerifier"
    [("nonces", a.ledger.inspect), ("codec", a.secret.inspectSigner)]

end Authority

end Enrollment
