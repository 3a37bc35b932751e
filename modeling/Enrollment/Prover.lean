import Enrollment.Http.Status
import Enrollment.Signature
import Enrollment.Wire

/-!
# The side that registers

A prover holds the secret and asks a gateway for accounts: it fetches a nonce, signs the request for
an account together with it, and submits both. A nonce serves for one submission only; whoever tries
again starts with a fresh one.

What leaves the prover is a call and what comes back a reply. How calls are carried is left to a
function in any monad, so a prover can face a network, prepared replies or a gateway alike.
-/

namespace Enrollment

/-- The account that a prover asks for, a privileged one unless said otherwise. -/
structure AccountRequest where
  username : String
  password : String
  displayName : Option String := none
  admin : Bool := true
  userType : Option String := none
  deriving Repr, DecidableEq

namespace AccountRequest

def inspect (r : AccountRequest) : String :=
  Inspect.partialRecord "RegisterOptions"
    [("username", Text.quoted r.username), ("display_name", Inspect.optionalText r.displayName),
      ("admin", Inspect.flag r.admin), ("user_type", Inspect.optionalText r.userType)]

/-- What is signed when a nonce is used for a request. -/
def fields (r : AccountRequest) (nonce : String) : Fields :=
  ⟨nonce, r.username, r.password, r.admin, r.userType⟩

end AccountRequest

/-- A prover: where the gateway is, and the secret. -/
structure Prover where
  baseUrl : String
  secret : Secret
  deriving DecidableEq

namespace Prover

/-- A call of a gateway. One with a body sends it as JSON. -/
structure Call where
  method : String
  path : String
  body : Option String
  deriving Repr, DecidableEq

/-- What comes back from a call. -/
inductive Reply where
  /-- No answer arrived. -/
  | lost
  | answer (status : UInt16) (body : List UInt8)
  deriving Repr, DecidableEq

/-- Why there is no nonce. -/
inductive NonceFault where
  | lost
  | refused (status : UInt16) (body : String)
  | unreadable
  | empty
  deriving Repr, DecidableEq

/-- Why there is no account. -/
inductive Failure where
  | nonce (fault : NonceFault)
  | rejected (status : UInt16) (errcode message : String)
  /-- The submission was not answered, or succeeded with an answer that is no account. -/
  | unanswered
  deriving Repr, DecidableEq

def NonceFault.message : NonceFault → String
  | .lost => "no answer"
  | .refused status body => Http.describeStatus status ++ ": " ++ body
  | .unreadable => "the answer is not a nonce"
  | .empty => "empty nonce"

def Failure.message : Failure → String
  | .nonce fault => "nonce unavailable: " ++ fault.message
  | .rejected status errcode message =>
      "registration rejected (" ++ Http.describeStatus status ++ "): " ++ errcode ++ ": " ++ message
  | .unanswered => "HTTP request failed: no usable answer"

/-- Where a gateway is looked for if nothing is said. -/
def defaultUrl : String := "http://localhost:8008"

/-- A prover for the gateway at a URL, which may end in slashes. -/
def create (url : String) (secret : Secret) : Prover :=
  ⟨String.ofList (url.toList.reverse.dropWhile (· == '/')).reverse, secret⟩

/-- The call that asks for a nonce. -/
def nonceCall : Call :=
  ⟨"GET", Wire.noncePath, none⟩

def readNonce : Reply → Except NonceFault String
  | .lost => .error .lost
  | .answer status body =>
      if Http.isSuccess status then
        match Wire.nonceResponse.parse body with
        | .ok response => if response.nonce.isEmpty then .error .empty else .ok response.nonce
        | .error _ => .error .unreadable
      else .error (.refused status (Utf8.decodeLossy body))

/-- The attempt that a prover makes with signed fields. -/
def attempt (p : Prover) (f : Fields) (displayName : Option String) : Attempt :=
  ⟨f, p.secret.signFields f, displayName⟩

/-- The call that submits an attempt. -/
def submission (a : Attempt) : Call :=
  ⟨"POST", Wire.registerPath, some (Wire.registerRequest.render (.ofAttempt a))⟩

/-- The failure that a refused submission comes to. A body that is no refusal is its message. -/
def rejection (status : UInt16) (body : List UInt8) : Failure :=
  let text := Utf8.decodeLossy body
  match Wire.errorResponse.parse (Utf8.encode text) with
  | .ok response => .rejected status response.errcode response.error
  | .error _ => .rejected status "M_UNKNOWN" text

def readAccount : Reply → Except Failure AccountInfo
  | .lost => .error .unanswered
  | .answer status body =>
      if Http.isSuccess status then
        match Wire.accountInfo.parse body with
        | .ok info => .ok info
        | .error _ => .error .unanswered
      else .error (rejection status body)

variable {m : Type → Type} [Monad m] (carry : Call → m Reply)

def fetchNonce : m (Except NonceFault String) := do
  return readNonce (← carry nonceCall)

/-- Signs fields and submits them. -/
def submit (p : Prover) (f : Fields) (displayName : Option String) :
    m (Except Failure AccountInfo) := do
  return readAccount (← carry (submission (p.attempt f displayName)))

/-- Fetches a nonce and submits a request with it. Without a nonce nothing is submitted. -/
def register (p : Prover) (r : AccountRequest) : m (Except Failure AccountInfo) := do
  match ← fetchNonce carry with
  | .error fault => return .error (.nonce fault)
  | .ok nonce => p.submit carry (r.fields nonce) r.displayName

end Prover

end Enrollment
