import Enrollment.Attempt.Validation
import Enrollment.Authority
import Enrollment.Directory

/-!
# Registration

A registry answers attempts: an attempt of the wrong shape is refused before its nonce is touched,
then the authority decides, and only an authorized attempt reaches the directory of accounts. The
directory may be out of reach, which counts as a failure to make the account.
-/

namespace Enrollment

/-- Why an attempt led to no account. -/
inductive RegistrationError where
  | invalid (e : FieldError)
  | denied
  | account (e : AccountError)
  deriving Repr, DecidableEq

namespace RegistrationError

/-- The report of an attempt that led to no account. -/
def message : RegistrationError → String
  | .invalid e => e.message
  | .denied => denialMessage
  | .account e => e.message

def inspect : RegistrationError → String
  | .invalid e => Inspect.tagged "Invalid" e.inspect
  | .denied => Inspect.tagged "Denied" "RegistrationDenied"
  | .account e => Inspect.tagged "Account" e.inspect

end RegistrationError

/-- Counts of a registry's answers. They are words, and wrap. -/
structure RegistrationTally where
  noncesIssued : UInt64 := 0
  authorized : UInt64 := 0
  denied : UInt64 := 0
  invalid : UInt64 := 0
  accountsCreated : UInt64 := 0
  accountFailures : UInt64 := 0
  deriving Repr, DecidableEq, Inhabited

/-- All counts of a registry and its ledger at one moment. -/
structure Snapshot where
  registration : RegistrationTally
  nonces : NonceTally
  outstanding : Nat
  deriving Repr, DecidableEq

/-- An authority, a directory and what was counted. `outage` is the reason why the directory is out
of reach, if it is. -/
structure Registry where
  authority : Authority
  directory : Directory
  outage : Option String
  tally : RegistrationTally
  deriving DecidableEq

/-- The answer to an attempt, and what the log says if it was denied. -/
structure Verdict where
  answer : Except RegistrationError AccountInfo
  notice : Option DenialNotice

namespace Registry

/-- A registry that has answered nothing yet. -/
def create (ledger : Ledger) (secret : Secret) (directory : Directory) : Registry :=
  ⟨⟨secret, ledger⟩, directory, none, {}⟩

def ledger (r : Registry) : Ledger :=
  r.authority.ledger

def issue (r : Registry) (reading : Reading) (token : String) :
    Except TimeOverflow (Except TableFull String) × Registry :=
  match r.authority.issue reading token with
  | (.ok (.ok token), authority) =>
      (.ok (.ok token),
        { r with authority, tally := { r.tally with noncesIssued := r.tally.noncesIssued + 1 } })
  | (result, authority) => (result, { r with authority })

def sweep (r : Registry) (reading : Reading) : Except TimeOverflow Nat × Registry :=
  let (result, authority) := r.authority.sweep reading
  (result, { r with authority })

/-- The directory's part of an answer. -/
def createAccount (r : Registry) (account : NewAccount) (drawn : Credentials) :
    Except AccountError AccountInfo × Registry :=
  let (result, directory) : Except AccountError AccountInfo × Directory :=
    match r.outage with
    | some reason => (.error (.unavailable reason), r.directory)
    | none => r.directory.register account drawn
  match result with
  | .ok info =>
      (.ok info,
        { r with
          directory
          tally := { r.tally with accountsCreated := r.tally.accountsCreated + 1 } })
  | .error e =>
      (.error e,
        { r with
          directory
          tally := { r.tally with accountFailures := r.tally.accountFailures + 1 } })

def countInvalid (r : Registry) : Registry :=
  { r with tally := { r.tally with invalid := r.tally.invalid + 1 } }

def countDenied (r : Registry) : Registry :=
  { r with tally := { r.tally with denied := r.tally.denied + 1 } }

def countAuthorized (r : Registry) : Registry :=
  { r with tally := { r.tally with authorized := r.tally.authorized + 1 } }

def register (r : Registry) (reading : Reading) (attempt : Attempt) (drawn : Credentials) :
    Except TimeOverflow Verdict × Registry :=
  match attempt.validate with
  | .error e => (.ok ⟨.error (.invalid e), none⟩, r.countInvalid)
  | .ok () =>
      match r.authority.decide reading attempt with
      | (.error e, authority) => (.error e, { r with authority })
      | (.ok (.error reason), authority) =>
          (.ok ⟨.error .denied, some (attempt.denialNotice reason)⟩,
            { r with authority }.countDenied)
      | (.ok (.ok proof), authority) =>
          let (result, r) :=
            { r with authority }.countAuthorized.createAccount
              (proof.account attempt.displayName) drawn
          (.ok ⟨result.mapError .account, none⟩, r)

def snapshot (r : Registry) : Snapshot :=
  ⟨r.tally, r.ledger.tally, r.ledger.size⟩

/-- Puts the directory out of reach for a reason, or back within reach. -/
def setOutage (r : Registry) (outage : Option String) : Registry :=
  { r with outage }

end Registry

end Enrollment
