import Enrollment.Proofs.Events
import Enrollment.Registry.Session

/-!
# The calls of a registry

To issue is to pass on what the ledger answers. An attempt comes to one of four ends: it has the
wrong shape, the clock cannot be read, it is denied, or it is admitted and the directory answers.
It is admitted if its nonce may be used and its signature verifies.
-/

namespace Enrollment

/-- The account that an attempt asks for. -/
def Attempt.account (a : Attempt) : NewAccount where
  username := a.fields.username
  password := a.fields.password
  admin := a.fields.admin
  displayName := a.displayName
  userType := a.fields.userType

namespace Registry

variable {r : Registry} {now : Instant} {attempt : Attempt} {drawn : Credentials}

/-- The registry with another ledger. -/
def withLedger (r : Registry) (ledger : Ledger) : Registry :=
  { r with authority := { r.authority with ledger } }

/-! ## Issuing -/

/-- The registry after a nonce was issued. -/
def countIssued (r : Registry) : Registry :=
  { r with tally := { r.tally with noncesIssued := r.tally.noncesIssued + 1 } }

theorem issue_eq (r : Registry) (reading : Reading) (token : String) :
    r.issue reading token = ((r.ledger.issue reading token).1,
      match (r.ledger.issue reading token).1 with
      | .ok (.ok _) => (r.withLedger (r.ledger.issue reading token).2).countIssued
      | _ => r.withLedger (r.ledger.issue reading token).2) := by
  unfold issue Authority.issue Registry.ledger
  rcases r.authority.ledger.issue reading token with ⟨_ | _ | _, _⟩ <;> rfl

theorem authority_issue (r : Registry) (reading : Reading) (token : String) :
    (r.issue reading token).2.authority =
      { r.authority with ledger := (r.ledger.issue reading token).2 } := by
  rw [issue_eq]
  rcases (r.ledger.issue reading token).1 with _ | _ | _ <;> rfl

/-! ## Answering an attempt -/

/-- The registry after the nonce of an attempt was presented. -/
def present (r : Registry) (now : Instant) (attempt : Attempt) : Registry :=
  r.withLedger (r.ledger.consumeAt now attempt.fields.nonce).2

/-- The nonce of an attempt may be used, and its signature verifies. -/
def Admits (r : Registry) (now : Instant) (attempt : Attempt) : Prop :=
  r.ledger.judge now attempt.fields.nonce = .ok () ∧
    r.authority.secret.verify attempt.fields.message attempt.mac = true

theorem decide_eq (a : Authority) (now : Instant) (attempt : Attempt) :
    a.decide (.ok now) attempt =
      (.ok (match a.ledger.judge now attempt.fields.nonce with
        | .ok () => a.authorize attempt
        | .error e => .error (.nonce e)),
      { a with ledger := (a.ledger.consumeAt now attempt.fields.nonce).2 }) := by
  simp only [Authority.decide, Ledger.consume, Ledger.consumeAt_eq]
  cases a.ledger.judge now attempt.fields.nonce <;> rfl

/-- An attempt is authorized exactly if it is admitted. -/
theorem decide_eq_ok_iff {proof : Authorization} :
    (r.authority.decide (.ok now) attempt).1 = .ok (.ok proof) ↔
      r.Admits now attempt ∧ proof = ⟨attempt.fields.nonce, attempt.mac, attempt.fields⟩ := by
  rw [decide_eq]
  unfold Admits Registry.ledger Authority.authorize
  cases r.authority.ledger.judge now attempt.fields.nonce with
  | error e => simp
  | ok _ =>
      cases r.authority.secret.verify attempt.fields.message attempt.mac <;> simp [eq_comm]

theorem register_of_invalid {reading : Reading} {e : FieldError}
    (hinvalid : attempt.validate = .error e) :
    r.register reading attempt drawn = (.ok ⟨.error (.invalid e), none⟩, r.countInvalid) := by
  simp [register, hinvalid]

theorem register_of_unread {e : TimeOverflow} (hvalid : attempt.validate = .ok ()) :
    r.register (.error e) attempt drawn = (.error e, r) := by
  simp [register, hvalid, Authority.decide, Ledger.consume]

/-- Why an attempt that is not admitted is denied. -/
def rejection (r : Registry) (now : Instant) (attempt : Attempt) : Rejection :=
  match r.ledger.judge now attempt.fields.nonce with
  | .error e => .nonce e
  | .ok () => .signature

theorem register_of_rejected (hvalid : attempt.validate = .ok ()) (hnot : ¬ r.Admits now attempt)
    (drawn : Credentials) : r.register (.ok now) attempt drawn =
      (.ok ⟨.error .denied, some (attempt.denialNotice (r.rejection now attempt))⟩,
        (r.present now attempt).countDenied) := by
  unfold Admits Registry.ledger at hnot
  unfold rejection Registry.ledger
  simp only [register, hvalid, decide_eq]
  cases hjudge : r.authority.ledger.judge now attempt.fields.nonce with
  | error e => rfl
  | ok _ =>
      have hverify : ¬ r.authority.secret.verify attempt.fields.message attempt.mac = true :=
        fun hverify => hnot ⟨hjudge, hverify⟩
      simp only [Authority.authorize, if_neg hverify]
      rfl

theorem register_of_denied (hvalid : attempt.validate = .ok ()) (hnot : ¬ r.Admits now attempt)
    (drawn : Credentials) : ∃ reason, r.register (.ok now) attempt drawn =
      (.ok ⟨.error .denied, some (attempt.denialNotice reason)⟩,
        (r.present now attempt).countDenied) :=
  ⟨_, register_of_rejected hvalid hnot drawn⟩

theorem register_of_admitted (hvalid : attempt.validate = .ok ()) (hadmits : r.Admits now attempt) :
    r.register (.ok now) attempt drawn =
      let (result, r) := (r.present now attempt).countAuthorized.createAccount attempt.account drawn
      (.ok ⟨result.mapError .account, none⟩, r) := by
  obtain ⟨hjudge, hverify⟩ := hadmits
  unfold Registry.ledger at hjudge
  simp only [register, hvalid, decide_eq, hjudge, Authority.authorize, hverify, if_true]
  rfl

/-- The registry after its directory answered. -/
def countAccount (r : Registry) : Except AccountError AccountInfo → Registry
  | .ok _ => { r with tally := { r.tally with accountsCreated := r.tally.accountsCreated + 1 } }
  | .error _ => { r with tally := { r.tally with accountFailures := r.tally.accountFailures + 1 } }

theorem createAccount_of_outage {reason : String} (houtage : r.outage = some reason)
    (account : NewAccount) (drawn : Credentials) : r.createAccount account drawn =
      (.error (.unavailable reason), r.countAccount (.error (.unavailable reason))) := by
  obtain ⟨authority, directory, outage, tally⟩ := r
  cases houtage
  rfl

theorem createAccount_of_reach (houtage : r.outage = none) (account : NewAccount)
    (drawn : Credentials) : r.createAccount account drawn =
      ((r.directory.register account drawn).1,
        { r with directory := (r.directory.register account drawn).2 }.countAccount
          (r.directory.register account drawn).1) := by
  obtain ⟨authority, directory, outage, tally⟩ := r
  cases houtage
  simp only [createAccount]
  rcases directory.register account drawn with ⟨_ | _, _⟩ <;> rfl

theorem createAccount_withLedger (account : NewAccount) (drawn : Credentials) (r : Registry)
    (l : Ledger) : (r.withLedger l).createAccount account drawn =
      ((r.createAccount account drawn).1, (r.createAccount account drawn).2.withLedger l) := by
  unfold Registry.createAccount Registry.withLedger
  cases r.outage with
  | some reason => rfl
  | none =>
      simp only
      rcases r.directory.register account drawn with ⟨_ | _, _⟩ <;> rfl

/-- To make an account, or to fail to, changes the directory and the counts at most. -/
theorem exists_of_createAccount (r : Registry) (account : NewAccount) (drawn : Credentials) :
    ∃ directory tally, (r.createAccount account drawn).2 = { r with directory, tally } := by
  unfold createAccount
  split
  next result directory _ => cases result <;> exact ⟨directory, _, rfl⟩

theorem authority_createAccount (r : Registry) (account : NewAccount) (drawn : Credentials) :
    (r.createAccount account drawn).2.authority = r.authority := by
  obtain ⟨directory, tally, hleft⟩ := r.exists_of_createAccount account drawn
  rw [hleft]

/-- To the authority, an attempt of the right shape is its nonce being presented, and no more. -/
theorem authority_register (r : Registry) (reading : Reading) (hvalid : attempt.validate = .ok ()) :
    (r.register reading attempt drawn).2.authority =
      { r.authority with ledger := (r.ledger.consume reading attempt.fields.nonce).2 } := by
  cases reading with
  | error e =>
      rw [register_of_unread hvalid]
      rfl
  | ok now =>
      by_cases hadmits : r.Admits now attempt
      · rw [register_of_admitted hvalid hadmits]
        exact authority_createAccount _ _ _
      · obtain ⟨reason, hdenied⟩ := register_of_denied hvalid hadmits drawn
        rw [hdenied]
        rfl

/-- The log is told exactly of the attempts that are denied. -/
theorem notice_ne_none_iff {reading : Reading} {verdict : Verdict}
    (hverdict : (r.register reading attempt drawn).1 = .ok verdict) :
    verdict.notice ≠ none ↔ verdict.answer = .error .denied := by
  have hother (result : Except AccountError AccountInfo) :
      result.mapError RegistrationError.account ≠ .error .denied := by
    cases result <;> exact fun h => nomatch h
  cases hvalid : attempt.validate with
  | error e =>
      rw [register_of_invalid hvalid] at hverdict
      cases hverdict
      simp
  | ok _ =>
      cases reading with
      | error e =>
          rw [register_of_unread hvalid] at hverdict
          cases hverdict
      | ok now =>
          by_cases hadmits : r.Admits now attempt
          · rw [register_of_admitted hvalid hadmits] at hverdict
            cases hverdict
            simpa using hother _
          · rw [register_of_rejected hvalid hadmits] at hverdict
            cases hverdict
            simp

namespace Session

/-- An event of a session. -/
abbrev Occurrence : Type :=
  Event Session Action (Except TimeOverflow Answer)

end Session

end Registry

end Enrollment
