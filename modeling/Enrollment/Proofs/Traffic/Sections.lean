import Enrollment.Proofs.Registry.Calls

/-!
# The sections of a call

A call to register does not happen at once. It reads the clock, and then it comes to its answer by
sections, each of which touches one thing that calls share: the nonce is checked and marked in one
breath; an expired nonce is removed in another, and counted as evicted in a third; the directory is
asked; and every count is raised on its own. A sweep reads the clock, looks at one nonce after
another, and in the end notes the earliest expiry it has seen and counts what it has removed. What
is between two sections of one caller is up to the others.

A call that nobody gets in the way of comes to what the registry answers.
-/

namespace Enrollment

namespace Ledger

/-- The ledger without the nonce with a token, if that has expired. -/
def discard (l : Ledger) (now : Instant) (token : String) : Ledger :=
  { l with entries := l.entries.filter fun n => !(n.token == token && n.isExpiredAt now) }

/-- Counts nonces that were removed. -/
def countEvicted (l : Ledger) (removed : Nat) : Ledger :=
  { l with tally := { l.tally with evicted := l.tally.evicted + removed.toUInt64 } }

/-- Checking a token and marking it comes to what the token is judged to be. -/
theorem checkAndMark_fst (l : Ledger) (now : Instant) (token : String) :
    (l.checkAndMark now token).1 = l.judge now token := by
  unfold checkAndMark
  cases l.judge now token <;> rfl

end Ledger

namespace Registry

/-- What a section lets see of the nonces and accounts. -/
inductive Report where
  /-- A token was handed out. -/
  | issued (token : String)
  /-- A token was checked, and marked if it could be used. -/
  | judged (token : String) (outcome : Except NonceError Unit)
  /-- The directory was asked for an account. -/
  | asked (userId : String) (answer : Except AccountError AccountInfo)
  | quiet

/-- What a call to register will do next. -/
inductive Stage where
  /-- Check the nonce, at the reading of the clock with which the call began. -/
  | presenting (now : Instant)
  /-- Remove the nonce, which had expired at that reading. -/
  | expired (now : Instant)
  /-- Count nonces that it removed. -/
  | removed (count : Nat)
  /-- Count that the nonce was rejected. -/
  | rejected (e : NonceError)
  /-- Count that the nonce was consumed, and compare the signature. -/
  | accepted
  /-- Count that the attempt was denied. -/
  | denied (reason : Rejection)
  /-- Count that the attempt was authorized. -/
  | authorized
  /-- Ask the directory. -/
  | creating
  /-- Count what the directory answered. -/
  | made (answer : Except AccountError AccountInfo)
  /-- Nothing any more. -/
  | answered (answer : Except TimeOverflow Verdict)

/-- A call to register. -/
structure Call where
  attempt : Attempt
  drawn : Credentials
  stage : Stage

namespace Call

def token (c : Call) : String :=
  c.attempt.fields.nonce

/-- A call up to its first section: an attempt of the wrong shape is refused, and a clock that
cannot be read stops it. -/
def begin (r : Registry) (reading : Reading) (attempt : Attempt) (drawn : Credentials) :
    Registry × Call :=
  match attempt.validate, reading with
  | .error e, _ => (r.countInvalid, ⟨attempt, drawn, .answered (.ok ⟨.error (.invalid e), none⟩)⟩)
  | .ok (), .error e => (r, ⟨attempt, drawn, .answered (.error e)⟩)
  | .ok (), .ok now => (r, ⟨attempt, drawn, .presenting now⟩)

/-- What follows from what the nonce was judged to be. -/
def afterJudgement (now : Instant) : Except NonceError Unit → Stage
  | .ok () => .accepted
  | .error .expired => .expired now
  | .error e => .rejected e

/-- What follows from comparing the signature. -/
def afterComparison : Except Rejection Authorization → Stage
  | .ok _ => .authorized
  | .error reason => .denied reason

/-- The next section of a call. -/
def next (r : Registry) (c : Call) : Report × Registry × Stage :=
  match c.stage with
  | .presenting now =>
      let (outcome, ledger) := r.ledger.checkAndMark now c.token
      (.judged c.token outcome, r.withLedger ledger, afterJudgement now outcome)
  | .expired now =>
      let ledger := r.ledger.discard now c.token
      (.quiet, r.withLedger ledger, .removed (r.ledger.size - ledger.size))
  | .removed count => (.quiet, r.withLedger (r.ledger.countEvicted count), .rejected .expired)
  | .rejected e => (.quiet, r.withLedger r.ledger.countRejected, .denied (.nonce e))
  | .accepted =>
      (.quiet, r.withLedger r.ledger.countConsumed,
        afterComparison (r.authority.authorize c.attempt))
  | .denied reason =>
      (.quiet, r.countDenied,
        .answered (.ok ⟨.error .denied, some (c.attempt.denialNotice reason)⟩))
  | .authorized => (.quiet, r.countAuthorized, .creating)
  | .creating =>
      match r.outage with
      | some reason => (.quiet, r, .made (.error (.unavailable reason)))
      | none =>
          let (answer, directory) := r.directory.register c.attempt.account c.drawn
          (.asked (r.directory.userIdFor c.attempt.account.username) answer, { r with directory },
            .made answer)
  | .made answer =>
      (.quiet, r.countAccount answer, .answered (.ok ⟨answer.mapError .account, none⟩))
  | .answered answer => (.quiet, r, .answered answer)

/-- A number of sections of a call, with nothing between them. -/
def proceed (r : Registry) (c : Call) : Nat → Registry × Call
  | 0 => (r, c)
  | sections + 1 =>
      let (_, registry, stage) := c.next r
      proceed registry { c with stage } sections

/-! ## A call on its own -/

section Alone

variable {r : Registry} {now : Instant} {attempt : Attempt} {drawn : Credentials}

theorem proceed_answered (r : Registry) (answer : Except TimeOverflow Verdict) (sections : Nat) :
    proceed r ⟨attempt, drawn, .answered answer⟩ sections =
      (r, ⟨attempt, drawn, .answered answer⟩) := by
  induction sections with
  | zero => rfl
  | succ sections ih => exact ih

theorem proceed_denied (r : Registry) (reason : Rejection) (sections : Nat) :
    proceed r ⟨attempt, drawn, .denied reason⟩ (sections + 1) =
      (r.countDenied, ⟨attempt, drawn,
        .answered (.ok ⟨.error .denied, some (attempt.denialNotice reason)⟩)⟩) :=
  proceed_answered _ _ sections

theorem proceed_authorized (r : Registry) (sections : Nat) :
    proceed r ⟨attempt, drawn, .authorized⟩ (sections + 3) =
      let (answer, r) := r.countAuthorized.createAccount attempt.account drawn
      (r, ⟨attempt, drawn, .answered (.ok ⟨answer.mapError .account, none⟩)⟩) := by
  cases houtage : r.outage with
  | some reason =>
      have houtage' : r.countAuthorized.outage = some reason := houtage
      rw [createAccount_of_outage houtage']
      simp only [proceed, next, houtage']
      exact proceed_answered _ _ sections
  | none =>
      have houtage' : r.countAuthorized.outage = none := houtage
      rw [createAccount_of_reach houtage']
      simp only [proceed, next, houtage']
      exact proceed_answered _ _ sections

theorem proceed_presenting_rejected {e : NonceError}
    (hjudge : r.ledger.judge now attempt.fields.nonce = .error e) :
    proceed r ⟨attempt, drawn, .presenting now⟩ 5 =
      ((r.present now attempt).countDenied, ⟨attempt, drawn,
        .answered (.ok ⟨.error .denied, some (attempt.denialNotice (.nonce e))⟩)⟩) := by
  have hcheck : r.ledger.checkAndMark now attempt.fields.nonce = (.error e, r.ledger) := by
    simp only [Ledger.checkAndMark, hjudge]
  unfold present
  rw [Ledger.consumeAt_eq, hjudge]
  -- Only an expired nonce takes the two sections more that remove it and count it.
  cases e <;> simp only [proceed, next, token, hcheck, afterJudgement] <;> rfl

theorem proceed_presenting_accepted (hjudge : r.ledger.judge now attempt.fields.nonce = .ok ())
    (sections : Nat) : proceed r ⟨attempt, drawn, .presenting now⟩ (sections + 2) =
      proceed (r.present now attempt)
        ⟨attempt, drawn, afterComparison (r.authority.authorize attempt)⟩ sections := by
  have hcheck : r.ledger.checkAndMark now attempt.fields.nonce =
      (.ok (), r.ledger.markConsumed attempt.fields.nonce) := by
    simp only [Ledger.checkAndMark, hjudge]
  unfold present
  rw [Ledger.consumeAt_eq, hjudge]
  simp only [proceed, next, token, hcheck, afterJudgement]
  rfl

end Alone

/-- A call that nobody gets in the way of is answered by its fifth section, and as the registry
answers. -/
theorem proceed_begin (r : Registry) (reading : Reading) (attempt : Attempt)
    (drawn : Credentials) :
    let (registry, call) := begin r reading attempt drawn
    call.proceed registry 5 = ((r.register reading attempt drawn).2,
      ⟨attempt, drawn, .answered (r.register reading attempt drawn).1⟩) := by
  cases hvalid : attempt.validate with
  | error e =>
      rw [register_of_invalid hvalid]
      simp only [begin, hvalid]
      exact proceed_answered _ _ 5
  | ok _ =>
      cases reading with
      | error e =>
          rw [register_of_unread hvalid]
          simp only [begin, hvalid]
          exact proceed_answered _ _ 5
      | ok now =>
          simp only [begin, hvalid]
          cases hjudge : r.ledger.judge now attempt.fields.nonce with
          | error e =>
              have hnot : ¬ r.Admits now attempt := by
                rintro ⟨hok, -⟩
                cases hjudge.symm.trans hok
              rw [register_of_rejected hvalid hnot, proceed_presenting_rejected hjudge]
              simp only [rejection, hjudge]
          | ok _ =>
              rw [proceed_presenting_accepted hjudge 3]
              by_cases hverify : r.authority.secret.verify attempt.fields.message attempt.mac = true
              · rw [register_of_admitted hvalid ⟨hjudge, hverify⟩]
                simp only [Authority.authorize, hverify, if_true]
                exact proceed_authorized (r.present now attempt) 0
              · have hnot : ¬ r.Admits now attempt := fun hadmits => hverify hadmits.2
                rw [register_of_rejected hvalid hnot]
                simp only [Authority.authorize, if_neg hverify, rejection, hjudge]
                exact proceed_denied (r.present now attempt) .signature 2

end Call

/-! ## Issuing -/

/-- What a call for a token does once it has swept, if a sweep was due. No other call for a token
comes in between. -/
def grant (r : Registry) (now : Instant) (token : String) : Report × Registry :=
  match r.ledger.grant now token with
  | (.ok (.ok token), ledger) => (.issued token, (r.withLedger ledger).countIssued)
  | (_, ledger) => (.quiet, r.withLedger ledger)

theorem issue_eq_grant (r : Registry) (now : Instant) (token : String) :
    (r.issue (.ok now) token).2 =
      ((r.withLedger (r.ledger.makeRoom now)).grant now token).2 := by
  rw [issue_eq]
  simp only [Ledger.issue, grant]
  change _ = (match (r.ledger.makeRoom now).grant now token with
    | (.ok (.ok token), ledger) =>
        (Report.issued token, ((r.withLedger (r.ledger.makeRoom now)).withLedger ledger).countIssued)
    | (_, ledger) => (.quiet, (r.withLedger (r.ledger.makeRoom now)).withLedger ledger)).2
  rcases (r.ledger.makeRoom now).grant now token with ⟨_ | _ | _, _⟩ <;> rfl

end Registry

/-! ## Sweeping -/

/-- A sweep that is under way: the reading of the clock with which it began, how many nonces it has
removed, and the earliest expiry among those that it has left. -/
structure Sweep where
  now : Instant
  removed : Nat
  earliest : Option Instant

namespace Sweep

def begin (now : Instant) : Sweep :=
  ⟨now, 0, none⟩

/-- Looks at the nonce with a token. -/
def visit (w : Sweep) (l : Ledger) (token : String) : Sweep × Ledger :=
  match l.find? token with
  | none => (w, l)
  | some n =>
      if n.isExpiredAt w.now then
        let left := l.discard w.now token
        ({ w with removed := w.removed + (l.size - left.size) }, left)
      else
        let earliest := match w.earliest with
          | none => n.expiresAt
          | some expiry => n.expiresAt.earlier expiry
        ({ w with earliest := some earliest }, l)

def finish (w : Sweep) (l : Ledger) : Ledger :=
  { l.countEvicted w.removed with nextExpiry := w.earliest }

@[simp] theorem now_visit (w : Sweep) (l : Ledger) (token : String) :
    (w.visit l token).1.now = w.now := by
  unfold visit
  split
  · rfl
  · split <;> rfl

/-- Looks at nonces one after another, the last one first. -/
def visitAll (w : Sweep) (l : Ledger) (ns : List Nonce) : Sweep × Ledger :=
  ns.foldr (fun n state => state.1.visit state.2 n.token) (w, l)

end Sweep

end Enrollment
