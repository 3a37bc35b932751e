import Enrollment.Proofs.Ledger.Stoppage
import Enrollment.Proofs.Registry.Nonces
import Enrollment.Proofs.Registry.Transparency

/-!
# Steps that a time out of range stops

A registry that a time out of range stops in the middle of a call has counted nothing, made no
account and spent no nonce: an attempt comes to the clock before it comes to its nonce, and a token
is inserted after its expiry is known. What the ledger may have lost had expired. So a run goes on
as if the stopped step had not been taken.
-/

namespace Enrollment

/-- A reason that does not tell an expired nonce from a forgotten one. -/
def Rejection.blurred : Rejection → Rejection
  | .nonce e => .nonce e.blurred
  | .signature => .signature

def DenialNotice.blurred (n : DenialNotice) : DenialNotice :=
  { n with reason := n.reason.blurred }

/-- An answer whose notice does not tell an expired nonce from a forgotten one. -/
def Verdict.blurred (v : Verdict) : Verdict :=
  { v with notice := v.notice.map DenialNotice.blurred }

namespace Registry

/-- An answer that does not tell when expired nonces were removed. -/
def Answer.blurred : Answer → Answer
  | .verdict v => .verdict v.blurred
  | .swept _ => .swept 0
  | answer => answer

variable {r r' : Registry} {now : Instant} {elapsed : Span} {clock : Clock} {reading : Reading}
  {attempt : Attempt} {drawn : Credentials} {e : TimeOverflow}

theorem Alike.symm (h : r.Alike r' elapsed) : r'.Alike r elapsed :=
  ⟨by rw [h.eq_withLedger]; rfl, h.ledger.symm⟩

/-! ## What a stopped call leaves -/

theorem register_of_error (hstopped : (r.register reading attempt drawn).1 = .error e) :
    (r.register reading attempt drawn).2 = r := by
  cases hvalid : attempt.validate with
  | error _ =>
      rw [register_of_invalid hvalid] at hstopped
      cases hstopped
  | ok _ =>
      cases reading with
      | error _ => rw [register_of_unread hvalid]
      | ok now =>
          by_cases hadmits : r.Admits now attempt
          · rw [register_of_admitted hvalid hadmits] at hstopped
            cases hstopped
          · rw [register_of_rejected hvalid hadmits] at hstopped
            cases hstopped

theorem issue_of_error {token : String} (hstopped : (r.issue reading token).1 = .error e) :
    (r.issue reading token).2 = r.withLedger (r.ledger.issue reading token).2 ∧
      (r.ledger.issue reading token).1 = .error e := by
  rw [issue_eq] at hstopped ⊢
  simp only at hstopped
  rw [hstopped]
  exact ⟨rfl, rfl⟩

/-! ## Attempts, up to what an expired nonce is refused for -/

theorem rejection_blurred (r : Registry) (now : Instant) (attempt : Attempt) :
    (r.rejection now attempt).blurred =
      match (r.ledger.judge now attempt.fields.nonce).mapError NonceError.blurred with
      | .error e => .nonce e
      | .ok () => .signature := by
  unfold rejection
  cases r.ledger.judge now attempt.fields.nonce <;> rfl

theorem Alike.rejection_blurred (h : r.Alike r' elapsed) (hnow : now.nanos = elapsed.nanos)
    (attempt : Attempt) :
    (r.rejection now attempt).blurred = (r'.rejection now attempt).blurred := by
  rw [Registry.rejection_blurred, Registry.rejection_blurred, h.ledger.judge_blurred hnow]

theorem Alike.register_blurred (h : r.Alike r' clock.elapsed) (attempt : Attempt)
    (drawn : Credentials) :
    (r.register clock.read attempt drawn).1.map Verdict.blurred =
      (r'.register clock.read attempt drawn).1.map Verdict.blurred := by
  have hanswer := (h.register attempt drawn).1
  cases hvalid : attempt.validate with
  | error e => rw [register_of_invalid hvalid, register_of_invalid hvalid]
  | ok _ =>
      cases hread : clock.read with
      | error e => rw [register_of_unread hvalid, register_of_unread hvalid]
      | ok now =>
          have hnow := Clock.read_eq_ok_iff.mp hread
          rw [hread] at hanswer
          by_cases hadmits : r.Admits now attempt
          · have hadmits' := (h.admits_iff hnow attempt).mp hadmits
            rw [register_of_admitted hvalid hadmits, register_of_admitted hvalid hadmits']
              at hanswer ⊢
            exact congrArg (fun answer => Except.ok (Verdict.mk answer none))
              (Except.ok.inj hanswer)
          · have hadmits' := (h.admits_iff hnow attempt).not.mp hadmits
            rw [register_of_rejected hvalid hadmits, register_of_rejected hvalid hadmits']
            have hreason := h.rejection_blurred hnow attempt
            simp only [Except.map, Verdict.blurred, Option.map_some, DenialNotice.blurred,
              Attempt.denialNotice, hreason]

namespace Session

variable {s s' : Session} {action : Action}

/-! ## Steps and runs -/

/-- Nothing is lost but nonces that have expired: the clock, the accounts and all counts but that of
evicted nonces are as they were. -/
structure LosesOnlyExpired (s s' : Session) : Prop where
  clock_eq : s'.clock = s.clock
  secret_eq : s'.registry.authority.secret = s.registry.authority.secret
  directory_eq : s'.registry.directory = s.registry.directory
  outage_eq : s'.registry.outage = s.registry.outage
  tally_eq : s'.registry.tally = s.registry.tally
  ledger : s.registry.ledger.LosesOnlyExpired s'.registry.ledger s.clock.elapsed

/-- A step that is stopped leaves all but its ledger as it was. -/
theorem exists_of_step_error (hstopped : (s.step action).1 = .error e) :
    ∃ l, (s.step action).2 = ⟨s.clock, s.registry.withLedger l⟩ ∧
      s.registry.ledger.IsLeftBy l s.clock.read := by
  cases action with
  | issue token =>
      obtain ⟨hleft, hissue⟩ := issue_of_error (error_of_map hstopped)
      exact ⟨_, congrArg (Session.mk s.clock) hleft, Ledger.isLeftBy_issue_of_error hissue⟩
  | register attempt drawn =>
      have hleft := register_of_error (error_of_map hstopped)
      exact ⟨s.registry.ledger, congrArg (Session.mk s.clock) hleft, .inl rfl⟩
  | sweep =>
      have hsweep : (s.registry.ledger.sweep s.clock.read).1 = .error e := error_of_map hstopped
      exact ⟨_, rfl, .inl (Ledger.sweep_of_error hsweep)⟩
  | sweepEvery interval span => cases hstopped
  | advance span =>
      have hclock := Clock.advance_of_error (error_of_map hstopped)
      exact ⟨s.registry.ledger, congrArg (Session.mk · s.registry) hclock, .inl rfl⟩
  | setOutage outage => cases hstopped

theorem losesOnlyExpired_of_step_error (hstopped : (s.step action).1 = .error e) :
    s.LosesOnlyExpired (s.step action).2 := by
  obtain ⟨l, hleft, hledger⟩ := exists_of_step_error hstopped
  rw [hleft]
  exact ⟨rfl, rfl, rfl, rfl, rfl, hledger.losesOnlyExpired⟩

theorem alike_of_step_error (hcoherent : s.nonces.Coherent)
    (hstopped : (s.step action).1 = .error e) : (s.step action).2.Alike s := by
  obtain ⟨l, hleft, hledger⟩ := exists_of_step_error hstopped
  rw [hleft]
  exact ⟨rfl, rfl, hledger.alike hcoherent⟩

theorem Alike.symm (h : s.Alike s') : s'.Alike s :=
  ⟨h.clock_eq.symm, h.clock_eq ▸ h.registry.symm⟩

/-- One action on two sessions that are alike, which may be a sweep. -/
theorem Alike.step_blurred (h : s.Alike s') (action : Action) :
    (s.step action).1.map Answer.blurred = (s'.step action).1.map Answer.blurred ∧
      (s.step action).2.Alike (s'.step action).2 := by
  have halike : (s.step action).2.Alike (s'.step action).2 := by
    cases hsweep : action.isSweep with
    | true => exact ((h.step_sweep hsweep).symm.step_sweep hsweep).symm
    | false => exact (h.step hsweep).2
  refine ⟨?_, halike⟩
  obtain ⟨clock, r⟩ := s
  obtain ⟨clock', r'⟩ := s'
  obtain ⟨rfl, hregistry⟩ := h
  cases action with
  | issue token =>
      simp only [Session.step]
      rw [(hregistry.issue token).1]
  | register attempt drawn =>
      have hblurred : ∀ result : Except TimeOverflow Verdict,
          (result.map Answer.verdict).map Answer.blurred =
            (result.map Verdict.blurred).map Answer.verdict := by
        intro result
        cases result <;> rfl
      simp only [Session.step, hblurred]
      rw [hregistry.register_blurred]
  | sweep => cases hread : clock.read <;> simp only [Session.step, hread] <;> rfl
  | sweepEvery interval span => rfl
  | advance span => rfl
  | setOutage outage => rfl

theorem Alike.run (h : s.Alike s') (actions : List Action) :
    (s.run actions).1.map (·.map Answer.blurred) = (s'.run actions).1.map (·.map Answer.blurred) ∧
      (s.run actions).2.Alike (s'.run actions).2 :=
  run_alike (fun action h => h.step_blurred action) h actions

theorem coherent_outcome (hcoherent : s.nonces.Coherent) (actions : List Action) :
    (outcome step s actions).nonces.Coherent := by
  rw [nonces_outcome]
  exact hcoherent.outcome _

end Session

end Registry

/-- Whatever happened to a ledger, or to a registry, a step that a time out of range stops leaves
the clock, the accounts and all counts as they were, but for that of evicted nonces, and of the
nonces loses none that has not expired. Any actions after it are answered as without it, up to
whether an expired nonce is known as expired or no longer known, and up to how many nonces a sweep
finds; and the two runs end alike. -/
theorem stopped_steps_unobserved {lifetime : Span} {fresh : Ledger}
    (hfresh : Ledger.create lifetime = .ok fresh) (clock : Clock) (maxEntries : Nat) :
    (∀ before action e,
      let s := ((⟨clock, fresh.withCapacity maxEntries⟩ : Ledger.Session).run before).2
      let stopped := (s.step action).2
      (s.step action).1 = .error e →
        stopped.clock = s.clock ∧
          s.ledger.LosesOnlyExpired stopped.ledger s.clock.elapsed ∧
          ∀ after,
            (stopped.run after).1.map (·.map Ledger.Answer.blurred) =
                (s.run after).1.map (·.map Ledger.Answer.blurred) ∧
              (stopped.run after).2.Alike (s.run after).2) ∧
      ∀ secret directory before action e,
        let start : Registry.Session :=
          ⟨clock, .create (fresh.withCapacity maxEntries) secret directory⟩
        let s := (start.run before).2
        let stopped := (s.step action).2
        (s.step action).1 = .error e →
          s.LosesOnlyExpired stopped ∧
            ∀ after,
              (stopped.run after).1.map (·.map Registry.Answer.blurred) =
                  (s.run after).1.map (·.map Registry.Answer.blurred) ∧
                (stopped.run after).2.Alike (s.run after).2 := by
  let start : Ledger.Session := ⟨clock, fresh.withCapacity maxEntries⟩
  have hstart : start.Coherent := Ledger.coherent_of_create hfresh maxEntries clock.elapsed
  constructor
  · intro before action e s stopped hstopped
    have hcoherent : s.Coherent := by
      have hrun : s = outcome Ledger.Session.step start before :=
        congrArg Prod.snd (run_eq start before)
      exact hrun ▸ hstart.outcome before
    obtain ⟨hclock, hledger⟩ := Ledger.Session.isLeftBy_step_of_error hstopped
    have halike : stopped.Alike s := by
      refine ⟨hclock, ?_⟩
      rw [hclock]
      exact hledger.alike hcoherent
    exact ⟨hclock, hledger.losesOnlyExpired, halike.run⟩
  · intro secret directory before action e start' s stopped hstopped
    have hcoherent : s.nonces.Coherent := by
      have hrun : s = outcome Registry.Session.step start' before :=
        congrArg Prod.snd (run_eq start' before)
      exact hrun ▸ Registry.Session.coherent_outcome (s := start') hstart before
    exact ⟨Registry.Session.losesOnlyExpired_of_step_error hstopped,
      (Registry.Session.alike_of_step_error hcoherent hstopped).run⟩

/-- Twice the lifetime is no moment, but the lifetime is. A nonce has just expired when the second
attempt to issue sweeps it, and then cannot tell when its own token would expire. -/
theorem stopped_issue_unobserved :
    let lifetime : Span := .ofSeconds 6917529027641081856
    let fresh : Ledger := ⟨lifetime, Ledger.defaultCapacity, [], none, {}⟩
    let s := ((⟨.start, fresh.withCapacity 1⟩ : Ledger.Session).run
      [.issue "a", .advance lifetime]).2
    let stopped := (s.step (.issue "b")).2
    Ledger.create lifetime = .ok fresh ∧ (s.step (.issue "b")).1 = .error .moment ∧
      stopped.ledger.entries = [] ∧
      (stopped.run [.consume "a"]).1.map (·.map Ledger.Answer.blurred) =
        (s.run [.consume "a"]).1.map (·.map Ledger.Answer.blurred) := by
  intro lifetime fresh s stopped
  have hfresh : Ledger.create lifetime = .ok fresh := by decide
  have hstopped : (s.step (.issue "b")).1 = .error .moment := by decide
  obtain ⟨hledger, -⟩ := stopped_steps_unobserved hfresh .start 1
  obtain ⟨-, -, hafter⟩ := hledger [.issue "a", .advance lifetime] (.issue "b") .moment hstopped
  exact ⟨hfresh, hstopped, by decide, (hafter [.consume "a"]).1⟩

/-- What a later sweep finds does tell of a stopped step: a nonce that the step has swept is not
found again. -/
theorem sweep_tells_of_stopped_issue :
    let lifetime : Span := .ofSeconds 6917529027641081856
    let fresh : Ledger := ⟨lifetime, Ledger.defaultCapacity, [], none, {}⟩
    let s := ((⟨.start, fresh.withCapacity 1⟩ : Ledger.Session).run
      [.issue "a", .advance lifetime]).2
    let stopped := (s.step (.issue "b")).2
    Ledger.create lifetime = .ok fresh ∧ (s.step (.issue "b")).1 = .error .moment ∧
      (stopped.step .sweep).1 = .ok (.swept 0) ∧ (s.step .sweep).1 = .ok (.swept 1) := by
  decide

end Enrollment
