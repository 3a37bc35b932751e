import Enrollment.Proofs.Ledger.Likeness
import Enrollment.Proofs.Registry.Calls

/-!
# Sweeps go unnoticed

Two runs with the same actions but for sweeps tell their callers the same and keep the same
accounts. Their registries differ in their ledgers only, and the ledgers are alike: expired nonces
may still be tracked in one of them. That shows in how many nonces are tracked, in the count of
evicted ones, and in what the log says of a denied attempt, but in no answer.
-/

namespace Enrollment

/-- The counts that do not depend on when expired nonces were removed. -/
def Snapshot.exceptSwept (t : Snapshot) : Snapshot :=
  { t with nonces := t.nonces.exceptEvicted, outstanding := 0 }

namespace Registry

/-- Registries that differ only in their ledgers, which are alike. -/
structure Alike (r r' : Registry) (elapsed : Span) : Prop where
  eq_withLedger : r' = r.withLedger r'.ledger
  ledger : r.ledger.Alike r'.ledger elapsed

namespace Alike

variable {r r' : Registry} {elapsed later : Span} {now : Instant} {clock : Clock}

theorem refl (h : r.ledger.Coherent elapsed) : r.Alike r elapsed :=
  ⟨rfl, .refl h⟩

theorem mono (h : r.Alike r' elapsed) (hle : elapsed.nanos ≤ later.nanos) : r.Alike r' later :=
  ⟨h.eq_withLedger, h.ledger.mono hle⟩

theorem withLedger {l l' : Ledger} (h : r.Alike r' elapsed) (hl : l.Alike l' elapsed) :
    (r.withLedger l).Alike (r'.withLedger l') elapsed :=
  ⟨by rw [h.eq_withLedger]; rfl, hl⟩

/-- What does not touch the ledger keeps two registries alike. -/
theorem of_untouched (h : r.Alike r' elapsed) {f : Registry → Registry}
    (hf : ∀ (r : Registry) (l : Ledger), f (r.withLedger l) = (f r).withLedger l) :
    (f r).Alike (f r') elapsed := by
  have hledger : ∀ r : Registry, (f r).ledger = r.ledger := by
    intro r
    have hsame : f r = (f r).withLedger r.ledger := hf r r.ledger
    rw [hsame]
    rfl
  refine ⟨?_, ?_⟩
  · rw [hledger, ← hf, ← h.eq_withLedger]
  · rw [hledger, hledger]
    exact h.ledger

theorem admits_iff (h : r.Alike r' elapsed) (hnow : now.nanos = elapsed.nanos)
    (attempt : Attempt) : r.Admits now attempt ↔ r'.Admits now attempt := by
  have hsecret : r'.authority.secret = r.authority.secret := by rw [h.eq_withLedger]; rfl
  unfold Admits
  rw [h.ledger.judge_eq_ok_iff hnow, hsecret]

theorem present (h : r.Alike r' elapsed) (hnow : now.nanos = elapsed.nanos) (attempt : Attempt) :
    (r.present now attempt).Alike (r'.present now attempt) elapsed :=
  h.withLedger (h.ledger.consumeAt hnow attempt.fields.nonce).2

theorem createAccount (h : r.Alike r' elapsed) (account : NewAccount) (drawn : Credentials) :
    (r.createAccount account drawn).1 = (r'.createAccount account drawn).1 ∧
      (r.createAccount account drawn).2.Alike (r'.createAccount account drawn).2 elapsed := by
  constructor
  · rw [h.eq_withLedger, createAccount_withLedger]
  · exact h.of_untouched (f := fun r => (r.createAccount account drawn).2) fun r l =>
      congrArg Prod.snd (createAccount_withLedger account drawn r l)

/-! ## The calls of a registry -/

theorem sweep (h : r.Alike r' clock.elapsed) :
    (r.sweep clock.read).2.Alike r' clock.elapsed :=
  ⟨h.eq_withLedger, h.ledger.sweep⟩

theorem issue (h : r.Alike r' clock.elapsed) (token : String) :
    (r.issue clock.read token).1 = (r'.issue clock.read token).1 ∧
      (r.issue clock.read token).2.Alike (r'.issue clock.read token).2 clock.elapsed := by
  obtain ⟨hanswer, hledger⟩ := h.ledger.issue token
  rw [issue_eq, issue_eq, ← hanswer]
  refine ⟨rfl, ?_⟩
  have halike := h.withLedger hledger
  split
  · exact halike.of_untouched (f := countIssued) fun _ _ => rfl
  · exact halike

/-- An attempt is answered alike, up to what the log says. -/
theorem register (h : r.Alike r' clock.elapsed) (attempt : Attempt) (drawn : Credentials) :
    (r.register clock.read attempt drawn).1.map (·.answer) =
        (r'.register clock.read attempt drawn).1.map (·.answer) ∧
      (r.register clock.read attempt drawn).2.Alike (r'.register clock.read attempt drawn).2
        clock.elapsed := by
  cases hvalid : attempt.validate with
  | error e =>
      rw [register_of_invalid hvalid, register_of_invalid hvalid]
      exact ⟨rfl, h.of_untouched (f := countInvalid) fun _ _ => rfl⟩
  | ok _ =>
      cases hread : clock.read with
      | error e =>
          rw [register_of_unread hvalid, register_of_unread hvalid]
          exact ⟨rfl, h⟩
      | ok now =>
          have hnow := Clock.read_eq_ok_iff.mp hread
          have hpresent := h.present hnow attempt
          by_cases hadmits : r.Admits now attempt
          · have hadmits' := (h.admits_iff hnow attempt).mp hadmits
            have hcounted := hpresent.of_untouched (f := countAuthorized) fun _ _ => rfl
            obtain ⟨hanswer, halike⟩ := hcounted.createAccount attempt.account drawn
            rw [register_of_admitted hvalid hadmits, register_of_admitted hvalid hadmits']
            refine ⟨?_, halike⟩
            simp only [Except.map, hanswer]
          · have hadmits' := (h.admits_iff hnow attempt).not.mp hadmits
            obtain ⟨reason, hdenied⟩ := register_of_denied hvalid hadmits drawn
            obtain ⟨reason', hdenied'⟩ := register_of_denied hvalid hadmits' drawn
            rw [hdenied, hdenied']
            exact ⟨rfl, hpresent.of_untouched (f := countDenied) fun _ _ => rfl⟩

end Alike

/-- Whether an action only sweeps. -/
def Action.isSweep : Action → Bool
  | .sweep => true
  | .sweepEvery _ _ => true
  | _ => false

/-- What an answer tells the caller, who does not read the log. -/
def Answer.told : Answer → Answer
  | .verdict v => .verdict ⟨v.answer, none⟩
  | answer => answer

/-- What does not depend on sweeps in a session. -/
structure View where
  clock : Clock
  directory : Directory
  outage : Option String
  counts : Snapshot
  deriving DecidableEq

namespace Session

/-- A session without what depends on sweeps. -/
def view (s : Session) : View :=
  ⟨s.clock, s.registry.directory, s.registry.outage, s.registry.snapshot.exceptSwept⟩

/-- What an event that is not a sweep tells the caller, and what it leaves in view. -/
def observed? (e : Occurrence) : Option (Except TimeOverflow Answer × View) :=
  if e.action.isSweep then none else some (e.answer.map Answer.told, e.after.view)

/-- What is observed of a run, oldest first. -/
def observations (trail : List Occurrence) : List (Except TimeOverflow Answer × View) :=
  trail.filterMap observed?

/-- What an event tells the caller, and what it leaves in view. -/
def seen (e : Occurrence) : Except TimeOverflow Answer × View :=
  (e.answer.map Answer.told, e.after.view)

theorem observations_eq (trail : List Occurrence) :
    observations trail = (trail.filter (!·.action.isSweep)).map seen := by
  rw [← List.filterMap_eq_map, List.filterMap_filter]
  refine List.filterMap_congr fun e _ => ?_
  cases hsweep : e.action.isSweep <;> simp [observed?, seen, hsweep]

/-- One clock, and registries that are alike from now on. -/
structure Alike (s s' : Session) : Prop where
  clock_eq : s.clock = s'.clock
  registry : s.registry.Alike s'.registry s.clock.elapsed

namespace Alike

variable {s s' : Session} {action : Action}

theorem view_eq (h : s.Alike s') : s.view = s'.view := by
  have htally : s.registry.ledger.tally.exceptEvicted = s'.registry.ledger.tally.exceptEvicted :=
    h.registry.ledger.tally_eq
  simp only [view, Registry.snapshot, Snapshot.exceptSwept, h.clock_eq, htally]
  rw [h.registry.eq_withLedger]
  rfl

/-- A sweep of one of two sessions goes unnoticed. -/
theorem step_sweep (h : s.Alike s') (hsweep : action.isSweep = true) :
    (s.step action).2.Alike s' := by
  obtain ⟨clock, r⟩ := s
  obtain ⟨clock', r'⟩ := s'
  obtain ⟨rfl, hregistry⟩ := h
  cases action with
  | sweep => exact ⟨rfl, hregistry.sweep⟩
  | sweepEvery interval span =>
      simp only [step, sweepEvery]
      split
      · exact ⟨rfl, hregistry⟩
      · exact ⟨rfl, hregistry.sweep⟩
  | _ => cases hsweep

theorem step (h : s.Alike s') (hvisible : action.isSweep = false) :
    (s.step action).1.map Answer.told = (s'.step action).1.map Answer.told ∧
      (s.step action).2.Alike (s'.step action).2 := by
  obtain ⟨clock, r⟩ := s
  obtain ⟨clock', r'⟩ := s'
  obtain ⟨rfl, hregistry⟩ := h
  cases action with
  | issue token =>
      obtain ⟨hanswer, halike⟩ := hregistry.issue token
      refine ⟨?_, rfl, halike⟩
      simp only [Session.step]
      rw [hanswer]
  | register attempt drawn =>
      obtain ⟨hanswer, halike⟩ := hregistry.register attempt drawn
      refine ⟨?_, rfl, halike⟩
      have htold : ∀ result : Except TimeOverflow Verdict,
          (result.map Answer.verdict).map Answer.told =
            (result.map (·.answer)).map fun answer => Answer.verdict ⟨answer, none⟩ := by
        intro result
        cases result <;> rfl
      simp only [Session.step, htold]
      rw [hanswer]
  | sweep => cases hvisible
  | sweepEvery interval span => cases hvisible
  | advance span => exact ⟨rfl, rfl, hregistry.mono (clock.elapsed_le_advance span)⟩
  | setOutage outage =>
      exact ⟨rfl, rfl, hregistry.of_untouched (f := (·.setOutage outage)) fun _ _ => rfl⟩

theorem seen_eq (h : s.Alike s') (hvisible : action.isSweep = false) :
    seen (eventOf Session.step s action) = seen (eventOf Session.step s' action) := by
  obtain ⟨hanswer, halike⟩ := h.step hvisible
  simp only [seen, eventOf, hanswer, halike.view_eq]

/-- A run is observed like the run without its sweeps. -/
theorem run_unswept (h : s.Alike s') (actions : List Action) :
    let unswept := actions.filter (!·.isSweep)
    observations (events Session.step s actions) = (events Session.step s' unswept).map seen ∧
      (outcome Session.step s actions).Alike (outcome Session.step s' unswept) := by
  intro unswept
  rw [observations_eq]
  exact shown_without (fun action hsweep h => h.step_sweep hsweep)
    (fun action hvisible h => ⟨h.seen_eq hvisible, (h.step hvisible).2⟩) h actions

end Alike

/-- Two runs of a new registry with the same actions but for sweeps, wherever these stand, are
answered alike, and after each of the other actions the accounts and all counts are the same, but
for the evicted and the tracked nonces. -/
theorem sweeps_unobserved {lifetime : Span} {fresh : Ledger}
    (hfresh : Ledger.create lifetime = .ok fresh) (clock : Clock) (maxEntries : Nat)
    (secret : Secret) (directory : Directory) {first second : List Action}
    (hsame : first.filter (!·.isSweep) = second.filter (!·.isSweep)) :
    let start : Session := ⟨clock, create (fresh.withCapacity maxEntries) secret directory⟩
    observations (events step start first) = observations (events step start second) ∧
      (start.run first).2.view = (start.run second).2.view := by
  intro start
  have hcoherent : start.registry.ledger.Coherent clock.elapsed :=
    Ledger.coherent_of_create hfresh maxEntries clock.elapsed
  have halike : start.Alike start := ⟨rfl, .refl hcoherent⟩
  obtain ⟨hfirst, hfirst'⟩ := halike.run_unswept first
  obtain ⟨hsecond, hsecond'⟩ := halike.run_unswept second
  rw [hsame] at hfirst hfirst'
  simp only [run, run_eq]
  exact ⟨hfirst.trans hsecond.symm, hfirst'.view_eq.trans hsecond'.view_eq.symm⟩

/-- A sweep between an expiry and the next attempt to issue, in a ledger with room for one. -/
theorem sweep_of_expired_unobserved :
    let fresh : Ledger := ⟨.ofSeconds 10, Ledger.defaultCapacity, [], none, {}⟩
    let directory : Directory := .create "server" (.ofSeconds 300)
    let start : Session := ⟨.start, create (fresh.withCapacity 1) ⟨[1], by decide⟩ directory⟩
    let swept : List Action := [.issue "a", .advance (.ofSeconds 10), .sweep, .issue "b"]
    let unswept : List Action := [.issue "a", .advance (.ofSeconds 10), .issue "b"]
    Ledger.create (.ofSeconds 10) = .ok fresh ∧
      swept.filter (!·.isSweep) = unswept.filter (!·.isSweep) ∧
      observations (events step start swept) = observations (events step start unswept) := by
  intro fresh directory start swept unswept
  have hfresh : Ledger.create (.ofSeconds 10) = .ok fresh := rfl
  have hsame : swept.filter (!·.isSweep) = unswept.filter (!·.isSweep) := by decide
  exact ⟨hfresh, hsame, (sweeps_unobserved hfresh .start 1 ⟨[1], by decide⟩ directory hsame).1⟩

end Session

end Registry

end Enrollment
