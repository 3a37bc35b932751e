import Enrollment.Proofs.Ledger.Counts
import Enrollment.Proofs.Ledger.Lookup
import Enrollment.Proofs.Traffic.Sections

/-!
# Interleaved calls

Any number of calls to register and of sweeps are under way on one registry, each advancing by its
sections, while tokens are handed out, the clock is moved and the directory goes out of reach and
comes back. What comes next is up to whoever schedules them.

Whatever it is, it changes the nonces in one of four ways: it leaves them, it checks one and marks
it if it can be used, it removes one that has expired, or it adds a new one. All that holds of
every interleaving follows from this.
-/

namespace Enrollment.Registry

namespace Call

/-- The reading of the clock that a stage still uses. -/
def reading? : Stage → Option Instant
  | .presenting now | .expired now => some now
  | _ => none

theorem reading?_begin {r : Registry} {reading : Reading} {attempt : Attempt} {drawn : Credentials}
    {now : Instant} (hreading : reading? (begin r reading attempt drawn).2.stage = some now) :
    reading = .ok now := by
  unfold begin at hreading
  split at hreading
  next => cases hreading
  next => cases hreading
  next now' _ =>
    obtain rfl : now' = now := Option.some.inj hreading
    rfl

/-- A call reads the clock once, and lets go of the reading. -/
theorem reading?_next {r : Registry} {c : Call} {now : Instant}
    (hreading : reading? (c.next r).2.2 = some now) : reading? c.stage = some now := by
  obtain ⟨attempt, drawn, stage⟩ := c
  cases stage with
  | presenting now' =>
      cases houtcome : (r.ledger.checkAndMark now' attempt.fields.nonce).1 with
      | ok _ => simp [next, token, houtcome, afterJudgement, reading?] at hreading
      | error e =>
          cases e with
          | expired => simpa [next, token, houtcome, afterJudgement, reading?] using hreading
          | _ => simp [next, token, houtcome, afterJudgement, reading?] at hreading
  | accepted =>
      cases hanswer : r.authority.authorize attempt <;>
        simp [next, hanswer, afterComparison, reading?] at hreading
  | creating =>
      cases houtage : r.outage <;> simp [next, houtage, reading?] at hreading
  | _ => simp [next, reading?] at hreading

end Call

/-- A registry, the clock it reads, and what is under way on the two. A caller is known by the place
of the call; calls stay when they are answered. -/
structure Traffic where
  clock : Clock
  registry : Registry
  calls : List Call
  sweeps : List Sweep

namespace Traffic

inductive Action where
  /-- Hands out a token, if there is room. -/
  | issue (token : String)
  /-- A caller comes. -/
  | call (attempt : Attempt) (drawn : Credentials)
  /-- The next section of a caller. -/
  | proceed (caller : Nat)
  | beginSweep
  /-- A sweep looks at the nonce with a token. -/
  | visit (sweeper : Nat) (token : String)
  | endSweep (sweeper : Nat)
  | advance (span : Span)
  | setOutage (outage : Option String)

def step (s : Traffic) : Action → Report × Traffic
  | .issue token =>
      match s.clock.read with
      | .error _ => (.quiet, s)
      | .ok now =>
          let (report, registry) := s.registry.grant now token
          (report, { s with registry })
  | .call attempt drawn =>
      let (registry, call) := Call.begin s.registry s.clock.read attempt drawn
      (.quiet, { s with registry, calls := s.calls ++ [call] })
  | .proceed caller =>
      match s.calls[caller]? with
      | none => (.quiet, s)
      | some call =>
          let (report, registry, stage) := call.next s.registry
          (report, { s with registry, calls := s.calls.set caller { call with stage } })
  | .beginSweep =>
      match s.clock.read with
      | .error _ => (.quiet, s)
      | .ok now => (.quiet, { s with sweeps := s.sweeps ++ [.begin now] })
  | .visit sweeper token =>
      match s.sweeps[sweeper]? with
      | none => (.quiet, s)
      | some sweep =>
          let (sweep, ledger) := sweep.visit s.registry.ledger token
          (.quiet, { s with
            registry := s.registry.withLedger ledger, sweeps := s.sweeps.set sweeper sweep })
  | .endSweep sweeper =>
      match s.sweeps[sweeper]? with
      | none => (.quiet, s)
      | some sweep =>
          (.quiet, { s with
            registry := s.registry.withLedger (sweep.finish s.registry.ledger)
            sweeps := s.sweeps.eraseIdx sweeper })
  | .advance span => (.quiet, { s with clock := (s.clock.advance span).2 })
  | .setOutage outage => (.quiet, { s with registry := s.registry.setOutage outage })

/-- An event of an interleaving. -/
abbrev Occurrence : Type :=
  Event Traffic Action Report

def ledger (s : Traffic) : Ledger :=
  s.registry.ledger

variable {s : Traffic} {action : Action}

/-! ## Time -/

theorem elapsed_le_step (s : Traffic) (action : Action) :
    s.clock.elapsed.nanos ≤ (s.step action).2.clock.elapsed.nanos := by
  cases action with
  | advance span => exact s.clock.elapsed_le_advance span
  | _ =>
      simp only [step]
      repeat (first | split | exact Nat.le_refl _)

/-- No reading of the clock that is still in use is ahead of the clock. -/
structure Timely (s : Traffic) : Prop where
  calls_le : ∀ call ∈ s.calls, ∀ now, Call.reading? call.stage = some now →
    now.nanos ≤ s.clock.elapsed.nanos
  sweeps_le : ∀ sweep ∈ s.sweeps, sweep.now.nanos ≤ s.clock.elapsed.nanos

theorem Timely.step (h : s.Timely) (action : Action) : (s.step action).2.Timely := by
  cases action with
  | issue token =>
      simp only [Traffic.step]
      split
      · exact h
      · exact ⟨h.calls_le, h.sweeps_le⟩
  | call attempt drawn =>
      refine ⟨?_, h.sweeps_le⟩
      intro call hcall now hreading
      rcases List.mem_append.mp hcall with hold | hnew
      · exact h.calls_le call hold now hreading
      · obtain rfl := List.mem_singleton.mp hnew
        exact Nat.le_of_eq (Clock.read_eq_ok_iff.mp (Call.reading?_begin hreading))
  | proceed caller =>
      simp only [Traffic.step]
      split
      next => exact h
      next call hcall =>
        refine ⟨?_, h.sweeps_le⟩
        intro other hother now hreading
        rcases List.mem_or_eq_of_mem_set hother with hold | rfl
        · exact h.calls_le other hold now hreading
        · exact h.calls_le call (List.mem_of_getElem? hcall) now (Call.reading?_next hreading)
  | beginSweep =>
      simp only [Traffic.step]
      split
      next => exact h
      next now hread =>
        refine ⟨h.calls_le, ?_⟩
        intro sweep hsweep
        rcases List.mem_append.mp hsweep with hold | hnew
        · exact h.sweeps_le sweep hold
        · obtain rfl := List.mem_singleton.mp hnew
          exact Nat.le_of_eq (Clock.read_eq_ok_iff.mp hread)
  | visit sweeper token =>
      simp only [Traffic.step]
      split
      next => exact h
      next sweep hsweep =>
        refine ⟨h.calls_le, ?_⟩
        intro other hother
        rcases List.mem_or_eq_of_mem_set hother with hold | rfl
        · exact h.sweeps_le other hold
        · rw [Sweep.now_visit]
          exact h.sweeps_le sweep (List.mem_of_getElem? hsweep)
  | endSweep sweeper =>
      simp only [Traffic.step]
      split
      next => exact h
      next => exact ⟨h.calls_le, fun sweep hsweep =>
          h.sweeps_le sweep (List.mem_of_mem_eraseIdx hsweep)⟩
  | advance span =>
      have hlater := s.clock.elapsed_le_advance span
      exact ⟨fun call hcall now hreading =>
          Nat.le_trans (h.calls_le call hcall now hreading) hlater,
        fun sweep hsweep => Nat.le_trans (h.sweeps_le sweep hsweep) hlater⟩
  | setOutage outage => exact ⟨h.calls_le, h.sweeps_le⟩

theorem Timely.outcome (h : s.Timely) (actions : List Action) :
    (outcome Traffic.step s actions).Timely :=
  outcome_induction (fun _ action hs => hs.step action) h actions

/-! ## What becomes of the nonces -/

/-- The token that a report speaks of. -/
def token? : Report → Option String
  | .issued token | .judged token _ => some token
  | _ => none

/-- The nonces that an action leaves, with what it reports. -/
inductive Change (s : Traffic) : Action → Report → List Nonce → Prop where
  | kept {action : Action} {report : Report} (hreport : token? report = none) :
      Change s action report s.ledger.entries
  | judged {caller : Nat} {call : Call} {now : Instant} (hcall : s.calls[caller]? = some call)
      (hstage : call.stage = .presenting now) (hnow : now.nanos ≤ s.clock.elapsed.nanos) :
      Change s (.proceed caller) (.judged call.token (s.ledger.judge now call.token))
        (s.ledger.checkAndMark now call.token).2.entries
  | discarded {action : Action} {now : Instant} {token : String}
      (hnow : now.nanos ≤ s.clock.elapsed.nanos) :
      Change s action .quiet (s.ledger.discard now token).entries
  | issued {token : String} {now expiry : Instant} (hread : s.clock.read = .ok now) :
      Change s (.issue token) (.issued token)
        (s.ledger.insert ⟨token, now, expiry, false⟩).entries

theorem change_issue (s : Traffic) (token : String) :
    Change s (.issue token) (s.step (.issue token)).1
      (s.step (.issue token)).2.ledger.entries := by
  cases hread : s.clock.read with
  | error e =>
      simp only [step, hread]
      exact .kept rfl
  | ok now =>
      simp only [step, hread, grant]
      rcases s.registry.ledger.grant_cases now token with hgrant | hgrant | ⟨expiry, hgrant⟩
      · rw [hgrant]
        exact .kept rfl
      · rw [hgrant]
        exact .kept rfl
      · rw [hgrant]
        exact .issued hread

theorem change_proceed (h : s.Timely) (caller : Nat) :
    Change s (.proceed caller) (s.step (.proceed caller)).1
      (s.step (.proceed caller)).2.ledger.entries := by
  cases hcall : s.calls[caller]? with
  | none =>
      simp only [step, hcall]
      exact .kept rfl
  | some call =>
      have htimely := h.calls_le call (List.mem_of_getElem? hcall)
      simp only [step, hcall]
      cases hstage : call.stage with
      | presenting now =>
          have hnow := htimely now (by rw [hstage]; rfl)
          have hjudged : Change s (.proceed caller) _ _ := .judged hcall hstage hnow
          rw [← Ledger.checkAndMark_fst] at hjudged
          simp only [Call.next, hstage]
          exact hjudged
      | expired now =>
          have hnow := htimely now (by rw [hstage]; rfl)
          simp only [Call.next, hstage]
          exact .discarded hnow
      | creating =>
          simp only [Call.next, hstage]
          cases s.registry.outage with
          | some reason => exact .kept rfl
          | none => exact .kept rfl
      | made answer =>
          simp only [Call.next, hstage]
          cases answer <;> exact .kept rfl
      | _ =>
          simp only [Call.next, hstage]
          exact .kept rfl

theorem change_visit (h : s.Timely) (sweeper : Nat) (token : String) :
    Change s (.visit sweeper token) (s.step (.visit sweeper token)).1
      (s.step (.visit sweeper token)).2.ledger.entries := by
  cases hsweep : s.sweeps[sweeper]? with
  | none =>
      simp only [step, hsweep]
      exact .kept rfl
  | some sweep =>
      have hnow := h.sweeps_le sweep (List.mem_of_getElem? hsweep)
      simp only [step, hsweep, Sweep.visit]
      split
      next => exact .kept rfl
      next n hfind =>
        split
        · exact .discarded hnow
        · exact .kept rfl

/-- Every action changes the nonces in one of four ways. -/
theorem change_step (h : s.Timely) (action : Action) :
    Change s action (s.step action).1 (s.step action).2.ledger.entries := by
  cases action with
  | issue token => exact change_issue s token
  | call attempt drawn =>
      simp only [step, Call.begin]
      split <;> exact .kept rfl
  | proceed caller => exact change_proceed h caller
  | beginSweep =>
      simp only [step]
      split <;> exact .kept rfl
  | visit sweeper token => exact change_visit h sweeper token
  | endSweep sweeper =>
      simp only [step]
      split <;> exact .kept rfl
  | advance span => exact .kept rfl
  | setOutage outage => exact .kept rfl

end Traffic

end Enrollment.Registry
