import Enrollment.Proofs.Ledger.Likeness

/-!
# When a token is refused

A token is refused exactly when the nonces that have not expired fill the ledger. A ledger that
sweeps before each look for room has this rule on its face; here a sweep is left out while the
expiry noted by the last one is ahead, and the two answer every run alike.
-/

namespace Enrollment.Ledger

/-- Issues a token the plain way: sweeps before it looks for room. -/
def issuePlainly (l : Ledger) (reading : Reading) (token : String) :
    Except TimeOverflow (Except TableFull String) × Ledger :=
  match reading with
  | .error e => (.error e, l)
  | .ok now => (l.sweepAt now).2.grant now token

theorem Alike.issuePlainly {l l' : Ledger} {clock : Clock} (h : l.Alike l' clock.elapsed)
    (token : String) :
    (l.issue clock.read token).1 = (l'.issuePlainly clock.read token).1 ∧
      (l.issue clock.read token).2.Alike (l'.issuePlainly clock.read token).2 clock.elapsed := by
  cases hread : clock.read with
  | error e => exact ⟨rfl, h⟩
  | ok now =>
      have hnow := Clock.read_eq_ok_iff.mp hread
      have hroomy := (h.makeRoom hnow).symm.sweepAt hnow |>.symm
      refine hroomy.grant hnow ?_ token
      rw [Bool.eq_iff_iff, h.left.isFull_makeRoom_iff, isFull_iff, h.capacity_eq,
        h.live_eq now (Nat.le_of_eq hnow.symm)]
      exact Iff.rfl

theorem grant_eq_full_iff {l : Ledger} {now : Instant} {token : String} {e : TableFull} :
    (l.grant now token).1 = .ok (.error e) ↔ l.isFull = true ∧ e = ⟨l.capacity⟩ := by
  unfold grant
  cases hfull : l.isFull with
  | true => simp [eq_comm]
  | false => cases now.after? l.lifetime <;> simp

/-- A token is refused exactly when the live nonces fill the ledger, and with its capacity. -/
theorem Coherent.issue_eq_full_iff {l : Ledger} {elapsed : Span} (h : l.Coherent elapsed)
    {now : Instant} {token : String} {e : TableFull} :
    (l.issue (.ok now) token).1 = .ok (.error e) ↔
      l.capacity ≤ (l.live now).length ∧ e = ⟨l.capacity⟩ := by
  have hcapacity : (l.makeRoom now).capacity = l.capacity :=
    congrArg Prod.snd (settings_makeRoom l now)
  rw [← h.isFull_makeRoom_iff now, ← hcapacity]
  exact grant_eq_full_iff

/-- Where there is room, and an expiry can be told, a token is issued. -/
theorem Coherent.issue_eq_issued {l : Ledger} {elapsed : Span} (h : l.Coherent elapsed)
    {now expiry : Instant} (hroom : (l.live now).length < l.capacity)
    (hafter : now.after? l.lifetime = some expiry) (token : String) :
    (l.issue (.ok now) token).1 = .ok (.ok token) := by
  have hlifetime : (l.makeRoom now).lifetime = l.lifetime :=
    congrArg Prod.fst (settings_makeRoom l now)
  have hnot : ¬ (l.makeRoom now).isFull = true := by
    rw [h.isFull_makeRoom_iff now]
    exact Nat.not_le.mpr hroom
  simp only [Ledger.issue, Ledger.grant, if_neg hnot, hlifetime, hafter]

theorem live_issue_of_full {l : Ledger} {now : Instant} {token : String} {e : TableFull}
    (hfull : (l.issue (.ok now) token).1 = .ok (.error e)) :
    (l.issue (.ok now) token).2.live now = l.live now := by
  have hisFull := (grant_eq_full_iff.mp hfull).1
  have hrefused : (l.issue (.ok now) token).2 = (l.makeRoom now).countRefusal := by
    simp [issue, grant, hisFull]
  rw [hrefused]
  exact live_makeRoom l (Instant.le_refl now)

namespace Session

/-- One action, where tokens are issued the plain way. -/
def stepPlainly (s : Session) : Action → Except TimeOverflow Answer × Session
  | .issue token =>
      let (result, ledger) := s.ledger.issuePlainly s.clock.read token
      (result.map .ofIssue, { s with ledger })
  | action => s.step action

/-- The answers of a run to attempts to issue, oldest first. -/
def issueAnswers (trail : List (Event Session Action (Except TimeOverflow Answer))) :
    List (Except TimeOverflow Answer) :=
  trail.filterMap fun e =>
    match e.action with
    | .issue _ => some e.answer
    | _ => none

theorem issueAnswers_append (first second : List (Event Session Action _)) :
    issueAnswers (first ++ second) = issueAnswers first ++ issueAnswers second :=
  List.filterMap_append

/-- One clock, and ledgers that are alike from now on. -/
structure Alike (s s' : Session) : Prop where
  clock_eq : s.clock = s'.clock
  ledger : s.ledger.Alike s'.ledger s.clock.elapsed

/-- Issuing the plain way keeps two sessions alike, and answers alike. -/
theorem Alike.stepPlainly {s s' : Session} (h : s.Alike s') (action : Action) :
    issueAnswers [eventOf step s action] = issueAnswers [eventOf Session.stepPlainly s' action] ∧
      (s.step action).2.Alike (s'.stepPlainly action).2 := by
  obtain ⟨clock, l⟩ := s
  obtain ⟨clock', l'⟩ := s'
  obtain ⟨rfl, hledger⟩ := h
  cases action with
  | issue token =>
      obtain ⟨hanswer, halike⟩ := hledger.issuePlainly token
      refine ⟨?_, rfl, halike⟩
      change [_] = [_]
      exact congrArg (fun result => [result.map Answer.ofIssue]) hanswer
  | consume token =>
      exact ⟨rfl, rfl, (hledger.consume token).2⟩
  | sweep => exact ⟨rfl, rfl, (hledger.sweep.symm.sweep).symm⟩
  | advance span => exact ⟨rfl, rfl, hledger.mono (clock.elapsed_le_advance span)⟩

/-- A run that sweeps only when it is due issues and refuses as one that always sweeps. -/
theorem Alike.runPlainly {s s' : Session} (h : s.Alike s') (actions : List Action) :
    issueAnswers (events step s actions) = issueAnswers (events Session.stepPlainly s' actions) ∧
      (outcome step s actions).Alike (outcome Session.stepPlainly s' actions) := by
  induction actions generalizing s s' with
  | nil => exact ⟨rfl, h⟩
  | cons action rest ih =>
      obtain ⟨hanswer, halike⟩ := h.stepPlainly action
      obtain ⟨hanswers, hend⟩ := ih halike
      refine ⟨?_, hend⟩
      change issueAnswers ([_] ++ _) = issueAnswers ([_] ++ _)
      rw [issueAnswers_append, issueAnswers_append, hanswer, hanswers]

theorem step_issue_eq_full_iff {s : Session} {token : String} {e : TableFull} :
    (s.step (.issue token)).1 = .ok (.full e) ↔
      (s.ledger.issue s.clock.read token).1 = .ok (.error e) := by
  change ((s.ledger.issue s.clock.read token).1.map Answer.ofIssue) = .ok (.full e) ↔ _
  rcases (s.ledger.issue s.clock.read token).1 with _ | _ | _ <;>
    simp [Except.map, Answer.ofIssue]

/-- In every state that a run reaches, no more nonces are tracked than the capacity allows, the
expiry noted by the last sweep is a lower bound, and a token is refused exactly when the live nonces
alone reach the capacity. A refusal costs none of them. Sweeping before each look for room would
answer the next attempt alike, and every attempt of the run. -/
theorem issue_refused_iff_live_fill {lifetime : Span} {fresh : Ledger}
    (hfresh : create lifetime = .ok fresh) (clock : Clock) (maxEntries : Nat)
    (actions : List Action) :
    let start : Session := ⟨clock, fresh.withCapacity maxEntries⟩
    let s := (start.run actions).2
    s.ledger.size ≤ max maxEntries 1 ∧
      (∀ expiry, s.ledger.nextExpiry = some expiry →
        ∀ n ∈ s.ledger.entries, expiry ≤ n.expiresAt) ∧
      (∀ token now, s.clock.read = .ok now →
        ((∃ e, (s.step (.issue token)).1 = .ok (.full e)) ↔
          max maxEntries 1 ≤ (s.ledger.live now).length) ∧
        (∀ e, (s.step (.issue token)).1 = .ok (.full e) → e.max = max maxEntries 1 ∧
          (s.step (.issue token)).2.ledger.live now = s.ledger.live now) ∧
        (s.step (.issue token)).1 = (s.stepPlainly (.issue token)).1 ∧
        ∀ later, now ≤ later → (s.step (.issue token)).2.ledger.live later =
          (s.stepPlainly (.issue token)).2.ledger.live later) ∧
      issueAnswers (events step start actions) =
        issueAnswers (events stepPlainly start actions) := by
  intro start s
  have hstart : start.Coherent := coherent_of_create hfresh maxEntries clock.elapsed
  have hrun : s = outcome step start actions := congrArg Prod.snd (run_eq start actions)
  have hs : s.Coherent := hrun ▸ hstart.outcome actions
  have hcapacity : s.ledger.capacity = max maxEntries 1 :=
    hrun ▸ congrArg Prod.snd (settings_outcome start actions)
  refine ⟨hcapacity ▸ hs.size_le, hs.nextExpiry_le, ?_, ?_⟩
  · intro token now hread
    have hfull : ∀ e, (s.step (.issue token)).1 = .ok (.full e) ↔
        (s.ledger.issue (.ok now) token).1 = .ok (.error e) := fun e =>
      hread ▸ step_issue_eq_full_iff
    have hlive : (s.step (.issue token)).2.ledger = (s.ledger.issue (.ok now) token).2 := by
      rw [← hread]
      rfl
    have hplain := (Ledger.Alike.refl hs).issuePlainly token
    refine ⟨?_, ?_, congrArg (Except.map Answer.ofIssue) hplain.1, ?_⟩
    · simp only [hfull, hs.issue_eq_full_iff, hcapacity]
      simp
    · intro e he
      have he' := (hfull e).mp he
      refine ⟨?_, ?_⟩
      · rw [(hs.issue_eq_full_iff.mp he').2, hcapacity]
      · rw [hlive]
        exact live_issue_of_full he'
    · intro later hlater
      exact hplain.2.live_eq later
        (Nat.le_trans (Nat.le_of_eq (Clock.read_eq_ok_iff.mp hread).symm) hlater)
  · exact (Session.Alike.runPlainly ⟨rfl, Ledger.Alike.refl hstart⟩ actions).1

/-- Two nonces issued five seconds apart fill a ledger of two until the first has expired. -/
theorem issue_refused_while_two_live :
    let fresh : Ledger := ⟨.ofSeconds 10, defaultCapacity, [], none, {}⟩
    let s := ((⟨.start, fresh.withCapacity 2⟩ : Session).run
      [.issue "a", .advance (.ofSeconds 5), .issue "b"]).2
    create (.ofSeconds 10) = .ok fresh ∧ s.clock.read = .ok ⟨5 * nanosPerSecond, by decide⟩ ∧
      ∃ e, (s.step (.issue "c")).1 = .ok (.full e) := by
  intro fresh s
  have hfresh : create (.ofSeconds 10) = .ok fresh := rfl
  have hread : s.clock.read = .ok ⟨5 * nanosPerSecond, by decide⟩ :=
    Clock.read_eq_ok_iff.mpr (by decide)
  have hlive : (s.ledger.live ⟨5 * nanosPerSecond, by decide⟩).length = 2 := by decide
  have htheorem := issue_refused_iff_live_fill hfresh .start 2
    [.issue "a", .advance (.ofSeconds 5), .issue "b"]
  exact ⟨hfresh, hread, (htheorem.2.2.1 "c" _ hread).1.mpr (Nat.le_of_eq hlive.symm)⟩

end Session

end Enrollment.Ledger
