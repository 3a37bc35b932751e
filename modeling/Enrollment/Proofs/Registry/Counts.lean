import Enrollment.Proofs.Ledger.Counts
import Enrollment.Proofs.Registry.Nonces

/-!
# The counts of a registry

Every call that is answered is counted once, by its answer, and what a registry counts agrees with
what its ledger counts and with the accounts that there are. An action that a time out of range
stops may have removed expired nonces, but counts nothing else, so that all sums stay as they are.
-/

namespace Enrollment

/-- No count is lower in the second tally. Counts are only added to, so that none has wrapped. -/
def RegistrationTally.GrewTo (t t' : RegistrationTally) : Prop :=
  t.noncesIssued ≤ t'.noncesIssued ∧ t.authorized ≤ t'.authorized ∧ t.denied ≤ t'.denied ∧
    t.invalid ≤ t'.invalid ∧ t.accountsCreated ≤ t'.accountsCreated ∧
    t.accountFailures ≤ t'.accountFailures

instance (t t' : RegistrationTally) : Decidable (t.GrewTo t') :=
  inferInstanceAs (Decidable (_ ∧ _))

/-- No count of the second snapshot is lower than in the first. -/
def Snapshot.GrewTo (t t' : Snapshot) : Prop :=
  t.registration.GrewTo t'.registration ∧ t.nonces.GrewTo t'.nonces

instance (t t' : Snapshot) : Decidable (t.GrewTo t') :=
  inferInstanceAs (Decidable (_ ∧ _))

namespace RegistrationTally

/-- The counts of a registry agree with those of its ledger, with the numbers of answered attempts
to issue and to register, and with the number of accounts. -/
structure Agrees (t : RegistrationTally) (n : NonceTally) (issues attempts accounts : Nat) :
    Prop where
  noncesIssued_eq : t.noncesIssued = n.issued
  issues_eq : n.issued.toNat + n.refused.toNat = issues
  attempts_eq : t.invalid.toNat + t.authorized.toNat + t.denied.toNat = attempts
  decided_eq : t.authorized.toNat + t.denied.toNat = n.consumed.toNat + n.rejected.toNat
  authorized_le : t.authorized.toNat ≤ n.consumed.toNat
  authorized_eq : t.authorized.toNat = t.accountsCreated.toNat + t.accountFailures.toNat
  created_eq : t.accountsCreated.toNat = accounts

namespace Agrees

variable {t : RegistrationTally} {n : NonceTally} {issues attempts accounts : Nat}

/-- Evicted nonces are in none of the sums. -/
theorem evicted (h : t.Agrees n issues attempts accounts) (evicted : UInt64) :
    t.Agrees { n with evicted } issues attempts accounts :=
  ⟨h.noncesIssued_eq, h.issues_eq, h.attempts_eq, h.decided_eq, h.authorized_le, h.authorized_eq,
    h.created_eq⟩

theorem refused (h : t.Agrees n issues attempts accounts) (hle : n.refused ≤ n.refused + 1) :
    t.Agrees { n with refused := n.refused + 1 } (issues + 1) attempts accounts := by
  have hcount := toNat_succ_of_le hle
  have hissues := h.issues_eq
  refine ⟨h.noncesIssued_eq, ?_, h.attempts_eq, h.decided_eq, h.authorized_le, h.authorized_eq,
    h.created_eq⟩
  simp only [hcount]
  omega

theorem issued (h : t.Agrees n issues attempts accounts) (hle : n.issued ≤ n.issued + 1) :
    { t with noncesIssued := t.noncesIssued + 1 }.Agrees { n with issued := n.issued + 1 }
      (issues + 1) attempts accounts := by
  have hcount := toNat_succ_of_le hle
  have hissues := h.issues_eq
  refine ⟨congrArg (· + 1) h.noncesIssued_eq, ?_, h.attempts_eq, h.decided_eq, h.authorized_le,
    h.authorized_eq, h.created_eq⟩
  simp only [hcount]
  omega

theorem invalid (h : t.Agrees n issues attempts accounts) (hle : t.invalid ≤ t.invalid + 1) :
    { t with invalid := t.invalid + 1 }.Agrees n issues (attempts + 1) accounts := by
  have hcount := toNat_succ_of_le hle
  have hattempts := h.attempts_eq
  refine ⟨h.noncesIssued_eq, h.issues_eq, ?_, h.decided_eq, h.authorized_le, h.authorized_eq,
    h.created_eq⟩
  simp only [hcount]
  omega

/-- An attempt is denied after its nonce was presented, whether the nonce was accepted or not. -/
theorem denied (h : t.Agrees n issues attempts accounts) (hle : t.denied ≤ t.denied + 1)
    {consumed rejected : UInt64} (hconsumed : n.consumed ≤ consumed)
    (hpresented : consumed.toNat + rejected.toNat = n.consumed.toNat + n.rejected.toNat + 1) :
    { t with denied := t.denied + 1 }.Agrees { n with consumed, rejected } issues (attempts + 1)
      accounts := by
  have hcount := toNat_succ_of_le hle
  have hattempts := h.attempts_eq
  have hdecided := h.decided_eq
  have hauthorized := h.authorized_le
  have hmono := UInt64.le_iff_toNat_le.mp hconsumed
  refine ⟨h.noncesIssued_eq, h.issues_eq, ?_, ?_, ?_, h.authorized_eq, h.created_eq⟩
  all_goals
    simp only [hcount]
    omega

/-- An attempt is authorized after its nonce was accepted; an account is made, or is not. -/
theorem authorized (h : t.Agrees n issues attempts accounts)
    (hle : t.authorized ≤ t.authorized + 1) (hconsumed : n.consumed ≤ n.consumed + 1)
    {created failures : UInt64} {accounts' : Nat} (hcreated : created.toNat = accounts')
    (hsum : created.toNat + failures.toNat =
      t.accountsCreated.toNat + t.accountFailures.toNat + 1) :
    { t with
      authorized := t.authorized + 1
      accountsCreated := created
      accountFailures := failures }.Agrees { n with consumed := n.consumed + 1 } issues
        (attempts + 1) accounts' := by
  have hcount := toNat_succ_of_le hle
  have hcount' := toNat_succ_of_le hconsumed
  have hattempts := h.attempts_eq
  have hdecided := h.decided_eq
  have hauthorized := h.authorized_le
  have hbefore := h.authorized_eq
  refine ⟨h.noncesIssued_eq, h.issues_eq, ?_, ?_, ?_, ?_, hcreated⟩
  all_goals
    simp only [hcount, hcount']
    omega

end Agrees

end RegistrationTally

/-- All counts of a snapshot add up: moreover every issued nonce is tracked or was evicted, and no
more were consumed than were issued. -/
structure Snapshot.AddsUp (t : Snapshot) (issues attempts accounts : Nat) : Prop
    extends t.registration.Agrees t.nonces issues attempts accounts where
  issued_eq : t.nonces.issued.toNat = t.outstanding + t.nonces.evicted.toNat
  consumed_le : t.nonces.consumed ≤ t.nonces.issued

namespace Registry

/-- The counts of a registry add up, after so many answered attempts to issue and so many answered
attempts to register. -/
structure Balanced (r : Registry) (issues attempts : Nat) : Prop where
  ledger : r.ledger.Balanced
  agrees : r.tally.Agrees r.ledger.tally issues attempts r.directory.size

variable {r : Registry} {reading : Reading} {now : Instant} {attempt : Attempt}
  {drawn : Credentials} {token : String} {issues attempts : Nat}

/-- To make an account counts it and adds its record; to fail to counts the failure. -/
theorem createAccount_cases (r : Registry) (account : NewAccount) (drawn : Credentials) :
    (∃ info, r.createAccount account drawn = (.ok info,
      { r with
        directory := { r.directory with
          records := r.directory.recordFor account drawn :: r.directory.records }
        tally := { r.tally with accountsCreated := r.tally.accountsCreated + 1 } })) ∨
      ∃ e, r.createAccount account drawn = (.error e,
        { r with tally := { r.tally with accountFailures := r.tally.accountFailures + 1 } }) := by
  unfold createAccount
  cases r.outage with
  | some reason => exact Or.inr ⟨_, rfl⟩
  | none =>
      unfold Directory.register
      cases r.directory.get? (r.directory.userIdFor account.username) with
      | some record => exact Or.inr ⟨_, rfl⟩
      | none => exact Or.inl ⟨_, rfl⟩

/-- Whether a call was answered, as a number. -/
def answered {ε α : Type} : Except ε α → Nat
  | .ok _ => 1
  | .error _ => 0

namespace Balanced

theorem sweep (h : r.Balanced issues attempts)
    (hgrew : r.snapshot.GrewTo (r.sweep reading).2.snapshot) :
    (r.sweep reading).2.Balanced issues attempts := by
  refine ⟨h.ledger.sweep hgrew.2, ?_⟩
  cases reading with
  | error e => exact h.agrees
  | ok now => exact h.agrees.evicted _

theorem issue (h : r.Balanced issues attempts)
    (hfree : (r.issue reading token).1 = .ok (.ok token) → r.ledger.find? token = none)
    (hgrew : r.snapshot.GrewTo (r.issue reading token).2.snapshot) :
    (r.issue reading token).2.Balanced (issues + answered (r.issue reading token).1) attempts := by
  have hledger : (r.issue reading token).2.ledger = (r.ledger.issue reading token).2 :=
    congrArg Authority.ledger (authority_issue r reading token)
  have hnonces : r.ledger.tally.GrewTo (r.ledger.issue reading token).2.tally :=
    hledger ▸ hgrew.2
  have htally := r.ledger.tally_issue reading token
  rw [issue_eq] at hfree ⊢
  have hbalanced := h.ledger.issue hfree hnonces
  obtain ⟨hissued, -, -, -, hrefused⟩ := hnonces
  have hroomy := h.agrees.evicted (r.ledger.issue reading token).2.tally.evicted
  rcases hanswer : (r.ledger.issue reading token).1 with e | full | other
  all_goals
    rw [hanswer] at htally
    refine ⟨hbalanced, ?_⟩
    change RegistrationTally.Agrees _ (r.ledger.issue reading token).2.tally _ _ _
    rw [htally] at hissued hrefused ⊢
  · exact hroomy
  · exact hroomy.refused hrefused
  · exact hroomy.issued hissued

/-- A denied attempt is counted, and its nonce was presented. -/
theorem deny (h : r.Balanced issues attempts)
    (hgrew : r.snapshot.GrewTo (r.present now attempt).countDenied.snapshot) :
    (r.present now attempt).countDenied.Balanced issues (attempts + 1) := by
  obtain ⟨⟨-, -, hdenied, -⟩, hnonces⟩ := hgrew
  have htally : (r.ledger.consumeAt now attempt.fields.nonce).2.tally =
      { r.ledger.tally with
        evicted := (r.ledger.consumeAt now attempt.fields.nonce).2.tally.evicted
        consumed := (r.ledger.consumeAt now attempt.fields.nonce).2.tally.consumed
        rejected := (r.ledger.consumeAt now attempt.fields.nonce).2.tally.rejected } := by
    rw [Ledger.tally_consumeAt]
  have hroomy := h.agrees.evicted (r.ledger.consumeAt now attempt.fields.nonce).2.tally.evicted
  refine ⟨h.ledger.consumeAt hnonces, ?_⟩
  change RegistrationTally.Agrees _ (r.ledger.consumeAt now attempt.fields.nonce).2.tally _ _ _
  rw [htally]
  exact hroomy.denied hdenied hnonces.2.1 (Ledger.presented_eq hnonces)

/-- An admitted attempt is counted, its nonce was accepted, and an account was made or not. -/
theorem admitted (h : r.Balanced issues attempts)
    (hjudge : r.ledger.judge now attempt.fields.nonce = .ok ()) (account : NewAccount)
    (hgrew : r.snapshot.GrewTo
      ((r.present now attempt).countAuthorized.createAccount account drawn).2.snapshot) :
    ((r.present now attempt).countAuthorized.createAccount account drawn).2.Balanced issues
      (attempts + 1) := by
  have htally := r.ledger.tally_consumeAt now attempt.fields.nonce
  simp only [hjudge] at htally
  have hroomy := h.agrees.evicted (r.ledger.consumeAt now attempt.fields.nonce).2.tally.evicted
  have hbefore := h.agrees.created_eq
  rcases createAccount_cases (r.present now attempt).countAuthorized account drawn with
    ⟨info, hmade⟩ | ⟨e, hfailed⟩
  · rw [hmade] at hgrew ⊢
    obtain ⟨⟨-, hauthorized, -, -, hcreated, -⟩, hnonces⟩ := hgrew
    refine ⟨h.ledger.consumeAt hnonces, ?_⟩
    change r.ledger.tally.GrewTo (r.ledger.consumeAt now attempt.fields.nonce).2.tally at hnonces
    change RegistrationTally.Agrees _ (r.ledger.consumeAt now attempt.fields.nonce).2.tally _ _ _
    rw [htally] at hnonces ⊢
    have hcount : (r.tally.accountsCreated + 1).toNat = r.tally.accountsCreated.toNat + 1 :=
      toNat_succ_of_le hcreated
    refine hroomy.authorized hauthorized hnonces.2.1 ?_ ?_
    · exact hcount.trans (congrArg (· + 1) hbefore)
    · change (r.tally.accountsCreated + 1).toNat + r.tally.accountFailures.toNat = _
      omega
  · rw [hfailed] at hgrew ⊢
    obtain ⟨⟨-, hauthorized, -, -, -, hfailures⟩, hnonces⟩ := hgrew
    refine ⟨h.ledger.consumeAt hnonces, ?_⟩
    change r.ledger.tally.GrewTo (r.ledger.consumeAt now attempt.fields.nonce).2.tally at hnonces
    change RegistrationTally.Agrees _ (r.ledger.consumeAt now attempt.fields.nonce).2.tally _ _ _
    rw [htally] at hnonces ⊢
    have hcount : (r.tally.accountFailures + 1).toNat = r.tally.accountFailures.toNat + 1 :=
      toNat_succ_of_le hfailures
    refine hroomy.authorized hauthorized hnonces.2.1 hbefore ?_
    change r.tally.accountsCreated.toNat + (r.tally.accountFailures + 1).toNat = _
    omega

/-- An attempt is counted once, by its answer; one that is stopped by the clock is not counted. -/
theorem register (h : r.Balanced issues attempts)
    (hgrew : r.snapshot.GrewTo (r.register reading attempt drawn).2.snapshot) :
    (r.register reading attempt drawn).2.Balanced issues
      (attempts + answered (r.register reading attempt drawn).1) := by
  cases hvalid : attempt.validate with
  | error e =>
      rw [register_of_invalid hvalid] at hgrew ⊢
      exact ⟨h.ledger, h.agrees.invalid hgrew.1.2.2.2.1⟩
  | ok _ =>
      cases reading with
      | error e =>
          rw [register_of_unread hvalid]
          exact h
      | ok now =>
          by_cases hadmits : r.Admits now attempt
          · rw [register_of_admitted hvalid hadmits] at hgrew ⊢
            exact h.admitted hadmits.1 _ hgrew
          · obtain ⟨reason, hdenied⟩ := register_of_denied hvalid hadmits drawn
            rw [hdenied] at hgrew ⊢
            exact h.deny hgrew

end Balanced

namespace Session

/-- Whether an event is an attempt to issue that was answered. -/
def answersIssue (e : Occurrence) : Bool :=
  match e.action, e.answer with
  | .issue _, .ok _ => true
  | _, _ => false

/-- Whether an event is an attempt to register that was answered. -/
def answersAttempt (e : Occurrence) : Bool :=
  match e.action, e.answer with
  | .register _ _, .ok _ => true
  | _, _ => false

/-- No event lowered a count, so that none has wrapped. -/
def Unwrapped (trail : List Occurrence) : Prop :=
  ∀ e ∈ trail, e.before.registry.snapshot.GrewTo e.after.registry.snapshot

variable {s : Session}

theorem step_issue_issued_of_issue
    (hissued : (s.registry.issue s.clock.read token).1 = .ok (.ok token)) :
    (s.step (.issue token)).1 = .ok (.issued token) := by
  simp only [step, hissued]
  rfl

/-- One event keeps the sums, if the token that it hands out was not tracked. -/
theorem balanced_step (h : s.registry.Balanced issues attempts) (action : Action)
    (hfree : ∀ token, (s.step action).1 = .ok (.issued token) →
      s.registry.ledger.find? token = none)
    (hgrew : s.registry.snapshot.GrewTo (s.step action).2.registry.snapshot) :
    (s.step action).2.registry.Balanced
      (issues + [eventOf step s action].countP answersIssue)
      (attempts + [eventOf step s action].countP answersAttempt) := by
  cases action with
  | issue token =>
      have hissue := h.issue (fun hissued => hfree token (step_issue_issued_of_issue hissued)) hgrew
      have hanswers : [eventOf step s (.issue token)].countP answersIssue =
          answered (s.registry.issue s.clock.read token).1 := by
        simp only [eventOf, step]
        rcases (s.registry.issue s.clock.read token).1 with _ | _ | _ <;> rfl
      rw [hanswers]
      exact hissue
  | register attempt drawn =>
      have hregister : (s.registry.register s.clock.read attempt drawn).2.Balanced issues
          (attempts + answered (s.registry.register s.clock.read attempt drawn).1) :=
        h.register hgrew
      have hanswers : [eventOf step s (.register attempt drawn)].countP answersAttempt =
          answered (s.registry.register s.clock.read attempt drawn).1 := by
        simp only [eventOf, step]
        cases (s.registry.register s.clock.read attempt drawn).1 <;> rfl
      rw [hanswers]
      exact hregister
  | sweep => exact h.sweep hgrew
  | sweepEvery interval span =>
      simp only [step, sweepEvery] at hgrew ⊢
      split at hgrew
      next hidle =>
        rw [if_pos hidle]
        exact h
      next hworks =>
        rw [if_neg hworks]
        exact h.sweep hgrew
  | advance span => exact h
  | setOutage outage => exact ⟨h.ledger, h.agrees⟩

theorem balanced_outcome {start : Session} (hstart : start.nonces.Coherent)
    (hempty : ∀ token, start.registry.ledger.find? token = none)
    (hbalanced : start.registry.Balanced 0 0) (actions : List Action)
    (hdistinct : (issuedTokens (events step start actions)).Nodup)
    (hunwrapped : Unwrapped (events step start actions)) :
    (outcome step start actions).registry.Balanced
      ((events step start actions).countP answersIssue)
      ((events step start actions).countP answersAttempt) := by
  -- The last event of a run hands out a token that no event before it did.
  induction actions using List.reverseRecOn with
  | nil => exact hbalanced
  | append_singleton first action ih =>
      rw [events_snoc] at hdistinct hunwrapped ⊢
      have hsplit : issuedTokens (events step start first ++
          [eventOf step (outcome step start first) action]) =
          issuedTokens (events step start first) ++
            issuedTokens [eventOf step (outcome step start first) action] := List.filterMap_append
      rw [hsplit] at hdistinct
      have hfirst := ih (List.Nodup.of_append_left hdistinct)
        fun e he => hunwrapped e (List.mem_append_left _ he)
      rw [List.countP_append, List.countP_append, outcome_append]
      refine balanced_step hfirst action ?_
        (hunwrapped _ (List.mem_append_right _ (List.mem_singleton_self _)))
      intro token hissued
      refine find?_outcome_of_not_issued hstart hempty ?_
      intro hmem
      have hlast : token ∈ issuedTokens [eventOf step (outcome step start first) action] :=
        mem_issuedTokens.mpr ⟨_, List.mem_singleton_self _, hissued⟩
      exact (List.disjoint_of_nodup_append hdistinct) hmem hlast

/-- After every run of a new registry that hands out no token twice and in which no count wraps,
whichever of its actions a time out of range stopped: every issued nonce is tracked or was evicted,
calls are counted by their answers, what was decided was presented, and the accounts are those that
were counted. -/
theorem counts_add_up {lifetime : Span} {fresh : Ledger}
    (hfresh : Ledger.create lifetime = .ok fresh) (clock : Clock) (maxEntries : Nat)
    (secret : Secret) (serverName : String) (tokenLifetime : Span) (actions : List Action)
    (hdistinct : (issuedTokens (events step ⟨clock, create (fresh.withCapacity maxEntries) secret
      (.create serverName tokenLifetime)⟩ actions)).Nodup)
    (hunwrapped : Unwrapped (events step ⟨clock, create (fresh.withCapacity maxEntries) secret
      (.create serverName tokenLifetime)⟩ actions)) :
    let start : Session :=
      ⟨clock, create (fresh.withCapacity maxEntries) secret (.create serverName tokenLifetime)⟩
    let trail := events step start actions
    let s := (start.run actions).2
    s.registry.snapshot.AddsUp (trail.countP answersIssue) (trail.countP answersAttempt)
      s.registry.directory.size := by
  intro start trail s
  have hstart : start.nonces.Coherent := Ledger.coherent_of_create hfresh maxEntries clock.elapsed
  obtain rfl := Ledger.eq_of_create hfresh
  have hempty : ∀ token, start.registry.ledger.find? token = none := fun token => rfl
  have hnew : start.registry.Balanced 0 0 :=
    ⟨⟨rfl, Nat.le_refl 0⟩, rfl, rfl, rfl, rfl, Nat.le_refl 0, rfl, rfl⟩
  have hend : s.registry.Balanced (trail.countP answersIssue) (trail.countP answersAttempt) := by
    have hrun : s = outcome step start actions := congrArg Prod.snd (run_eq start actions)
    rw [hrun]
    exact balanced_outcome hstart hempty hnew actions hdistinct hunwrapped
  have hconsumed := Nat.le_trans (Nat.le_add_right _ _) hend.ledger.consumed_add_le
  exact ⟨hend.agrees, hend.ledger.issued_eq, UInt64.le_iff_toNat_le.mpr hconsumed⟩

/-- A table of one nonce, attempts that are answered in different ways, nonces evicted by a sweep and
by being presented, and a last call that the clock stops. -/
theorem counts_of_various_answers :
    let fresh : Ledger := ⟨.ofSeconds 10, Ledger.defaultCapacity, [], none, {}⟩
    let secret : Secret := ⟨[1], by decide⟩
    let start : Session :=
      ⟨.start, create (fresh.withCapacity 1) secret (.create "server" (.ofSeconds 300))⟩
    let fields : Fields := ⟨"first", "alice", "password", true, none⟩
    let attempt : Attempt := ⟨fields, secret.signFields fields, none⟩
    let actions : List Action :=
      [.issue "first", .issue "refused", .register attempt default, .register attempt default,
        .register ⟨⟨"first", "", "password", true, none⟩, "", none⟩ default,
        .advance (.ofSeconds 10), .issue "second", .advance (.ofSeconds 10),
        .register ⟨⟨"second", "bob", "password", true, none⟩, "", none⟩ default,
        .advance (.ofSeconds 9223372036854775808), .issue "third"]
    let trail := events step start actions
    Ledger.create (.ofSeconds 10) = .ok fresh ∧ (issuedTokens trail).Nodup ∧ Unwrapped trail ∧
      (start.run actions).2.registry.snapshot = ⟨⟨2, 1, 2, 1, 1, 0⟩, ⟨2, 1, 2, 2, 1⟩, 0⟩ ∧
      trail.countP answersIssue = 3 ∧ trail.countP answersAttempt = 4 := by
  intro fresh secret start fields attempt actions trail
  have hfresh : Ledger.create (.ofSeconds 10) = .ok fresh := rfl
  obtain ⟨hdistinct, hunwrapped, hcounts⟩ : (issuedTokens trail).Nodup ∧
      (∀ e ∈ trail, e.before.registry.snapshot.GrewTo e.after.registry.snapshot) ∧
      (start.run actions).2.registry.snapshot = ⟨⟨2, 1, 2, 1, 1, 0⟩, ⟨2, 1, 2, 2, 1⟩, 0⟩ := by
    decide +kernel
  have hstart : (⟨.start, create (fresh.withCapacity 1) secret
    (.create "server" (.ofSeconds 300))⟩ : Session) = start := rfl
  have hsums := counts_add_up hfresh .start 1 secret "server" (.ofSeconds 300) actions hdistinct
    hunwrapped
  simp only [hstart, hcounts] at hsums
  exact ⟨hfresh, hdistinct, hunwrapped, hcounts, hsums.issues_eq.symm, hsums.attempts_eq.symm⟩

end Session

end Registry

end Enrollment
