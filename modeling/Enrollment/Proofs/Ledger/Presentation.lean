import Enrollment.Proofs.Ledger.Lifecycle
import Mathlib.Data.List.Induction

/-!
# What a presented token is answered

The four answers to a token, each exactly under its condition on the past of the run: accepted
while it lives and was not accepted before, used while it lives and was, expired as long as nothing
removed it after its lifetime, and unknown in every other case.
-/

namespace Enrollment.Ledger.Session

variable {s : Session} {token : String} {now : Instant}

/-- The token was issued, has not expired, and was not accepted since. -/
def Standing (lifetime : Span) (trail : List Occurrence) (token : String) (now : Instant) : Prop :=
  ∃ expiry since, IssuedThen lifetime trail token expiry since ∧ now < expiry ∧
    ∀ e ∈ since, ¬ Accepts e token

/-- The token was issued, has not expired, and was accepted before. -/
def Spent (lifetime : Span) (trail : List Occurrence) (token : String) (now : Instant) : Prop :=
  ∃ expiry since, IssuedThen lifetime trail token expiry since ∧ now < expiry ∧
    ∃ e ∈ trail, Accepts e token

/-- The token was issued and has expired, and since then it was not presented and no sweep ran. -/
def Lapsed (lifetime : Span) (trail : List Occurrence) (token : String) (now : Instant) : Prop :=
  ∃ expiry since, IssuedThen lifetime trail token expiry since ∧ expiry ≤ now ∧
    ∀ e ∈ since, ¬ Purges e token expiry

/-! ## Judging a nonce that was followed -/

theorem judge_of_removed {l : Ledger} {n : Nonce} {removed accepted : Prop}
    (h : Follows n removed accepted (l.find? token)) (hremoved : removed) :
    l.judge now token = .error .notFound := by
  simp [judge, h.1 hremoved]

theorem judge_of_expired {l : Ledger} {n : Nonce} {removed accepted : Prop}
    (h : Follows n removed accepted (l.find? token)) (hkept : ¬ removed)
    (hexpired : n.expiresAt ≤ now) : l.judge now token = .error .expired := by
  obtain ⟨consumed, hfind, -⟩ := h.2 hkept
  simp [judge, hfind, Nonce.isExpiredAt, hexpired]

theorem judge_of_live {l : Ledger} {n : Nonce} {removed accepted : Prop}
    (h : Follows n removed accepted (l.find? token)) (hkept : ¬ removed)
    (hfresh : n.consumed = false) (hlive : now < n.expiresAt) :
    (accepted → l.judge now token = .error .alreadyUsed) ∧
      (¬ accepted → l.judge now token = .ok ()) := by
  obtain ⟨consumed, hfind, hconsumed⟩ := h.2 hkept
  have hnot : ¬ n.expiresAt ≤ now := Instant.not_le.mpr hlive
  constructor
  · intro haccepted
    simp [judge, hfind, Nonce.isExpiredAt, hnot, hconsumed.mpr (Or.inr haccepted)]
  · intro hunaccepted
    have hnotConsumed : consumed = false := by
      simpa [hfresh, hunaccepted] using hconsumed
    simp [judge, hfind, Nonce.isExpiredAt, hnot, hnotConsumed]

theorem judge_ne_ok_of_accepted {l : Ledger} {n : Nonce} {removed accepted : Prop}
    (h : Follows n removed accepted (l.find? token)) (haccepted : accepted) :
    l.judge now token ≠ .ok () := by
  intro hok
  by_cases hremoved : removed
  · rw [judge_of_removed h hremoved] at hok
    cases hok
  · obtain ⟨consumed, hfind, hconsumed⟩ := h.2 hremoved
    have hspent : consumed = true := hconsumed.mpr (Or.inr haccepted)
    simp only [judge, hfind, hspent] at hok
    split at hok <;> cases hok

/-! ## Judging a token by the past -/

section Past

variable {start : Session} {past : List Action} (hstart : start.Coherent)
  (hempty : ∀ token, start.ledger.find? token = none)
  (hdistinct : (issuedTokens (events step start past)).Nodup)
  (hread : (outcome step start past).clock.read = .ok now)

include hread in
/-- As long as a token has not expired, nothing can have removed it. -/
theorem not_purges_of_live {since : List Occurrence} {expiry : Instant}
    (hissued : IssuedThen start.ledger.lifetime (events step start past) token expiry since)
    (hlive : now < expiry) : ¬ ∃ e ∈ since, Purges e token expiry := by
  rintro ⟨e, he, moment, hmoment, hle, -⟩
  have hmonotone := elapsed_le_of_mem (hissued.mem_trail he)
  have hnow := Clock.read_eq_ok_iff.mp hread
  have hthen := Clock.read_eq_ok_iff.mp hmoment
  rw [Instant.lt_def] at hlive
  rw [Instant.le_def] at hle
  omega

include hstart hdistinct hread in
theorem judge_of_standing
    (hstanding : Standing start.ledger.lifetime (events step start past) token now) :
    (outcome step start past).ledger.judge now token = .ok () := by
  obtain ⟨expiry, since, hissued, hlive, hunaccepted⟩ := hstanding
  obtain ⟨issuedAt, hfollows⟩ := follows_of_issuedThen hstart hdistinct hissued
  have hkept := not_purges_of_live hread hissued hlive
  exact (judge_of_live hfollows hkept rfl hlive).2 (by simpa using hunaccepted)

include hstart hempty hdistinct hread in
theorem judge_of_spent
    (hspent : Spent start.ledger.lifetime (events step start past) token now) :
    (outcome step start past).ledger.judge now token = .error .alreadyUsed := by
  obtain ⟨expiry, since, hissued, hlive, e, he, haccepts⟩ := hspent
  have hsince := mem_since_of_accepts hstart (hempty token) hdistinct hissued he haccepts
  obtain ⟨issuedAt, hfollows⟩ := follows_of_issuedThen hstart hdistinct hissued
  have hkept := not_purges_of_live hread hissued hlive
  exact (judge_of_live hfollows hkept rfl hlive).1 ⟨e, hsince, haccepts⟩

include hstart hdistinct in
theorem judge_of_lapsed
    (hlapsed : Lapsed start.ledger.lifetime (events step start past) token now) :
    (outcome step start past).ledger.judge now token = .error .expired := by
  obtain ⟨expiry, since, hissued, hexpired, hunpurged⟩ := hlapsed
  obtain ⟨issuedAt, hfollows⟩ := follows_of_issuedThen hstart hdistinct hissued
  exact judge_of_expired hfollows (by simpa using hunpurged) hexpired

include hstart hempty hdistinct in
theorem judge_of_otherwise
    (hstanding : ¬ Standing start.ledger.lifetime (events step start past) token now)
    (hspent : ¬ Spent start.ledger.lifetime (events step start past) token now)
    (hlapsed : ¬ Lapsed start.ledger.lifetime (events step start past) token now) :
    (outcome step start past).ledger.judge now token = .error .notFound := by
  by_cases hmem : token ∈ issuedTokens (events step start past)
  · obtain ⟨expiry, since, hissued⟩ := exists_issuedThen hmem
    obtain ⟨issuedAt, hfollows⟩ := follows_of_issuedThen hstart hdistinct hissued
    have hexpired : expiry ≤ now := by
      by_contra hlive
      rw [Instant.not_le] at hlive
      by_cases haccepted : ∃ e ∈ since, Accepts e token
      · obtain ⟨e, he, haccepts⟩ := haccepted
        exact hspent ⟨expiry, since, hissued, hlive, e, hissued.mem_trail he, haccepts⟩
      · exact hstanding ⟨expiry, since, hissued, hlive, by simpa using haccepted⟩
    refine judge_of_removed hfollows ?_
    by_contra hunpurged
    exact hlapsed ⟨expiry, since, hissued, hexpired, by simpa using hunpurged⟩
  · simp [judge, find?_outcome_of_none hstart (hempty token) hmem]

include hstart hempty hdistinct in
theorem not_accepts_of_accepted {e : Occurrence} (he : e ∈ events step start past)
    (haccepted : Accepts e token) {action : Action} :
    ¬ Accepts (eventOf step (outcome step start past) action) token := by
  intro haccepts
  obtain ⟨before, since, hsplit⟩ := List.append_of_mem he
  have hbefore := mem_issuedTokens_of_accepts hstart (hempty token) hsplit haccepted
  have hmem : token ∈ issuedTokens (events step start past) := by
    rw [hsplit, issuedTokens_append]
    exact List.mem_append_left _ hbefore
  obtain ⟨expiry, since, hissued⟩ := exists_issuedThen hmem
  have hsince := mem_since_of_accepts hstart (hempty token) hdistinct hissued he haccepted
  obtain ⟨issuedAt, hfollows⟩ := follows_of_issuedThen hstart hdistinct hissued
  obtain ⟨now, -, hjudge⟩ := judge_of_accepts haccepts
  exact judge_ne_ok_of_accepted hfollows ⟨e, hsince, haccepted⟩ hjudge

include hstart hempty hdistinct in
/-- No token is accepted twice in a run. -/
theorem acceptedTokens_nodup : (acceptedTokens (events step start past)).Nodup := by
  induction past using List.reverseRecOn with
  | nil => exact List.nodup_nil
  | append_singleton first action ih =>
      rw [events_snoc, issuedTokens_append] at hdistinct
      have hdistinct' := hdistinct.sublist (List.sublist_append_left _ _)
      have hfirst := ih hdistinct'
      rw [events_snoc, acceptedTokens_append, acceptedTokens_singleton]
      cases hlast : acceptedToken? (eventOf step (outcome step start first) action) with
      | none => simpa using hfirst
      | some token =>
          have haccepts := acceptedToken?_eq_some_iff.mp hlast
          have hnot : token ∉ acceptedTokens (events step start first) := by
            intro hmem
            obtain ⟨e, he, haccepted⟩ := mem_acceptedTokens.mp hmem
            exact not_accepts_of_accepted hstart hempty hdistinct' he haccepted haccepts
          rw [Option.toList_some, ← List.concat_eq_append]
          exact hfirst.concat hnot

include hstart hdistinct hread in
/-- If a token that lives was presented since its issue at all, it was accepted once: nothing but an
acceptance could have stood in the way of the first presentation. -/
theorem exists_accepts_of_presented {expiry : Instant} {since : List Occurrence}
    (hissued : IssuedThen start.ledger.lifetime (events step start past) token expiry since)
    (hlive : now < expiry) {e : Occurrence} (he : e ∈ since)
    (hpresented : e.action = .consume token) : ∃ e ∈ since, Accepts e token := by
  have hmonotone := elapsed_le_of_mem (hissued.mem_trail he)
  rw [← Clock.read_eq_ok_iff.mp hread] at hmonotone
  obtain ⟨moment, hmoment, hle⟩ := Clock.exists_read_of_le hmonotone
  obtain ⟨before, issue, issuedAt, hsplit, hissues, hafter⟩ := hissued
  obtain ⟨mid, later, rfl⟩ := List.append_of_mem he
  -- Without an acceptance the token still stands when it is presented, and is accepted.
  by_contra hnone
  rw [← List.cons_append, ← List.append_assoc] at hsplit
  obtain ⟨first, action, rest, rfl, hfirst, rfl, rfl⟩ := exists_split_of_events hsplit
  obtain rfl : action = .consume token := hpresented
  have hdistinct' : (issuedTokens (events step start first)).Nodup := by
    rw [events_append, issuedTokens_append] at hdistinct
    exact hdistinct.sublist (List.sublist_append_left _ _)
  have hstanding : Standing start.ledger.lifetime (events step start first) token moment := by
    refine ⟨expiry, mid, ⟨before, issue, issuedAt, hfirst.symm, hissues, hafter⟩,
      Nat.lt_of_le_of_lt hle hlive, ?_⟩
    exact fun e he haccepts => hnone ⟨e, List.mem_append_left _ he, haccepts⟩
  have hjudge := judge_of_standing hstart hdistinct' hmoment hstanding
  exact hnone ⟨_, List.mem_append_right _ List.mem_cons_self, (accepts_iff hmoment).mpr hjudge⟩

include hstart hdistinct hread in
/-- A token that was issued is accepted exactly if it lives and was not presented since. -/
theorem judge_eq_ok_iff_of_issuedThen {expiry : Instant} {since : List Occurrence}
    (hissued : IssuedThen start.ledger.lifetime (events step start past) token expiry since) :
    (outcome step start past).ledger.judge now token = .ok () ↔
      now < expiry ∧ ∀ e ∈ since, e.action ≠ .consume token := by
  obtain ⟨issuedAt, hfollows⟩ := follows_of_issuedThen hstart hdistinct hissued
  constructor
  · intro hok
    have hkept : ¬ ∃ e ∈ since, Purges e token expiry := by
      intro hpurged
      rw [judge_of_removed hfollows hpurged] at hok
      cases hok
    have hlive : now < expiry := by
      by_contra hexpired
      rw [Instant.not_lt] at hexpired
      rw [judge_of_expired hfollows hkept hexpired] at hok
      cases hok
    refine ⟨hlive, fun e he hpresented => ?_⟩
    have haccepted := exists_accepts_of_presented hstart hdistinct hread hissued hlive he hpresented
    exact judge_ne_ok_of_accepted hfollows haccepted hok
  · -- What was not presented was not accepted.
    rintro ⟨hlive, hunpresented⟩
    refine judge_of_standing hstart hdistinct hread ⟨expiry, since, hissued, hlive, ?_⟩
    exact fun e he haccepts => hunpresented e he haccepts.1

theorem step_eq_consumed_iff (hread : s.clock.read = .ok now) :
    (s.step (.consume token)).1 = .ok .consumed ↔ s.ledger.judge now token = .ok () := by
  rw [step_consume_eq hread]
  cases s.ledger.judge now token <;> simp [Answer.ofConsume]

theorem step_eq_rejected_iff (hread : s.clock.read = .ok now) {e : NonceError} :
    (s.step (.consume token)).1 = .ok (.rejected e) ↔ s.ledger.judge now token = .error e := by
  rw [step_consume_eq hread]
  cases s.ledger.judge now token <;> simp [Answer.ofConsume]

end Past

/-- Of a run from an empty ledger that never hands out a token twice: the past of the run decides
what a token is answered, and no token is accepted twice, not even after it was forgotten. -/
theorem consume_answered_by_past {lifetime : Span} {fresh : Ledger}
    (hfresh : create lifetime = .ok fresh) (clock : Clock) (maxEntries : Nat)
    (past : List Action)
    (hdistinct : (issuedTokens (events step ⟨clock, fresh.withCapacity maxEntries⟩ past)).Nodup) :
    let start : Session := ⟨clock, fresh.withCapacity maxEntries⟩
    let trail := events step start past
    let s := (start.run past).2
    (∀ token now, s.clock.read = .ok now →
      ((s.step (.consume token)).1 = .ok .consumed ↔ Standing lifetime trail token now) ∧
      ((s.step (.consume token)).1 = .ok (.rejected .alreadyUsed) ↔
        Spent lifetime trail token now) ∧
      ((s.step (.consume token)).1 = .ok (.rejected .expired) ↔
        Lapsed lifetime trail token now) ∧
      ((s.step (.consume token)).1 = .ok (.rejected .notFound) ↔
        ¬ Standing lifetime trail token now ∧ ¬ Spent lifetime trail token now ∧
          ¬ Lapsed lifetime trail token now)) ∧
      (acceptedTokens trail).Nodup := by
  intro start trail s
  have hstart : start.Coherent := coherent_of_create hfresh maxEntries clock.elapsed
  have hempty : ∀ token, start.ledger.find? token = none := fun token => by
    simp [start, eq_of_create hfresh, withCapacity, find?]
  have hlifetime : start.ledger.lifetime = lifetime := by
    simp [start, eq_of_create hfresh, withCapacity]
  have hrun : s = outcome step start past := congrArg Prod.snd (run_eq start past)
  refine ⟨?_, acceptedTokens_nodup hstart hempty hdistinct⟩
  intro token now hread
  rw [hrun] at hread
  rw [hrun, step_eq_consumed_iff hread, ← hlifetime]
  simp only [step_eq_rejected_iff hread]
  have hstanding : Standing start.ledger.lifetime trail token now → _ :=
    judge_of_standing hstart hdistinct hread
  have hspent : Spent start.ledger.lifetime trail token now → _ :=
    judge_of_spent hstart hempty hdistinct hread
  have hlapsed : Lapsed start.ledger.lifetime trail token now → _ :=
    judge_of_lapsed hstart hdistinct
  -- The judgement is a function: each condition gives its own, so they exclude each other.
  by_cases hs : Standing start.ledger.lifetime trail token now
  · have hjudge := hstanding hs
    grind
  by_cases hu : Spent start.ledger.lifetime trail token now
  · have hjudge := hspent hu
    grind
  by_cases hl : Lapsed start.ledger.lifetime trail token now
  · have hjudge := hlapsed hl
    grind
  · have hjudge := judge_of_otherwise hstart hempty hdistinct hs hu hl
    grind

/-- A token that was accepted is told apart from an unknown one until the moment it expires. -/
theorem consume_again_within_lifetime :
    let fresh : Ledger := ⟨.ofSeconds 10, defaultCapacity, [], none, {}⟩
    let past : List Action := [.issue "a", .consume "a", .advance (.ofSeconds 9)]
    let trail := events step ⟨.start, fresh.withCapacity 2⟩ past
    let s := ((⟨.start, fresh.withCapacity 2⟩ : Session).run past).2
    create (.ofSeconds 10) = .ok fresh ∧ (issuedTokens trail).Nodup ∧
      s.clock.read = .ok ⟨9 * nanosPerSecond, by decide⟩ ∧
      Spent (.ofSeconds 10) trail "a" ⟨9 * nanosPerSecond, by decide⟩ := by
  intro fresh past trail s
  have hfresh : create (.ofSeconds 10) = .ok fresh := rfl
  have hdistinct : (issuedTokens trail).Nodup := by decide
  have hread : s.clock.read = .ok ⟨9 * nanosPerSecond, by decide⟩ :=
    Clock.read_eq_ok_iff.mpr (by decide)
  have hanswer : (s.step (.consume "a")).1 = .ok (.rejected .alreadyUsed) :=
    (step_eq_rejected_iff hread).mpr (by decide)
  have htheorem := consume_answered_by_past hfresh .start 2 past hdistinct
  exact ⟨hfresh, hdistinct, hread, (htheorem.1 "a" _ hread).2.1.mp hanswer⟩

end Enrollment.Ledger.Session
