import Enrollment.Proofs.Ledger.Lifecycle

/-!
# Nonces that wait to be presented

A nonce that nobody presents stays usable until it expires, whatever else is issued, presented or
swept in the meantime. This needs nothing to be known about other tokens: where the same token is
handed out once more, the new nonce expires no earlier than the old one.
-/

namespace Enrollment.Ledger.Session

/-- The token may be presented for as long as no more time has passed than `limit`. -/
def UsableUntil (s : Session) (token : String) (limit : Span) : Prop :=
  ∃ n, s.ledger.find? token = some n ∧ n.consumed = false ∧ limit.nanos < n.expiresAt.nanos

variable {s : Session} {token : String} {limit : Span}

theorem UsableUntil.judge (husable : s.UsableUntil token s.clock.elapsed) {now : Instant}
    (hread : s.clock.read = .ok now) : s.ledger.judge now token = .ok () := by
  obtain ⟨n, hfind, hfresh, hlive⟩ := husable
  have hnow := Clock.read_eq_ok_iff.mp hread
  have hlater : now < n.expiresAt := by
    rw [Instant.lt_def, hnow]
    exact hlive
  simp [Ledger.judge, hfind, Nonce.isExpiredAt_eq_false_iff.mpr hlater, hfresh]

theorem usableUntil_of_issued {action : Action} (hissued : (s.step action).1 = .ok (.issued token))
    (hlimit : limit.nanos < s.clock.elapsed.nanos + s.ledger.lifetime.nanos) :
    (s.step action).2.UsableUntil token limit := by
  obtain ⟨-, issuedAt, expiry, hread, hafter, hfind⟩ := exists_of_step_issued hissued
  refine ⟨_, hfind, rfl, ?_⟩
  rw [Instant.after?_eq_some_iff.mp hafter, Clock.read_eq_ok_iff.mp hread]
  exact hlimit

theorem UsableUntil.step (hs : s.Coherent) (husable : s.UsableUntil token limit)
    (hlimit : s.clock.elapsed.nanos ≤ limit.nanos) {action : Action}
    (hnot : action ≠ .consume token) : (s.step action).2.UsableUntil token limit := by
  obtain ⟨n, hfind, hfresh, hlive⟩ := husable
  by_cases hissued : (s.step action).1 = .ok (.issued token)
  · -- The nonce that takes its place was issued later, with the same lifetime.
    refine usableUntil_of_issued hissued ?_
    obtain ⟨hmem, -⟩ := (Ledger.Coherent.find?_eq_some_iff hs).mp hfind
    have hissuedAt := Ledger.Coherent.issuedAt_le hs n hmem
    have hexpires := Ledger.Coherent.expiresAt_eq hs n hmem
    omega
  · obtain ⟨-, hkept⟩ := follows_step hs hfind action hissued
    have hunpurged : ¬ Purges (eventOf Session.step s action) token n.expiresAt := by
      rintro ⟨now, hread, hexpired, -⟩
      have hnow : now.nanos = s.clock.elapsed.nanos := Clock.read_eq_ok_iff.mp hread
      rw [Instant.le_def] at hexpired
      omega
    obtain ⟨consumed, hfound, hconsumed⟩ := hkept hunpurged
    have hunaccepted : ¬ Accepts (eventOf Session.step s action) token :=
      fun haccepts => hnot haccepts.1
    refine ⟨_, hfound, ?_, hlive⟩
    simpa [hfresh, hunaccepted] using hconsumed

theorem UsableUntil.outcome (hs : s.Coherent) (husable : s.UsableUntil token limit)
    {actions : List Action} (hnot : .consume token ∉ actions)
    (hlimit : (outcome Session.step s actions).clock.elapsed.nanos ≤ limit.nanos) :
    (outcome Session.step s actions).UsableUntil token limit := by
  induction actions generalizing s with
  | nil => exact husable
  | cons action rest ih =>
      rw [List.mem_cons, not_or] at hnot
      have hnow := Nat.le_trans (elapsed_le_outcome s (action :: rest)) hlimit
      exact ih (hs.step action) (husable.step hs hnow (Ne.symm hnot.1)) hnot.2 hlimit

end Enrollment.Ledger.Session
