import Enrollment.Proofs.Ledger.Issuance

/-!
# Calls that a time out of range stops

A call that a time out of range stops has done nothing yet, with one exception: an attempt to issue
may have swept before it finds that the expiry of its token cannot be represented. What is gone then
had expired. So the ledgers with and without the call are alike, and a run goes on as if the call
had not been made. Only why an expired nonce is refused, and how many nonces a later sweep finds,
can tell of it.
-/

namespace Enrollment

/-- A reason that does not tell an expired nonce from a forgotten one. -/
def NonceError.blurred : NonceError → NonceError
  | .expired => .notFound
  | e => e

theorem error_of_map {ε α β : Type} {x : Except ε α} {f : α → β} {e : ε}
    (h : x.map f = .error e) : x = .error e := by
  cases x with
  | error _ => exact congrArg Except.error (Except.error.inj h)
  | ok _ => cases h

/-- A clock that cannot be moved so far stays as it is. -/
theorem Clock.advance_of_error {clock : Clock} {span : Span} {e : TimeOverflow}
    (hstopped : (clock.advance span).1 = .error e) : (clock.advance span).2 = clock := by
  unfold Clock.advance at hstopped ⊢
  split at hstopped
  · cases hstopped
  · rfl

namespace Ledger

variable {l l' : Ledger} {elapsed : Span} {now : Instant} {reading : Reading} {clock : Clock}
  {token : String} {e : TimeOverflow}

/-! ## What a stopped call leaves -/

/-- Nothing is lost but nonces that have expired, and nothing else differs but the noted expiry and
the count of evicted nonces. -/
structure LosesOnlyExpired (l l' : Ledger) (elapsed : Span) : Prop where
  settings_eq : l'.settings = l.settings
  tally_eq : l'.tally.exceptEvicted = l.tally.exceptEvicted
  sublist : l'.entries.Sublist l.entries
  unexpired_eq : l'.entries.filter (elapsed.nanos < ·.expiresAt.nanos) =
    l.entries.filter (elapsed.nanos < ·.expiresAt.nanos)

/-- A ledger as it was, or with room made for a nonce. -/
def IsLeftBy (l l' : Ledger) (reading : Reading) : Prop :=
  l' = l ∨ ∃ now, reading = .ok now ∧ l' = l.makeRoom now

theorem LosesOnlyExpired.refl (l : Ledger) (elapsed : Span) : l.LosesOnlyExpired l elapsed :=
  ⟨rfl, rfl, .refl _, rfl⟩

theorem losesOnlyExpired_sweepAt (l : Ledger) (hnow : now.nanos = elapsed.nanos) :
    l.LosesOnlyExpired (l.sweepAt now).2 elapsed where
  settings_eq := rfl
  tally_eq := rfl
  sublist := List.filter_sublist
  unexpired_eq := by
    simp only [sweepAt, List.filter_filter]
    refine List.filter_congr fun n _ => ?_
    cases hexpired : n.isExpiredAt now with
    | false => simp
    | true =>
        have hle := Nonce.isExpiredAt_iff.mp hexpired
        rw [Instant.le_def, hnow] at hle
        simp [hle]

theorem losesOnlyExpired_makeRoom (l : Ledger) (hnow : now.nanos = elapsed.nanos) :
    l.LosesOnlyExpired (l.makeRoom now) elapsed := by
  unfold makeRoom
  split
  · exact losesOnlyExpired_sweepAt l hnow
  · exact .refl l elapsed

theorem IsLeftBy.losesOnlyExpired (h : l.IsLeftBy l' clock.read) :
    l.LosesOnlyExpired l' clock.elapsed := by
  rcases h with rfl | ⟨now, hread, rfl⟩
  · exact .refl l' clock.elapsed
  · exact losesOnlyExpired_makeRoom l (Clock.read_eq_ok_iff.mp hread)

theorem IsLeftBy.alike (h : l.IsLeftBy l' clock.read) (hcoherent : l.Coherent clock.elapsed) :
    l'.Alike l clock.elapsed := by
  have halike : l.Alike l clock.elapsed := .refl hcoherent
  rcases h with rfl | ⟨now, hread, rfl⟩
  · exact halike
  · exact halike.makeRoom (Clock.read_eq_ok_iff.mp hread)

/-- The sum with the lifetime is formed last, but before anything is inserted or counted. -/
theorem grant_of_error (hstopped : (l.grant now token).1 = .error e) :
    (l.grant now token).2 = l := by
  unfold grant at hstopped ⊢
  split
  next hfull => simp [hfull] at hstopped
  next hfull =>
    cases hafter : now.after? l.lifetime with
    | none => rfl
    | some expiry => simp [hfull, hafter] at hstopped

theorem isLeftBy_issue_of_error (hstopped : (l.issue reading token).1 = .error e) :
    l.IsLeftBy (l.issue reading token).2 reading := by
  cases reading with
  | error _ => exact .inl rfl
  | ok now => exact .inr ⟨now, rfl, grant_of_error hstopped⟩

theorem consume_of_error (hstopped : (l.consume reading token).1 = .error e) :
    (l.consume reading token).2 = l := by
  cases reading with
  | error _ => rfl
  | ok now => cases hstopped

theorem sweep_of_error (hstopped : (l.sweep reading).1 = .error e) : (l.sweep reading).2 = l := by
  cases reading with
  | error _ => rfl
  | ok now => cases hstopped

/-! ## What is told from the live nonces -/

/-- What presenting a token comes to where only live nonces are tracked. -/
def judgeAmong (live : List Nonce) (token : String) : Except NonceError Unit :=
  match live.find? (·.token == token) with
  | none => .error .notFound
  | some n => if n.consumed then .error .alreadyUsed else .ok ()

theorem Coherent.find?_live (h : l.Coherent elapsed) (now : Instant) (token : String) :
    (l.live now).find? (·.token == token) =
      (l.find? token).filter (fun n => !n.isExpiredAt now) := by
  -- What is live is what a sweep leaves, which is coherent too.
  ext n
  rw [Option.filter_eq_some_iff, h.find?_eq_some_iff]
  refine (h.sweepAt now).find?_eq_some_iff.trans ?_
  exact (and_congr_left fun _ => List.mem_filter).trans and_right_comm

theorem Coherent.judge_blurred (h : l.Coherent elapsed) (now : Instant) (token : String) :
    (l.judge now token).mapError NonceError.blurred = judgeAmong (l.live now) token := by
  unfold judge judgeAmong
  rw [h.find?_live]
  cases l.find? token with
  | none => rfl
  | some n => cases hexpired : n.isExpiredAt now <;> cases hconsumed : n.consumed <;>
      simp [Option.filter, hexpired, hconsumed, Except.mapError, NonceError.blurred]

theorem Alike.judge_blurred (h : l.Alike l' elapsed) (hnow : now.nanos = elapsed.nanos)
    (token : String) : (l.judge now token).mapError NonceError.blurred =
      (l'.judge now token).mapError NonceError.blurred := by
  rw [h.left.judge_blurred, h.right.judge_blurred, h.live_eq now (Nat.le_of_eq hnow.symm)]

/-! ## Runs -/

/-- An answer that does not tell when expired nonces were removed: neither whether one that is
presented is still tracked, nor how many a sweep finds. -/
def Answer.blurred : Answer → Answer
  | .rejected e => .rejected e.blurred
  | .swept _ => .swept 0
  | answer => answer

namespace Session

variable {s s' : Session} {action : Action}

theorem blurred_ofConsume (outcome : Except NonceError Unit) :
    (Answer.ofConsume outcome).blurred = .ofConsume (outcome.mapError NonceError.blurred) := by
  cases outcome <;> rfl

/-- One action on two sessions that are alike. -/
theorem Alike.step (h : s.Alike s') (action : Action) :
    (s.step action).1.map Answer.blurred = (s'.step action).1.map Answer.blurred ∧
      (s.step action).2.Alike (s'.step action).2 := by
  obtain ⟨clock, l⟩ := s
  obtain ⟨clock', l'⟩ := s'
  obtain ⟨rfl, hledger⟩ := h
  cases action with
  | issue token =>
      obtain ⟨hanswer, halike⟩ := hledger.issue token
      refine ⟨?_, rfl, halike⟩
      simp only [Session.step]
      rw [hanswer]
  | consume token =>
      refine ⟨?_, rfl, (hledger.consume token).2⟩
      cases hread : clock.read with
      | error e => simp only [Session.step, hread, Ledger.consume]
      | ok now =>
          have hjudge := hledger.judge_blurred (Clock.read_eq_ok_iff.mp hread) token
          simp only [Session.step, hread, Ledger.consume, Ledger.consumeAt_eq, Except.map,
            blurred_ofConsume, hjudge]
  | sweep =>
      refine ⟨?_, rfl, hledger.sweep.symm.sweep.symm⟩
      cases hread : clock.read <;> simp only [Session.step, hread] <;> rfl
  | advance span => exact ⟨rfl, rfl, hledger.mono (clock.elapsed_le_advance span)⟩

theorem Alike.run (h : s.Alike s') (actions : List Action) :
    (s.run actions).1.map (·.map Answer.blurred) = (s'.run actions).1.map (·.map Answer.blurred) ∧
      (s.run actions).2.Alike (s'.run actions).2 :=
  run_alike (fun action h => h.step action) h actions

/-- A step that is stopped leaves the clock as it was, and of the ledger at most room for a
nonce. -/
theorem isLeftBy_step_of_error (hstopped : (s.step action).1 = .error e) :
    (s.step action).2.clock = s.clock ∧
      s.ledger.IsLeftBy (s.step action).2.ledger s.clock.read := by
  cases action with
  | issue token => exact ⟨rfl, isLeftBy_issue_of_error (error_of_map hstopped)⟩
  | consume token => exact ⟨rfl, .inl (consume_of_error (error_of_map hstopped))⟩
  | sweep => exact ⟨rfl, .inl (sweep_of_error (error_of_map hstopped))⟩
  | advance span => exact ⟨Clock.advance_of_error (error_of_map hstopped), .inl rfl⟩

end Session

end Ledger

end Enrollment
