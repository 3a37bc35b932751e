import Enrollment.Proofs.Ledger.Coherence
import Enrollment.Proofs.Ledger.Live

/-!
# Ledgers that answer alike

Two ledgers are alike if they differ only in expired nonces that they still track and in what
follows from that: the expiry noted by the last sweep and the count of evicted nonces. Sweeping
either of them keeps them alike. Issuing on both gives one answer, and a token is accepted by both
or by neither, though a refusal may be for another reason: one has forgotten a nonce that the other
still knows as expired.
-/

namespace Enrollment

/-- The counts that do not depend on when expired nonces were removed. -/
def NonceTally.exceptEvicted (t : NonceTally) : NonceTally :=
  { t with evicted := 0 }

namespace Ledger

/-- Alike for every call from a time on the clock on. -/
structure Alike (l l' : Ledger) (elapsed : Span) : Prop where
  left : l.Coherent elapsed
  right : l'.Coherent elapsed
  lifetime_eq : l.lifetime = l'.lifetime
  capacity_eq : l.capacity = l'.capacity
  live_eq : ∀ now, elapsed.nanos ≤ now.nanos → l.live now = l'.live now
  tally_eq : l.tally.exceptEvicted = l'.tally.exceptEvicted

/-! ## Fullness and judgement by the live nonces -/

/-- After room was made, a ledger is full exactly of live nonces. If a sweep was not due, the noted
expiry is still ahead, and with it every expiry. -/
theorem Coherent.isFull_makeRoom_iff {l : Ledger} {elapsed : Span} (h : l.Coherent elapsed)
    (now : Instant) : (l.makeRoom now).isFull = true ↔ l.capacity ≤ (l.live now).length := by
  unfold Ledger.makeRoom
  split
  next => exact isFull_iff
  next hroom =>
    cases hfull : l.isFull with
    | false =>
        have hlt := isFull_eq_false_iff.mp hfull
        have hlive := l.live_length_le_size now
        constructor
        · simp
        · intro hle
          omega
    | true =>
        have hdue : l.sweepDue now = false := by simpa [hfull] using hroom
        -- The noted expiry is ahead, and bounds every other from below.
        have hall : l.live now = l.entries := by
          cases hnext : l.nextExpiry with
          | none => simp [sweepDue, hnext] at hdue
          | some expiry =>
              have hahead : now < expiry := by simpa [sweepDue, hnext] using hdue
              apply List.filter_eq_self.mpr
              intro n hn
              have hle := h.nextExpiry_le expiry hnext n hn
              rw [Nonce.isExpiredAt_eq_false_iff.mpr (Nat.lt_of_lt_of_le hahead hle)]
              rfl
        rw [hall]
        exact iff_of_true rfl (isFull_iff.mp hfull)

/-- A token is accepted exactly if its nonce is live and was not consumed. -/
theorem Coherent.judge_eq_ok_iff {l : Ledger} {elapsed : Span} (h : l.Coherent elapsed)
    {now : Instant} {token : String} :
    l.judge now token = .ok () ↔ ∃ n ∈ l.live now, n.token = token ∧ n.consumed = false := by
  unfold judge
  cases hfind : l.find? token with
  | none =>
      constructor
      · intro hok
        cases hok
      · rintro ⟨n, hn, htoken, -⟩
        have hsome := h.find?_eq_some_iff.mpr ⟨(mem_live.mp hn).1, htoken⟩
        rw [hfind] at hsome
        cases hsome
  | some n =>
      obtain ⟨hn, htoken⟩ := h.find?_eq_some_iff.mp hfind
      have honly : ∀ m ∈ l.live now, m.token = token → m = n := fun m hm hm' =>
        h.eq_of_token_eq (mem_live.mp hm).1 hn (hm'.trans htoken.symm)
      constructor
      · intro hok
        cases hexpired : n.isExpiredAt now <;> cases hconsumed : n.consumed <;>
          simp [hexpired, hconsumed] at hok
        exact ⟨n, mem_live.mpr ⟨hn, Nonce.isExpiredAt_eq_false_iff.mp hexpired⟩, htoken, hconsumed⟩
      · rintro ⟨m, hm, hm', hconsumed⟩
        obtain rfl := honly m hm hm'
        simp [Nonce.isExpiredAt_eq_false_iff.mpr (mem_live.mp hm).2, hconsumed]

namespace Alike

variable {l l' : Ledger} {elapsed later : Span} {now : Instant}

theorem refl (h : l.Coherent elapsed) : l.Alike l elapsed :=
  ⟨h, h, rfl, rfl, fun _ _ => rfl, rfl⟩

theorem symm (h : l.Alike l' elapsed) : l'.Alike l elapsed :=
  ⟨h.right, h.left, h.lifetime_eq.symm, h.capacity_eq.symm,
    fun now hnow => (h.live_eq now hnow).symm, h.tally_eq.symm⟩

theorem trans {l'' : Ledger} (h : l.Alike l' elapsed) (h' : l'.Alike l'' elapsed) :
    l.Alike l'' elapsed :=
  ⟨h.left, h'.right, h.lifetime_eq.trans h'.lifetime_eq, h.capacity_eq.trans h'.capacity_eq,
    fun now hnow => (h.live_eq now hnow).trans (h'.live_eq now hnow), h.tally_eq.trans h'.tally_eq⟩

theorem mono (h : l.Alike l' elapsed) (hle : elapsed.nanos ≤ later.nanos) : l.Alike l' later :=
  ⟨h.left.mono hle, h.right.mono hle, h.lifetime_eq, h.capacity_eq,
    fun now hnow => h.live_eq now (Nat.le_trans hle hnow), h.tally_eq⟩

/-! ## Calls on one of two ledgers -/

theorem sweepAt (h : l.Alike l' elapsed) (hnow : now.nanos = elapsed.nanos) :
    (l.sweepAt now).2.Alike l' elapsed where
  left := h.left.sweepAt now
  right := h.right
  lifetime_eq := h.lifetime_eq
  capacity_eq := h.capacity_eq
  live_eq later hlater := by
    have hle : now ≤ later := Nat.le_trans (Nat.le_of_eq hnow) hlater
    exact (l.live_sweepAt hle).trans (h.live_eq later hlater)
  tally_eq := h.tally_eq

theorem makeRoom (h : l.Alike l' elapsed) (hnow : now.nanos = elapsed.nanos) :
    (l.makeRoom now).Alike l' elapsed := by
  unfold Ledger.makeRoom
  split
  · exact h.sweepAt hnow
  · exact h

theorem sweep {clock : Clock} (h : l.Alike l' clock.elapsed) :
    (l.sweep clock.read).2.Alike l' clock.elapsed := by
  cases hread : clock.read with
  | error e => exact h
  | ok now => exact h.sweepAt (Clock.read_eq_ok_iff.mp hread)

/-! ## One call on both -/

theorem count (h : l.Alike l' elapsed) (f : NonceTally → NonceTally)
    (hf : ∀ t : NonceTally, (f t).exceptEvicted = (f t.exceptEvicted).exceptEvicted) :
    { l with tally := f l.tally }.Alike { l' with tally := f l'.tally } elapsed where
  left := h.left.withTally _
  right := h.right.withTally _
  lifetime_eq := h.lifetime_eq
  capacity_eq := h.capacity_eq
  live_eq := h.live_eq
  tally_eq := by
    change (f l.tally).exceptEvicted = (f l'.tally).exceptEvicted
    rw [hf, hf l'.tally, h.tally_eq]

theorem markConsumed (h : l.Alike l' elapsed) (token : String) :
    (l.markConsumed token).Alike (l'.markConsumed token) elapsed where
  left := h.left.markConsumed token
  right := h.right.markConsumed token
  lifetime_eq := h.lifetime_eq
  capacity_eq := h.capacity_eq
  live_eq now hnow := by rw [live_markConsumed, live_markConsumed, h.live_eq now hnow]
  tally_eq := h.tally_eq

theorem evict (h : l.Alike l' elapsed) (hnow : now.nanos = elapsed.nanos) (token : String) :
    (l.evict now token).Alike l' elapsed where
  left := h.left.evict now token
  right := h.right
  lifetime_eq := h.lifetime_eq
  capacity_eq := h.capacity_eq
  live_eq later hlater := by
    have hle : now ≤ later := Nat.le_trans (Nat.le_of_eq hnow) hlater
    exact (l.live_evict token hle).trans (h.live_eq later hlater)
  tally_eq := h.tally_eq

theorem insert {n : Nonce} (h : l.Alike l' elapsed) (hroom : l.isFull = false)
    (hroom' : l'.isFull = false) (hissued : n.issuedAt.nanos = elapsed.nanos)
    (hexpires : n.expiresAt.nanos = n.issuedAt.nanos + l.lifetime.nanos) :
    (l.insert n).Alike (l'.insert n) elapsed where
  left := h.left.insert hroom hissued hexpires
  right := h.right.insert hroom' hissued (h.lifetime_eq ▸ hexpires)
  lifetime_eq := h.lifetime_eq
  capacity_eq := h.capacity_eq
  live_eq now hnow := by rw [live_insert, live_insert, h.live_eq now hnow]
  tally_eq := (h.count (fun t => { t with issued := t.issued + 1 }) fun _ => rfl).tally_eq

/-- Where both are full or neither is, an attempt to issue is answered alike. -/
theorem grant (h : l.Alike l' elapsed) (hnow : now.nanos = elapsed.nanos)
    (hfull : l.isFull = l'.isFull) (token : String) :
    (l.grant now token).1 = (l'.grant now token).1 ∧
      (l.grant now token).2.Alike (l'.grant now token).2 elapsed := by
  unfold Ledger.grant
  rw [← hfull, ← h.lifetime_eq, ← h.capacity_eq]
  cases hl : l.isFull with
  | true =>
      exact ⟨rfl, h.count (fun t => { t with refused := t.refused + 1 }) fun _ => rfl⟩
  | false =>
      simp only [Bool.false_eq_true, if_false]
      cases hafter : now.after? l.lifetime with
      | none => exact ⟨rfl, h⟩
      | some expiry =>
          exact ⟨rfl, h.insert hl (hfull ▸ hl) hnow (Instant.after?_eq_some_iff.mp hafter)⟩

theorem issue {clock : Clock} (h : l.Alike l' clock.elapsed) (token : String) :
    (l.issue clock.read token).1 = (l'.issue clock.read token).1 ∧
      (l.issue clock.read token).2.Alike (l'.issue clock.read token).2 clock.elapsed := by
  cases hread : clock.read with
  | error e => exact ⟨rfl, h⟩
  | ok now =>
      have hnow := Clock.read_eq_ok_iff.mp hread
      -- One of the two may sweep here and the other not: only what is live decides.
      have hroomy := (h.makeRoom hnow).symm.makeRoom hnow |>.symm
      refine hroomy.grant hnow ?_ token
      rw [Bool.eq_iff_iff, h.left.isFull_makeRoom_iff, h.right.isFull_makeRoom_iff,
        h.capacity_eq, h.live_eq now (Nat.le_of_eq hnow.symm)]

theorem judge_eq_ok_iff (h : l.Alike l' elapsed) (hnow : now.nanos = elapsed.nanos)
    (token : String) : l.judge now token = .ok () ↔ l'.judge now token = .ok () := by
  rw [h.left.judge_eq_ok_iff, h.right.judge_eq_ok_iff, h.live_eq now (Nat.le_of_eq hnow.symm)]

/-- Of a rejection only the count remains, whatever its reason. -/
theorem consumeAt_rejected (h : l.Coherent elapsed) (hnow : now.nanos = elapsed.nanos)
    {token : String} (hrejected : l.judge now token ≠ .ok ()) :
    (l.consumeAt now token).2.Alike l.countRejected elapsed := by
  have hcounted : l.countRejected.Alike l.countRejected elapsed := refl (h.withTally _)
  rw [consumeAt_eq]
  split
  next hok => exact absurd hok hrejected
  next => exact hcounted.evict hnow token
  next => exact hcounted

theorem consumeAt (h : l.Alike l' elapsed) (hnow : now.nanos = elapsed.nanos) (token : String) :
    ((l.consumeAt now token).1 = .ok () ↔ (l'.consumeAt now token).1 = .ok ()) ∧
      (l.consumeAt now token).2.Alike (l'.consumeAt now token).2 elapsed := by
  refine ⟨by simpa only [consumeAt_eq] using h.judge_eq_ok_iff hnow token, ?_⟩
  by_cases hok : l.judge now token = .ok ()
  · have hok' := (h.judge_eq_ok_iff hnow token).mp hok
    simp only [consumeAt_eq, hok, hok']
    exact (h.markConsumed token).count (fun t => { t with consumed := t.consumed + 1 }) fun _ => rfl
  · have hok' := (h.judge_eq_ok_iff hnow token).not.mp hok
    have hcounted : l.countRejected.Alike l'.countRejected elapsed :=
      h.count (fun t => { t with rejected := t.rejected + 1 }) fun _ => rfl
    -- The reasons may differ, so each side is compared with no more than the count.
    have hleft := consumeAt_rejected h.left hnow hok
    have hright := consumeAt_rejected h.right hnow hok'
    exact hleft.trans (hcounted.trans hright.symm)

theorem consume {clock : Clock} (h : l.Alike l' clock.elapsed) (token : String) :
    ((l.consume clock.read token).1 = .ok (.ok ()) ↔
        (l'.consume clock.read token).1 = .ok (.ok ())) ∧
      (l.consume clock.read token).2.Alike (l'.consume clock.read token).2 clock.elapsed := by
  cases hread : clock.read with
  | error e => exact ⟨Iff.rfl, h⟩
  | ok now =>
      obtain ⟨haccepted, halike⟩ := h.consumeAt (Clock.read_eq_ok_iff.mp hread) token
      exact ⟨by simpa [Ledger.consume] using haccepted, halike⟩

end Alike

end Ledger

end Enrollment
