import Enrollment.Proofs.Ledger.Coherence
import Enrollment.Proofs.Traffic.Sections

/-!
# What a sweep comes to

A sweep looks at every nonce once, in no particular order, and on its way removes what has expired,
counts what it removes and keeps the earliest expiry among the others. Whatever the order, it comes
to the same: exactly the expired nonces are gone, their number is counted, and the expiry noted is
the earliest that is left. Sweeping again at the same time finds nothing to do.
-/

namespace Enrollment

namespace Ledger

variable {l : Ledger} {ns ms : List Nonce} {now expiry : Instant}

/-- The earliest expiry is that of a nonce, and no nonce expires before it. -/
theorem earliestExpiry_eq_some_iff : earliestExpiry ns = some expiry ↔
    (∃ n ∈ ns, n.expiresAt = expiry) ∧ ∀ n ∈ ns, expiry ≤ n.expiresAt := by
  constructor
  · exact fun hearliest => ⟨exists_of_earliestExpiry hearliest, earliestExpiry_le hearliest⟩
  · rintro ⟨⟨n, hn, rfl⟩, hleast⟩
    cases hearliest : earliestExpiry ns with
    | none =>
        rw [earliestExpiry_eq_none_iff.mp hearliest] at hn
        cases hn
    | some first =>
        obtain ⟨m, hm, rfl⟩ := exists_of_earliestExpiry hearliest
        have hle := earliestExpiry_le hearliest n hn
        exact congrArg some (Instant.ext (Nat.le_antisymm hle (hleast m hm)))

theorem earliestExpiry_perm (hperm : ns.Perm ms) : earliestExpiry ns = earliestExpiry ms := by
  apply Option.ext
  intro expiry
  simp only [earliestExpiry_eq_some_iff, hperm.mem_iff]

end Ledger

namespace Sweep

variable {l left : Ledger} {w : Sweep} {now : Instant} {seen order : List Nonce} {n : Nonce}

/-- Where a sweep of a ledger stands once it has looked at some of the nonces: those of them that
had expired are gone, as many as have been counted, and the others have been noted. -/
structure HasSeen (l : Ledger) (now : Instant) (seen : List Nonce) (w : Sweep) (left : Ledger) :
    Prop where
  now_eq : w.now = now
  left_eq : left = { l with entries := left.entries }
  entries_eq : left.entries = l.entries.filter fun n => !(decide (n ∈ seen) && n.isExpiredAt now)
  removed_eq : w.removed + left.size = l.size
  earliest_eq : w.earliest = Ledger.earliestExpiry (seen.filter fun n => !n.isExpiredAt now)

theorem hasSeen_begin (l : Ledger) (now : Instant) : HasSeen l now [] (begin now) l where
  now_eq := rfl
  left_eq := rfl
  entries_eq := by simp
  removed_eq := Nat.zero_add _
  earliest_eq := rfl

theorem visit_of_expired (hfind : l.find? n.token = some n)
    (hexpired : n.isExpiredAt w.now = true) :
    w.visit l n.token =
      ({ w with removed := w.removed + (l.size - (l.discard w.now n.token).size) },
        l.discard w.now n.token) := by
  simp only [visit, hfind, hexpired, if_true]

theorem visit_of_live (hfind : l.find? n.token = some n) (hlive : n.isExpiredAt w.now = false) :
    w.visit l n.token =
      ({ w with earliest := some ((w.earliest.map n.expiresAt.earlier).getD n.expiresAt) }, l) := by
  simp only [visit, hfind, hlive, Bool.false_eq_true, if_false]
  cases w.earliest <;> rfl

/-- Looking at one nonce more. -/
theorem HasSeen.visit (h : HasSeen l now seen w left)
    (hdistinct : (l.entries.map (·.token)).Nodup) (hn : n ∈ l.entries) (hnew : n ∉ seen) :
    HasSeen l now (n :: seen) (w.visit left n.token).1 (w.visit left n.token).2 := by
  obtain ⟨rfl, hleft, hentries, hremoved, hearliest⟩ := h
  have hfind : left.find? n.token = some n := by
    have htokens : (left.entries.map (·.token)).Nodup := by
      rw [hentries]
      exact hdistinct.sublist (List.filter_sublist.map _)
    refine Ledger.find?_of_mem htokens ?_
    rw [hentries]
    exact List.mem_filter.mpr ⟨hn, by simp [hnew]⟩
  -- Among the nonces of the ledger, the token tells this one from the others.
  have htoken : ∀ m ∈ l.entries, m.token = n.token ↔ m = n := fun m hm =>
    ⟨List.inj_on_of_nodup_map hdistinct hm hn, congrArg Nonce.token⟩
  cases hexpired : n.isExpiredAt w.now with
  | true =>
      rw [visit_of_expired hfind hexpired]
      have hsize : (left.discard w.now n.token).size ≤ left.size := List.length_filter_le _ _
      constructor
      case now_eq => rfl
      case left_eq => exact congrArg (Ledger.discard · w.now n.token) hleft
      case entries_eq =>
        simp only [Ledger.discard, hentries, List.filter_filter]
        apply List.filter_congr
        intro m hm
        cases m.isExpiredAt w.now with
        | false => simp
        | true => simp [htoken m hm, Bool.beq_eq_decide_eq]
      case removed_eq =>
        simp only
        omega
      case earliest_eq =>
        rw [List.filter_cons_of_neg (by simp [hexpired])]
        exact hearliest
  | false =>
      rw [visit_of_live hfind hexpired]
      constructor
      case now_eq => rfl
      case left_eq => exact hleft
      case entries_eq =>
        rw [hentries]
        apply List.filter_congr
        intro m _
        by_cases heq : m = n
        · simp [heq, hexpired]
        · simp [heq]
      case removed_eq => exact hremoved
      case earliest_eq =>
        rw [List.filter_cons_of_pos (by simp [hexpired]), Ledger.earliestExpiry, ← hearliest]
        cases w.earliest <;> rfl

/-- Looking at nonces of the ledger one after another, at each once. -/
theorem hasSeen_visitAll (hdistinct : (l.entries.map (·.token)).Nodup)
    (horder : ∀ n ∈ order, n ∈ l.entries) (honce : order.Nodup) :
    HasSeen l now order (visitAll (begin now) l order).1 (visitAll (begin now) l order).2 := by
  induction order with
  | nil => exact hasSeen_begin l now
  | cons n order ih =>
      obtain ⟨hnew, honce⟩ := List.nodup_cons.mp honce
      obtain ⟨hn, horder⟩ := List.forall_mem_cons.mp horder
      exact (ih horder honce).visit hdistinct hn hnew

/-- A sweep that has looked at every nonce, in whatever order, comes to what a sweep of the ledger
comes to. -/
theorem HasSeen.sweepAt_eq (h : HasSeen l now order w left) (horder : order.Perm l.entries) :
    l.sweepAt now = (w.removed, w.finish left) := by
  obtain ⟨-, hleft, hentries, hremoved, hearliest⟩ := h
  have hkept : left.entries = l.entries.filter fun n => !n.isExpiredAt now := by
    rw [hentries]
    apply List.filter_congr
    intro n hn
    simp [horder.mem_iff.mpr hn]
  have hcount : w.removed = l.entries.length - left.entries.length := by
    simp only [Ledger.size] at hremoved
    omega
  have hnoted : w.earliest = Ledger.earliestExpiry left.entries := by
    rw [hearliest, hkept]
    exact Ledger.earliestExpiry_perm (horder.filter _)
  unfold Ledger.sweepAt finish
  rw [← hkept, hcount, hnoted, hleft]
  rfl

theorem sweep_eq_finish (hdistinct : (l.entries.map (·.token)).Nodup)
    (horder : order.Perm l.entries) (now : Instant) :
    let state := visitAll (begin now) l order
    l.sweep (.ok now) = (.ok state.1.removed, state.1.finish state.2) := by
  have honce : order.Nodup := horder.nodup_iff.mpr hdistinct.of_map
  have hseen : HasSeen l now order _ _ :=
    hasSeen_visitAll hdistinct (fun n hn => horder.mem_iff.mp hn) honce
  simp only [Ledger.sweep, hseen.sweepAt_eq horder]

/-! ## What is left -/

theorem removed_sweepAt (l : Ledger) (now : Instant) :
    (l.sweepAt now).1 = l.entries.countP (fun n => n.expiresAt ≤ now) := by
  have hsplit := List.length_eq_countP_add_countP (fun n : Nonce => decide (n.expiresAt ≤ now))
    (l := l.entries)
  simp only [decide_not, Bool.decide_eq_true] at hsplit
  simp only [Ledger.sweepAt, ← List.countP_eq_length_filter, Nonce.isExpiredAt]
  omega

/-- Whoever sweeps again at the same time finds nothing to do. -/
theorem sweepAt_again (l : Ledger) (now : Instant) :
    (l.sweepAt now).2.sweepAt now = (0, (l.sweepAt now).2) := by
  simp [Ledger.sweepAt]

/-- A sweep, in whatever order it looks at the nonces, keeps exactly those that have not expired and
keeps them as they are, counts the others, and notes the earliest expiry that is left, if any
nonce is. Whoever sweeps again at the same time removes nothing and changes nothing. -/
theorem sweep_exact (hdistinct : (l.entries.map (·.token)).Nodup) (horder : order.Perm l.entries)
    (now : Instant) :
    let state := visitAll (begin now) l order
    let removed := state.1.removed
    let swept := state.1.finish state.2
    l.sweep (.ok now) = (.ok removed, swept) ∧
    swept.entries = l.entries.filter (fun n => now < n.expiresAt) ∧
    removed = l.entries.countP (fun n => n.expiresAt ≤ now) ∧
    swept.tally = { l.tally with evicted := l.tally.evicted + removed.toUInt64 } ∧
    (swept.nextExpiry = none ↔ swept.entries = []) ∧
    (∀ expiry, swept.nextExpiry = some expiry ↔
      (∃ n ∈ swept.entries, n.expiresAt = expiry) ∧ ∀ n ∈ swept.entries, expiry ≤ n.expiresAt) ∧
    swept.lifetime = l.lifetime ∧ swept.capacity = l.capacity ∧
    swept.sweep (.ok now) = (.ok 0, swept) := by
  intro state removed swept
  have hsweep : l.sweep (.ok now) = (.ok removed, swept) := sweep_eq_finish hdistinct horder now
  have hremoved : (l.sweepAt now).1 = removed := Except.ok.inj (congrArg Prod.fst hsweep)
  have hswept : (l.sweepAt now).2 = swept := congrArg Prod.snd hsweep
  rw [← hremoved, ← hswept]
  refine ⟨rfl, ?kept, removed_sweepAt l now, rfl, Ledger.earliestExpiry_eq_none_iff,
    fun expiry => Ledger.earliestExpiry_eq_some_iff, rfl, rfl, ?again⟩
  case kept =>
    apply List.filter_congr
    intro n _
    rw [Bool.eq_iff_iff]
    simp [Nonce.isExpiredAt]
  case again =>
    simp only [Ledger.sweep, sweepAt_again]

/-- Two of three nonces have expired, one of them consumed; they are looked at in another order than
the one they are kept in. -/
theorem two_expired_swept :
    let moment (seconds : Fin 100) : Instant := ⟨seconds * nanosPerSecond, by
      simp only [signedSize, nanosPerSecond]; omega⟩
    let first : Nonce := ⟨"first", moment 0, moment 60, true⟩
    let second : Nonce := ⟨"second", moment 1, moment 61, false⟩
    let third : Nonce := ⟨"third", moment 2, moment 62, true⟩
    let l : Ledger :=
      ⟨.ofSeconds 60, 3, [third, second, first], none, { issued := 3, consumed := 2 }⟩
    let order := [first, third, second]
    let state := visitAll (begin (moment 61)) l order
    let swept := state.1.finish state.2
    (l.entries.map (·.token)).Nodup ∧ order.Perm l.entries ∧
      l.sweep (.ok (moment 61)) = (.ok 2, swept) ∧ swept.entries = [third] ∧
      swept.nextExpiry = some (moment 62) := by
  intro moment first second third l order state swept
  have hdistinct : (l.entries.map (·.token)).Nodup := by decide
  have horder : order.Perm l.entries := by decide
  obtain ⟨hsweep, hentries, hremoved, -, -, hnext, -⟩ := sweep_exact hdistinct horder (moment 61)
  have hkept : l.entries.filter (fun n => moment 61 < n.expiresAt) = [third] := by decide
  have hcount : l.entries.countP (fun n => n.expiresAt ≤ moment 61) = 2 := by decide
  have hleft : swept.entries = [third] := hentries.trans hkept
  have hleast : (∃ n ∈ swept.entries, n.expiresAt = moment 62) ∧
      ∀ n ∈ swept.entries, moment 62 ≤ n.expiresAt := by
    rw [hleft]
    simp [third, Instant.le_refl]
  exact ⟨hdistinct, horder, by rw [hsweep, hremoved, hcount], hleft, (hnext _).mpr hleast⟩

end Sweep

end Enrollment
