import Enrollment.Proofs.Ledger.Coherence

/-!
# The counts of a ledger

Every nonce that was issued is tracked or was evicted, and one that was consumed is no longer
unspent. So the counts of a ledger add up for as long as none of them wraps, provided that no token
is issued while a nonce with it is tracked, since the new nonce would take the place of the old one.
-/

namespace Enrollment

/-- A word that is not below what was added to it has not wrapped. -/
theorem toNat_add_of_le {x y : UInt64} (hle : x ≤ x + y) : (x + y).toNat = x.toNat + y.toNat := by
  have hx := x.toNat_lt
  have hy := y.toNat_lt
  rw [UInt64.le_iff_toNat_le, UInt64.toNat_add] at hle
  rw [UInt64.toNat_add]
  omega

theorem toNat_succ_of_le {x : UInt64} (hle : x ≤ x + 1) : (x + 1).toNat = x.toNat + 1 :=
  toNat_add_of_le hle

/-- No count is lower in the second tally. Counts are only added to, so that none has wrapped. -/
def NonceTally.GrewTo (t t' : NonceTally) : Prop :=
  t.issued ≤ t'.issued ∧ t.consumed ≤ t'.consumed ∧ t.rejected ≤ t'.rejected ∧
    t.evicted ≤ t'.evicted ∧ t.refused ≤ t'.refused

instance (t t' : NonceTally) : Decidable (t.GrewTo t') :=
  inferInstanceAs (Decidable (_ ∧ _))

namespace Ledger

/-- How many of the tracked nonces are not consumed. -/
def unspent (l : Ledger) : Nat :=
  l.entries.countP (!·.consumed)

/-- Issued nonces are tracked or evicted, and those that are unspent were not consumed. -/
structure Balanced (l : Ledger) : Prop where
  issued_eq : l.tally.issued.toNat = l.size + l.tally.evicted.toNat
  consumed_add_le : l.tally.consumed.toNat + l.unspent ≤ l.tally.issued.toNat

variable {l l' : Ledger} {now : Instant} {token : String} {reading : Reading}

/-! ## Nonces that leave -/

namespace Balanced

/-- Nonces leave by a rule, and each is counted as evicted. -/
theorem of_removal (h : l.Balanced) (keep : Nonce → Bool)
    (hentries : l'.entries = l.entries.filter keep)
    (htally : l'.tally = { l.tally with
      evicted := l.tally.evicted +
        (l.entries.length - (l.entries.filter keep).length).toUInt64 })
    (hgrew : l.tally.evicted ≤ l'.tally.evicted) : l'.Balanced := by
  have hkept : (l.entries.filter keep).length ≤ l.entries.length := List.length_filter_le _ _
  have hissued := h.issued_eq
  have hword := l.tally.issued.toNat_lt
  simp only [size] at hissued
  -- No more leave than were issued, so that their number fits in a word.
  have hremoved : (l.entries.length - (l.entries.filter keep).length).toUInt64.toNat =
      l.entries.length - (l.entries.filter keep).length := by
    rw [Nat.toUInt64_eq, UInt64.toNat_ofNat']
    omega
  rw [htally] at hgrew
  have hevicted := toNat_add_of_le hgrew
  constructor
  · simp only [size, hentries, htally, hevicted, hremoved]
    omega
  · have hunspent : l'.unspent ≤ l.unspent := by
      unfold unspent
      rw [hentries]
      exact List.filter_sublist.countP_le
    have hconsumed := h.consumed_add_le
    simp only [htally]
    omega

theorem sweepAt (h : l.Balanced) (hgrew : l.tally.evicted ≤ (l.sweepAt now).2.tally.evicted) :
    (l.sweepAt now).2.Balanced :=
  h.of_removal (fun n => !n.isExpiredAt now) rfl rfl hgrew

theorem makeRoom (h : l.Balanced) (hgrew : l.tally.evicted ≤ (l.makeRoom now).tally.evicted) :
    (l.makeRoom now).Balanced := by
  unfold Ledger.makeRoom at hgrew ⊢
  split
  next hdue =>
    rw [if_pos hdue] at hgrew
    exact h.sweepAt hgrew
  next => exact h

theorem sweep (h : l.Balanced) (hgrew : l.tally.GrewTo (l.sweep reading).2.tally) :
    (l.sweep reading).2.Balanced := by
  cases reading with
  | error e => exact h
  | ok now => exact h.sweepAt hgrew.2.2.2.1

end Balanced

/-! ## Nonces that come -/

theorem filter_token_ne (hfree : ∀ n ∈ l.entries, n.token ≠ token) :
    l.entries.filter (·.token != token) = l.entries := by
  apply List.filter_eq_self.mpr
  intro n hn
  simpa using hfree n hn

theorem token_ne_of_find?_eq_none (hfree : l.find? token = none) :
    ∀ n ∈ l.entries, n.token ≠ token := by
  intro n hn
  simpa using List.find?_eq_none.mp hfree n hn

theorem entries_makeRoom_subset (l : Ledger) (now : Instant) :
    ∀ n ∈ (l.makeRoom now).entries, n ∈ l.entries := by
  intro n hn
  unfold makeRoom at hn
  split at hn
  · exact (List.mem_filter.mp hn).1
  · exact hn

theorem Balanced.insert (h : l.Balanced) {n : Nonce} (hfree : ∀ m ∈ l.entries, m.token ≠ n.token)
    (hgrew : l.tally.issued ≤ (l.insert n).tally.issued) : (l.insert n).Balanced := by
  have hissued := toNat_succ_of_le hgrew
  have hbefore := h.issued_eq
  have hconsumed := h.consumed_add_le
  simp only [size, unspent] at hbefore hconsumed
  constructor
  · simp only [Ledger.insert, size, hissued, filter_token_ne hfree, List.length_cons]
    omega
  · simp only [Ledger.insert, unspent, hissued, filter_token_ne hfree, List.countP_cons]
    split <;> omega

/-- An attempt to issue without making room ends in a refusal, an expiry that is out of range, or a
new nonce. -/
theorem grant_cases (l : Ledger) (now : Instant) (token : String) :
    l.grant now token = (.ok (.error ⟨l.capacity⟩), l.countRefusal) ∨
      l.grant now token = (.error .moment, l) ∨
      ∃ expiry, l.grant now token = (.ok (.ok token), l.insert ⟨token, now, expiry, false⟩) := by
  unfold grant
  split
  · exact Or.inl rfl
  · split
    · exact Or.inr (Or.inl rfl)
    next expiry _ => exact Or.inr (Or.inr ⟨expiry, rfl⟩)

theorem tally_makeRoom (l : Ledger) (now : Instant) :
    (l.makeRoom now).tally = { l.tally with evicted := (l.makeRoom now).tally.evicted } := by
  unfold makeRoom
  split <;> rfl

/-- The counts that an attempt to issue adds to. -/
theorem tally_issue (l : Ledger) (reading : Reading) (token : String) :
    (l.issue reading token).2.tally =
      { l.tally with
        evicted := (l.issue reading token).2.tally.evicted
        issued := match (l.issue reading token).1 with
          | .ok (.ok _) => l.tally.issued + 1
          | _ => l.tally.issued
        refused := match (l.issue reading token).1 with
          | .ok (.error _) => l.tally.refused + 1
          | _ => l.tally.refused } := by
  cases reading with
  | error e => rfl
  | ok now =>
      have hroom := tally_makeRoom l now
      simp only [issue]
      rcases grant_cases (l.makeRoom now) now token with hgrant | hgrant | ⟨expiry, hgrant⟩
      · rw [hgrant]
        simp only [countRefusal]
        rw [hroom]
      · rw [hgrant]
        exact hroom
      · rw [hgrant]
        simp only [insert]
        rw [hroom]

theorem Balanced.issue (h : l.Balanced)
    (hfree : (l.issue reading token).1 = .ok (.ok token) → l.find? token = none)
    (hgrew : l.tally.GrewTo (l.issue reading token).2.tally) :
    (l.issue reading token).2.Balanced := by
  cases reading with
  | error e => exact h
  | ok now =>
      obtain ⟨hissued, -, -, hevicted, -⟩ := hgrew
      have hroom := congrArg NonceTally.issued (tally_makeRoom l now)
      simp only [Ledger.issue] at hfree hissued hevicted ⊢
      rcases grant_cases (l.makeRoom now) now token with hgrant | hgrant | ⟨expiry, hgrant⟩
      · rw [hgrant] at hevicted ⊢
        have hroomy := h.makeRoom hevicted
        exact ⟨hroomy.issued_eq, hroomy.consumed_add_le⟩
      · rw [hgrant] at hevicted ⊢
        exact h.makeRoom hevicted
      · rw [hgrant] at hfree hissued hevicted ⊢
        have hnone := token_ne_of_find?_eq_none (hfree rfl)
        refine (h.makeRoom hevicted).insert ?_ (hroom ▸ hissued)
        intro m hm
        exact hnone m (entries_makeRoom_subset l now m hm)

/-! ## Nonces that are presented -/

/-- The counts that a presented token adds to. -/
theorem tally_consumeAt (l : Ledger) (now : Instant) (token : String) :
    (l.consumeAt now token).2.tally =
      { l.tally with
        evicted := (l.consumeAt now token).2.tally.evicted
        consumed := match l.judge now token with
          | .ok () => l.tally.consumed + 1
          | .error _ => l.tally.consumed
        rejected := match l.judge now token with
          | .ok () => l.tally.rejected
          | .error _ => l.tally.rejected + 1 } := by
  rw [consumeAt_eq]
  rcases l.judge now token with (_ | _ | _) | _ <;> rfl

/-- A presented token is counted once, as consumed or as rejected. -/
theorem presented_eq (hgrew : l.tally.GrewTo (l.consumeAt now token).2.tally) :
    (l.consumeAt now token).2.tally.consumed.toNat +
        (l.consumeAt now token).2.tally.rejected.toNat =
      l.tally.consumed.toNat + l.tally.rejected.toNat + 1 := by
  obtain ⟨-, hconsumed, hrejected, -⟩ := hgrew
  rw [tally_consumeAt] at hconsumed hrejected ⊢
  cases hjudge : l.judge now token with
  | ok _ =>
      simp only [hjudge] at hconsumed ⊢
      rw [toNat_succ_of_le hconsumed]
      omega
  | error e =>
      simp only [hjudge] at hrejected ⊢
      rw [toNat_succ_of_le hrejected]
      omega

/-- A token that may be used belongs to a nonce that is not consumed. -/
theorem exists_of_judge_eq_ok (hjudge : l.judge now token = .ok ()) :
    ∃ n, l.find? token = some n ∧ n.isExpiredAt now = false ∧ n.consumed = false := by
  unfold judge at hjudge
  split at hjudge
  next => cases hjudge
  next n hfind =>
    refine ⟨n, hfind, ?_⟩
    cases hexpired : n.isExpiredAt now <;> cases hconsumed : n.consumed <;>
      simp_all

theorem unspent_markConsumed (l : Ledger) (token : String) :
    (l.markConsumed token).unspent =
      (l.entries.filter (·.token != token)).countP (!·.consumed) := by
  unfold unspent markConsumed
  rw [List.countP_map, List.countP_filter]
  apply List.countP_congr
  intro n _
  by_cases htoken : n.token = token <;> simp [Nonce.mark, htoken]

/-- Marking a nonce that is not consumed leaves fewer that are not. -/
theorem unspent_markConsumed_lt {n : Nonce} (hfind : l.find? token = some n)
    (hconsumed : n.consumed = false) : (l.markConsumed token).unspent < l.unspent := by
  have hsplit := List.countP_eq_countP_filter_add l.entries (!·.consumed) (·.token != token)
  -- The nonce itself is among those with its token that were not consumed.
  have hpos : 0 < (l.entries.filter (fun m => !(m.token != token))).countP (!·.consumed) := by
    have hmem := List.mem_of_find?_eq_some hfind
    have htoken := List.find?_some hfind
    refine List.countP_pos_iff.mpr ⟨n, List.mem_filter.mpr ⟨hmem, ?_⟩, by simp [hconsumed]⟩
    simpa using htoken
  rw [unspent_markConsumed]
  unfold unspent
  omega

theorem Balanced.consumeAt (h : l.Balanced)
    (hgrew : l.tally.GrewTo (l.consumeAt now token).2.tally) :
    (l.consumeAt now token).2.Balanced := by
  obtain ⟨-, hconsumed, -, hevicted, -⟩ := hgrew
  rw [consumeAt_eq] at hconsumed hevicted ⊢
  cases hjudge : l.judge now token with
  | ok _ =>
      simp only [hjudge] at hconsumed ⊢
      obtain ⟨n, hfind, -, hunconsumed⟩ := exists_of_judge_eq_ok hjudge
      have hfewer := unspent_markConsumed_lt hfind hunconsumed
      have hbefore := h.consumed_add_le
      constructor
      · have hissued := h.issued_eq
        simpa [countConsumed, markConsumed, size] using hissued
      · change (l.tally.consumed + 1).toNat + (l.markConsumed token).unspent ≤
          l.tally.issued.toNat
        rw [toNat_succ_of_le hconsumed]
        omega
  | error e =>
      simp only [hjudge] at hevicted ⊢
      cases e with
      | expired =>
          have hevict : (l.evict now token).Balanced :=
            h.of_removal (fun n => !(n.token == token && n.isExpiredAt now)) rfl rfl hevicted
          exact ⟨hevict.issued_eq, hevict.consumed_add_le⟩
      | notFound => exact ⟨h.issued_eq, h.consumed_add_le⟩
      | alreadyUsed => exact ⟨h.issued_eq, h.consumed_add_le⟩

end Ledger

end Enrollment
