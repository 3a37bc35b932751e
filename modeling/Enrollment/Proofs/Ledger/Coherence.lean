import Enrollment.Nonce.Session
import Enrollment.Proofs.Events
import Mathlib.Data.List.Nodup

/-!
# Coherence of a ledger

Every ledger that came about by issuing, consuming and sweeping holds nonces of different tokens,
no more of them than its capacity, each with the one lifetime of the ledger. The expiry noted by
the last sweep is a lower bound for the expiry of every nonce: those that were left are no earlier,
and those issued since end later, since the noted expiry lies within one lifetime of the sweep.
-/

namespace Enrollment.Ledger

/-- What a ledger keeps to for as long as it is used, `elapsed` on its clock. -/
structure Coherent (l : Ledger) (elapsed : Span) : Prop where
  tokens_nodup : (l.entries.map (·.token)).Nodup
  capacity_pos : 0 < l.capacity
  size_le : l.size ≤ l.capacity
  issuedAt_le : ∀ n ∈ l.entries, n.issuedAt.nanos ≤ elapsed.nanos
  expiresAt_eq : ∀ n ∈ l.entries, n.expiresAt.nanos = n.issuedAt.nanos + l.lifetime.nanos
  nextExpiry_near : ∀ expiry, l.nextExpiry = some expiry →
    expiry.nanos ≤ elapsed.nanos + l.lifetime.nanos
  nextExpiry_le : ∀ expiry, l.nextExpiry = some expiry → ∀ n ∈ l.entries, expiry ≤ n.expiresAt

/-! ## The earliest expiry -/

theorem earliestExpiry_eq_none_iff {ns : List Nonce} : earliestExpiry ns = none ↔ ns = [] := by
  cases ns with
  | nil => simp [earliestExpiry]
  | cons n ns => cases h : earliestExpiry ns <;> simp [earliestExpiry, h]

theorem earliestExpiry_le {ns : List Nonce} {expiry : Instant}
    (hearliest : earliestExpiry ns = some expiry) : ∀ n ∈ ns, expiry ≤ n.expiresAt := by
  induction ns generalizing expiry with
  | nil => simp
  | cons n ns ih =>
      intro m hm
      cases htail : earliestExpiry ns with
      | none =>
          simp only [earliestExpiry, htail, Option.some.injEq] at hearliest
          obtain rfl := earliestExpiry_eq_none_iff.mp htail
          simp only [List.mem_singleton] at hm
          rw [hm, hearliest]
          exact Instant.le_refl expiry
      | some rest =>
          simp only [earliestExpiry, htail, Option.some.injEq] at hearliest
          subst hearliest
          rcases List.mem_cons.mp hm with rfl | hm
          · exact Instant.earlier_le_left _ _
          · exact Instant.le_trans (Instant.earlier_le_right _ _) (ih htail m hm)

theorem exists_of_earliestExpiry {ns : List Nonce} {expiry : Instant}
    (hearliest : earliestExpiry ns = some expiry) : ∃ n ∈ ns, n.expiresAt = expiry := by
  induction ns generalizing expiry with
  | nil => simp [earliestExpiry] at hearliest
  | cons n ns ih =>
      cases htail : earliestExpiry ns with
      | none =>
          simp only [earliestExpiry, htail, Option.some.injEq] at hearliest
          exact ⟨n, List.mem_cons_self, hearliest⟩
      | some rest =>
          simp only [earliestExpiry, htail, Option.some.injEq] at hearliest
          rcases Instant.earlier_eq_or n.expiresAt rest with heq | heq
          · exact ⟨n, List.mem_cons_self, heq.symm.trans hearliest⟩
          · obtain ⟨m, hm, hexpiry⟩ := ih htail
            exact ⟨m, List.mem_cons_of_mem n hm, hexpiry.trans (heq.symm.trans hearliest)⟩

/-- Where tokens are different, a nonce is found by its own. -/
theorem find?_of_mem {l : Ledger} {n : Nonce} (hdistinct : (l.entries.map (·.token)).Nodup)
    (hn : n ∈ l.entries) : l.find? n.token = some n := by
  cases hfind : l.find? n.token with
  | none =>
      have hnone := List.find?_eq_none.mp hfind n hn
      simp at hnone
  | some m =>
      have htoken : m.token = n.token := by simpa using List.find?_some hfind
      rw [List.inj_on_of_nodup_map hdistinct (List.mem_of_find?_eq_some hfind) hn htoken]

/-- What is fixed when a ledger is made. -/
def settings (l : Ledger) : Span × Nat :=
  (l.lifetime, l.capacity)

@[simp] theorem settings_makeRoom (l : Ledger) (now : Instant) :
    (l.makeRoom now).settings = l.settings := by
  unfold makeRoom; split <;> rfl

@[simp] theorem settings_grant (l : Ledger) (now : Instant) (token : String) :
    (l.grant now token).2.settings = l.settings := by
  unfold grant
  split
  · rfl
  · split <;> rfl

@[simp] theorem settings_issue (l : Ledger) (reading : Reading) (token : String) :
    (l.issue reading token).2.settings = l.settings := by
  cases reading <;> simp [issue]

@[simp] theorem settings_consume (l : Ledger) (reading : Reading) (token : String) :
    (l.consume reading token).2.settings = l.settings := by
  cases reading with
  | error e => rfl
  | ok now =>
      simp only [consume, consumeAt_eq]
      split <;> rfl

@[simp] theorem settings_sweep (l : Ledger) (reading : Reading) :
    (l.sweep reading).2.settings = l.settings := by
  cases reading <;> rfl

namespace Coherent

variable {l l' : Ledger} {elapsed later : Span} {now : Instant}

theorem eq_of_token_eq (h : l.Coherent elapsed) {n m : Nonce} (hn : n ∈ l.entries)
    (hm : m ∈ l.entries) (htoken : n.token = m.token) : n = m :=
  List.inj_on_of_nodup_map h.tokens_nodup hn hm htoken

theorem find?_eq_some_iff (h : l.Coherent elapsed) {token : String} {n : Nonce} :
    l.find? token = some n ↔ n ∈ l.entries ∧ n.token = token := by
  constructor
  · intro hfind
    exact ⟨List.mem_of_find?_eq_some hfind, by simpa using List.find?_some hfind⟩
  · rintro ⟨hn, rfl⟩
    exact find?_of_mem h.tokens_nodup hn

/-! ## Preservation by each operation -/

theorem mono (h : l.Coherent elapsed) (hle : elapsed.nanos ≤ later.nanos) : l.Coherent later where
  tokens_nodup := h.tokens_nodup
  capacity_pos := h.capacity_pos
  size_le := h.size_le
  issuedAt_le n hn := Nat.le_trans (h.issuedAt_le n hn) hle
  expiresAt_eq := h.expiresAt_eq
  nextExpiry_near expiry hexpiry := by
    have := h.nextExpiry_near expiry hexpiry
    omega
  nextExpiry_le := h.nextExpiry_le

/-- Nonces may leave. The noted expiry may stay, or be taken anew of those that are left. -/
theorem of_sublist (h : l.Coherent elapsed) (hentries : l'.entries.Sublist l.entries)
    (hcapacity : l'.capacity = l.capacity) (hlifetime : l'.lifetime = l.lifetime)
    (hnext : l'.nextExpiry = l.nextExpiry ∨ l'.nextExpiry = earliestExpiry l'.entries) :
    l'.Coherent elapsed where
  tokens_nodup := h.tokens_nodup.sublist (hentries.map _)
  capacity_pos := hcapacity ▸ h.capacity_pos
  size_le := hcapacity ▸ Nat.le_trans hentries.length_le h.size_le
  issuedAt_le n hn := h.issuedAt_le n (hentries.subset hn)
  expiresAt_eq n hn := hlifetime ▸ h.expiresAt_eq n (hentries.subset hn)
  nextExpiry_near expiry hexpiry := by
    rw [hlifetime]
    rcases hnext with hnext | hnext
    · exact h.nextExpiry_near expiry (hnext ▸ hexpiry)
    · -- A new note is the expiry of a nonce that was issued by now.
      obtain ⟨n, hn, rfl⟩ := exists_of_earliestExpiry (hnext ▸ hexpiry)
      have hissued := h.issuedAt_le n (hentries.subset hn)
      have hexpires := h.expiresAt_eq n (hentries.subset hn)
      omega
  nextExpiry_le expiry hexpiry := by
    rcases hnext with hnext | hnext
    · exact fun n hn => h.nextExpiry_le expiry (hnext ▸ hexpiry) n (hentries.subset hn)
    · exact earliestExpiry_le (hnext ▸ hexpiry)

theorem sweepAt (h : l.Coherent elapsed) (now : Instant) : (l.sweepAt now).2.Coherent elapsed :=
  h.of_sublist List.filter_sublist rfl rfl (Or.inr rfl)

theorem makeRoom (h : l.Coherent elapsed) (now : Instant) : (l.makeRoom now).Coherent elapsed := by
  unfold Ledger.makeRoom
  split
  · exact h.sweepAt now
  · exact h

theorem evict (h : l.Coherent elapsed) (now : Instant) (token : String) :
    (l.evict now token).Coherent elapsed :=
  h.of_sublist List.filter_sublist rfl rfl (Or.inl rfl)

theorem withTally (h : l.Coherent elapsed) (tally : NonceTally) :
    { l with tally }.Coherent elapsed :=
  h.of_sublist (List.Sublist.refl _) rfl rfl (Or.inl rfl)

theorem markConsumed (h : l.Coherent elapsed) (token : String) :
    (l.markConsumed token).Coherent elapsed where
  tokens_nodup := by
    have htokens : (l.markConsumed token).entries.map (·.token) = l.entries.map (·.token) := by
      simp [Ledger.markConsumed, Function.comp_def]
    rw [htokens]
    exact h.tokens_nodup
  capacity_pos := h.capacity_pos
  size_le := by
    have hsize : (l.markConsumed token).size = l.size := by
      simp [Ledger.markConsumed, size]
    rw [hsize]
    exact h.size_le
  issuedAt_le n hn := by
    obtain ⟨m, hm, rfl⟩ := List.mem_map.mp hn
    rw [Nonce.mark_issuedAt]
    exact h.issuedAt_le m hm
  expiresAt_eq n hn := by
    obtain ⟨m, hm, rfl⟩ := List.mem_map.mp hn
    rw [Nonce.mark_expiresAt, Nonce.mark_issuedAt]
    exact h.expiresAt_eq m hm
  nextExpiry_near := h.nextExpiry_near
  nextExpiry_le expiry hexpiry n hn := by
    obtain ⟨m, hm, rfl⟩ := List.mem_map.mp hn
    rw [Nonce.mark_expiresAt]
    exact h.nextExpiry_le expiry hexpiry m hm

/-- A nonce issued now, where there is room. The noted expiry is at most one lifetime ahead, and so
no later than the new one. -/
theorem insert {n : Nonce} (h : l.Coherent elapsed) (hroom : l.isFull = false)
    (hissued : n.issuedAt.nanos = elapsed.nanos)
    (hexpires : n.expiresAt.nanos = n.issuedAt.nanos + l.lifetime.nanos) :
    (l.insert n).Coherent elapsed where
  tokens_nodup := by
    have hothers : (l.entries.filter (·.token != n.token)).Sublist l.entries :=
      List.filter_sublist
    refine List.nodup_cons.mpr ⟨?_, h.tokens_nodup.sublist (hothers.map _)⟩
    simp
  capacity_pos := h.capacity_pos
  size_le := by
    have hothers : (l.entries.filter (·.token != n.token)).length ≤ l.entries.length :=
      List.length_filter_le _ _
    have hlt : l.entries.length < l.capacity := isFull_eq_false_iff.mp hroom
    simp only [size, Ledger.insert, List.length_cons]
    omega
  issuedAt_le m hm := by
    rcases List.mem_cons.mp hm with rfl | hm
    · exact Nat.le_of_eq hissued
    · exact h.issuedAt_le m (List.mem_filter.mp hm).1
  expiresAt_eq m hm := by
    rcases List.mem_cons.mp hm with rfl | hm
    · exact hexpires
    · exact h.expiresAt_eq m (List.mem_filter.mp hm).1
  nextExpiry_near := h.nextExpiry_near
  nextExpiry_le expiry hexpiry m hm := by
    rcases List.mem_cons.mp hm with rfl | hm
    · have hnear := h.nextExpiry_near expiry hexpiry
      rw [Instant.le_def, hexpires, hissued]
      exact hnear
    · exact h.nextExpiry_le expiry hexpiry m (List.mem_filter.mp hm).1

/-! ## Preservation by each call -/

variable {clock : Clock}

theorem sweep (h : l.Coherent clock.elapsed) :
    (l.sweep clock.read).2.Coherent clock.elapsed := by
  cases hread : clock.read with
  | error e => exact h
  | ok now => exact h.sweepAt now

theorem consume (h : l.Coherent clock.elapsed) (token : String) :
    (l.consume clock.read token).2.Coherent clock.elapsed := by
  cases hread : clock.read with
  | error e => exact h
  | ok now =>
      simp only [Ledger.consume, consumeAt_eq]
      split
      · exact (h.markConsumed token).withTally _
      · exact (h.evict now token).withTally _
      · exact h.withTally _

theorem grant (h : l.Coherent elapsed) (hnow : now.nanos = elapsed.nanos) (token : String) :
    (l.grant now token).2.Coherent elapsed := by
  unfold Ledger.grant
  split
  next => exact h.withTally _
  next hfull =>
    split
    next => exact h
    next expiry hafter =>
      exact h.insert (Bool.eq_false_iff.mpr hfull) hnow (Instant.after?_eq_some_iff.mp hafter)

theorem issue (h : l.Coherent clock.elapsed) (token : String) :
    (l.issue clock.read token).2.Coherent clock.elapsed := by
  cases hread : clock.read with
  | error e => exact h
  | ok now => exact (h.makeRoom now).grant (Clock.read_eq_ok_iff.mp hread) token

end Coherent

/-! ## Preservation by runs -/

theorem eq_of_create {lifetime : Span} {fresh : Ledger} (hfresh : create lifetime = .ok fresh) :
    fresh = ⟨lifetime, defaultCapacity, [], none, {}⟩ := by
  unfold create at hfresh
  split at hfresh
  next => cases hfresh
  next => exact (Except.ok.inj hfresh).symm

/-- An empty ledger is coherent at any time, whatever capacity it is given. -/
theorem coherent_of_create {lifetime : Span} {fresh : Ledger}
    (hfresh : create lifetime = .ok fresh) (capacity : Nat) (elapsed : Span) :
    (fresh.withCapacity capacity).Coherent elapsed := by
  obtain rfl := eq_of_create hfresh
  have hpositive : 0 < max capacity 1 := by omega
  constructor <;> simp [withCapacity, size, hpositive]

namespace Session

/-- The ledger is coherent at the time on its clock. -/
def Coherent (s : Session) : Prop :=
  s.ledger.Coherent s.clock.elapsed

theorem Coherent.step {s : Session} (h : s.Coherent) (action : Action) :
    (s.step action).2.Coherent := by
  cases action with
  | issue token => exact Ledger.Coherent.issue h token
  | consume token => exact Ledger.Coherent.consume h token
  | sweep => exact Ledger.Coherent.sweep h
  | advance span => exact Ledger.Coherent.mono h (s.clock.elapsed_le_advance span)

theorem elapsed_le_step (s : Session) (action : Action) :
    s.clock.elapsed.nanos ≤ (s.step action).2.clock.elapsed.nanos := by
  cases action with
  | advance span => exact s.clock.elapsed_le_advance span
  | _ => exact Nat.le_refl _

theorem elapsed_le_outcome (s : Session) (actions : List Action) :
    s.clock.elapsed.nanos ≤ (outcome step s actions).clock.elapsed.nanos :=
  outcome_induction (motive := fun s' => s.clock.elapsed.nanos ≤ s'.clock.elapsed.nanos)
    (fun s' action hs => Nat.le_trans hs (elapsed_le_step s' action)) (Nat.le_refl _) actions

/-- No event of a run is later than its outcome. -/
theorem elapsed_le_of_mem {s : Session} {actions : List Action}
    {e : Event Session Action (Except TimeOverflow Answer)} (he : e ∈ events step s actions) :
    e.before.clock.elapsed.nanos ≤ (outcome step s actions).clock.elapsed.nanos := by
  induction actions generalizing s with
  | nil => simp at he
  | cons action rest ih =>
      rcases List.mem_cons.mp he with rfl | he
      · exact elapsed_le_outcome s (action :: rest)
      · exact ih he

theorem settings_step (s : Session) (action : Action) :
    (s.step action).2.ledger.settings = s.ledger.settings := by
  cases action with
  | issue token => exact settings_issue _ _ _
  | consume token => exact settings_consume _ _ _
  | sweep => exact settings_sweep _ _
  | advance span => rfl

theorem settings_outcome (s : Session) (actions : List Action) :
    (outcome step s actions).ledger.settings = s.ledger.settings :=
  outcome_induction (motive := fun s' => s'.ledger.settings = s.ledger.settings)
    (fun s' action hs => (settings_step s' action).trans hs) rfl actions

theorem Coherent.outcome {s : Session} (h : s.Coherent) (actions : List Action) :
    (outcome Session.step s actions).Coherent :=
  outcome_induction (fun _ action hs => hs.step action) h actions

end Session

end Enrollment.Ledger
