import Enrollment.Proofs.Traffic.Tokens
import Mathlib.Algebra.Ring.Nat
import Mathlib.Data.List.Perm.Basic

/-!
# Counting what is removed

Whoever removes a nonce counts it as evicted in a later section, and owes the count until then. So
every nonce that was removed is counted once or owed, and where nobody owes anything, the nonces
that were issued are those that are tracked and those that were evicted.
-/

namespace Enrollment

section Sums

variable {α : Type} {l : List α} {i : Nat} {a : α}

theorem sum_map_eraseIdx (ha : l[i]? = some a) (f : α → Nat) :
    ((l.eraseIdx i).map f).sum + f a = (l.map f).sum := by
  obtain ⟨hi, rfl⟩ := List.getElem?_eq_some_iff.mp ha
  have hsum := ((List.getElem_cons_eraseIdx_perm hi).map f).sum_nat
  rw [List.map_cons, List.sum_cons] at hsum
  omega

theorem sum_map_set (ha : l[i]? = some a) (b : α) (f : α → Nat) :
    ((l.set i b).map f).sum + f a = (l.map f).sum + f b := by
  obtain ⟨hi, -⟩ := List.getElem?_eq_some_iff.mp ha
  have hsum := ((List.set_perm_cons_eraseIdx hi b).map f).sum_nat
  rw [List.map_cons, List.sum_cons] at hsum
  have hrest := sum_map_eraseIdx ha f
  omega

end Sums

namespace Ledger

/-- The nonces that left between two states of a ledger were counted as evicted, unless the count is
owed. -/
def Settles (l l' : Ledger) (owed owed' : Nat) : Prop :=
  ∃ counted : Nat, l'.tally.evicted = l.tally.evicted + counted.toUInt64 ∧
    owed' + counted = owed + (l.size - l'.size)

variable {l l' : Ledger} {owed owed' : Nat}

/-- Where no nonce leaves and nothing is counted, what is owed stays. -/
theorem Settles.of_same (hsize : l.size ≤ l'.size) (hevicted : l'.tally.evicted = l.tally.evicted)
    (owed : Nat) : l.Settles l' owed owed := by
  refine ⟨0, hevicted.trans (UInt64.add_zero _).symm, ?_⟩
  omega

theorem Settles.discard (l : Ledger) (now : Instant) (token : String) (owed : Nat) :
    l.Settles (l.discard now token) owed (owed + (l.size - (l.discard now token).size)) :=
  ⟨0, (UInt64.add_zero _).symm, rfl⟩

theorem Settles.countEvicted (l : Ledger) (count owed : Nat) :
    l.Settles (l.countEvicted count) (owed + count) owed :=
  ⟨count, rfl, by simp [Ledger.countEvicted, size]⟩

/-- What others owe stays. -/
theorem Settles.frame (h : l.Settles l' owed owed') {total total' : Nat}
    (hothers : total' + owed = total + owed') : l.Settles l' total total' := by
  obtain ⟨counted, hevicted, howed⟩ := h
  exact ⟨counted, hevicted, by omega⟩

theorem size_insert {n : Nonce} (hfree : ∀ m ∈ l.entries, m.token ≠ n.token) :
    (l.insert n).size = l.size + 1 := by
  simp [insert, size, filter_token_ne hfree]

theorem size_checkAndMark (l : Ledger) (now : Instant) (token : String) :
    (l.checkAndMark now token).2.size = l.size := by
  unfold checkAndMark
  split
  · simp [markConsumed, size]
  · rfl

theorem tally_checkAndMark (l : Ledger) (now : Instant) (token : String) :
    (l.checkAndMark now token).2.tally = l.tally := by
  unfold checkAndMark
  split <;> rfl

end Ledger

namespace Registry

/-! ## What is owed -/

namespace Call

/-- How many nonces a call has removed without counting them yet. -/
def owed : Stage → Nat
  | .removed count => count
  | _ => 0

theorem ledger_begin (r : Registry) (reading : Reading) (attempt : Attempt)
    (drawn : Credentials) : (begin r reading attempt drawn).1.ledger = r.ledger := by
  unfold begin
  split <;> rfl

theorem owed_begin (r : Registry) (reading : Reading) (attempt : Attempt) (drawn : Credentials) :
    owed (begin r reading attempt drawn).2.stage = 0 := by
  unfold begin
  split <;> rfl

/-- A section of a call removes nonces and owes the count, or counts what it owes. -/
theorem settles_next (r : Registry) (c : Call) :
    r.ledger.Settles (c.next r).2.1.ledger (owed c.stage) (owed (c.next r).2.2) := by
  obtain ⟨attempt, drawn, stage⟩ := c
  cases stage with
  | presenting now =>
      have hafter : owed (afterJudgement now (r.ledger.checkAndMark now attempt.fields.nonce).1) =
          0 := by
        rcases (r.ledger.checkAndMark now attempt.fields.nonce).1 with (_ | _ | _) | _ <;> rfl
      simp only [next, token, hafter]
      exact .of_same (Nat.le_of_eq (r.ledger.size_checkAndMark now _).symm)
        (congrArg NonceTally.evicted (r.ledger.tally_checkAndMark now _)) 0
  | expired now =>
      have hdiscard := Ledger.Settles.discard r.ledger now attempt.fields.nonce 0
      rw [Nat.zero_add] at hdiscard
      exact hdiscard
  | removed count =>
      have hcount := Ledger.Settles.countEvicted r.ledger count 0
      rw [Nat.zero_add] at hcount
      exact hcount
  | accepted =>
      have hafter : owed (afterComparison (r.authority.authorize attempt)) = 0 := by
        cases r.authority.authorize attempt <;> rfl
      simp only [next, hafter]
      exact .of_same (Nat.le_refl _) rfl 0
  | creating =>
      simp only [next]
      cases r.outage <;> exact .of_same (Nat.le_refl _) rfl 0
  | made answer => cases answer <;> exact .of_same (Nat.le_refl _) rfl 0
  | _ => exact .of_same (Nat.le_refl _) rfl 0

theorem issued_next (r : Registry) (c : Call) :
    (c.next r).2.1.ledger.tally.issued = r.ledger.tally.issued := by
  obtain ⟨attempt, drawn, stage⟩ := c
  cases stage with
  | presenting now => exact congrArg NonceTally.issued (r.ledger.tally_checkAndMark now _)
  | creating =>
      simp only [next]
      cases r.outage <;> rfl
  | made answer => cases answer <;> rfl
  | _ => rfl

end Call

end Registry

namespace Sweep

theorem settles_visit (w : Sweep) (l : Ledger) (token : String) :
    l.Settles (w.visit l token).2 w.removed (w.visit l token).1.removed := by
  unfold visit
  split
  · exact .of_same (Nat.le_refl _) rfl _
  · split
    · exact .discard l w.now token w.removed
    · exact .of_same (Nat.le_refl _) rfl _

theorem settles_finish (w : Sweep) (l : Ledger) : l.Settles (w.finish l) w.removed 0 := by
  have hcount := Ledger.Settles.countEvicted l w.removed 0
  rw [Nat.zero_add] at hcount
  exact hcount

theorem issued_visit (w : Sweep) (l : Ledger) (token : String) :
    (w.visit l token).2.tally.issued = l.tally.issued := by
  unfold visit
  split
  · rfl
  · split <;> rfl

end Sweep

namespace Registry.Traffic

variable {s : Traffic} {action : Action} {trail : List Occurrence}

/-- How many nonces have been removed and not counted yet, by calls and by sweeps. -/
def owed (s : Traffic) : Nat :=
  (s.calls.map (Call.owed ·.stage)).sum + (s.sweeps.map (·.removed)).sum

/-- How many nonces an event removed. -/
def removed (e : Occurrence) : Nat :=
  e.before.ledger.size - e.after.ledger.size

theorem owed_of_set {caller : Nat} {call : Call} (hcall : s.calls[caller]? = some call)
    (stage : Stage) :
    Traffic.owed { s with calls := s.calls.set caller { call with stage } } + Call.owed call.stage =
      s.owed + Call.owed stage := by
  have hset : ((s.calls.set caller { call with stage }).map (Call.owed ·.stage)).sum +
      Call.owed call.stage = (s.calls.map (Call.owed ·.stage)).sum + Call.owed stage :=
    sum_map_set hcall _ _
  simp only [owed]
  omega

/-- Every event settles, if the token that it hands out is not tracked. -/
theorem settles_step (s : Traffic) (action : Action) (hfresh : s.Fresh action) :
    s.ledger.Settles (s.step action).2.ledger s.owed (s.step action).2.owed := by
  cases action with
  | issue token =>
      cases hread : s.clock.read with
      | error e =>
          simp only [step, hread]
          exact .of_same (Nat.le_refl _) rfl _
      | ok now =>
          simp only [Fresh, step, hread, grant] at hfresh ⊢
          rcases s.registry.ledger.grant_cases now token with hgrant | hgrant | ⟨expiry, hgrant⟩
          · rw [hgrant]
            exact .of_same (Nat.le_refl _) rfl _
          · rw [hgrant]
            exact .of_same (Nat.le_refl _) rfl _
          · rw [hgrant] at hfresh ⊢
            have hsize := Ledger.size_insert (n := ⟨token, now, expiry, false⟩) (hfresh token rfl)
            exact .of_same (Nat.le_of_lt (Nat.lt_of_lt_of_eq (Nat.lt_succ_self _) hsize.symm)) rfl _
  | call attempt drawn =>
      have hledger : (s.step (.call attempt drawn)).2.ledger = s.ledger :=
        Call.ledger_begin s.registry s.clock.read attempt drawn
      have howed : (s.step (.call attempt drawn)).2.owed = s.owed := by
        simp [step, owed, Call.owed_begin]
      rw [hledger, howed]
      exact .of_same (Nat.le_refl _) rfl _
  | proceed caller =>
      simp only [step]
      split
      next => exact .of_same (Nat.le_refl _) rfl _
      next call hcall =>
        refine Ledger.Settles.frame (Call.settles_next s.registry call) ?_
        exact owed_of_set hcall _
  | beginSweep =>
      simp only [step]
      split
      next => exact .of_same (Nat.le_refl _) rfl _
      next now _ =>
        have howed : Traffic.owed { s with sweeps := s.sweeps ++ [.begin now] } = s.owed := by
          simp [owed, Sweep.begin]
        rw [howed]
        exact .of_same (Nat.le_refl _) rfl _
  | visit sweeper token =>
      simp only [step]
      split
      next => exact .of_same (Nat.le_refl _) rfl _
      next sweep hsweep =>
        refine Ledger.Settles.frame (sweep.settles_visit s.ledger token) ?_
        have hset := sum_map_set hsweep (sweep.visit s.ledger token).1 (·.removed)
        simp only [owed, ledger] at hset ⊢
        omega
  | endSweep sweeper =>
      simp only [step]
      split
      next => exact .of_same (Nat.le_refl _) rfl _
      next sweep hsweep =>
        refine Ledger.Settles.frame (sweep.settles_finish s.ledger) ?_
        have hrest := sum_map_eraseIdx hsweep (·.removed)
        simp only [owed]
        omega
  | advance span => exact .of_same (Nat.le_refl _) rfl _
  | setOutage outage => exact .of_same (Nat.le_refl _) rfl _

/-- Handing out a token is all that is counted as issued. -/
theorem issued_step (s : Traffic) (action : Action) :
    (s.step action).2.ledger.tally.issued =
      s.ledger.tally.issued + (issued? (s.step action).1).toList.length.toUInt64 := by
  have hsame : s.ledger.tally.issued = s.ledger.tally.issued + (0 : Nat).toUInt64 :=
    (UInt64.add_zero _).symm
  cases action with
  | issue token =>
      cases hread : s.clock.read with
      | error e =>
          simp only [step, hread]
          exact hsame
      | ok now =>
          simp only [step, hread, grant]
          rcases s.registry.ledger.grant_cases now token with hgrant | hgrant | ⟨expiry, hgrant⟩
          · rw [hgrant]
            exact hsame
          · rw [hgrant]
            exact hsame
          · rw [hgrant]
            rfl
  | call attempt drawn =>
      have hledger : (s.step (.call attempt drawn)).2.ledger = s.ledger :=
        Call.ledger_begin s.registry s.clock.read attempt drawn
      rw [hledger]
      exact hsame
  | proceed caller =>
      simp only [step]
      split
      next => exact hsame
      next call _ =>
        rw [issued?_next]
        exact (Call.issued_next s.registry call).trans hsame
  | beginSweep =>
      simp only [step]
      split <;> exact hsame
  | visit sweeper token =>
      simp only [step]
      split
      next => exact hsame
      next sweep _ => exact (sweep.issued_visit s.ledger token).trans hsame
  | endSweep sweeper =>
      simp only [step]
      split <;> exact hsame
  | advance span => exact hsame
  | setOutage outage => exact hsame

/-! ## What has been counted -/

/-- So many nonces were issued and so many removed: the counts say so, up to what is owed. -/
structure Counted (s : Traffic) (issued removed : Nat) : Prop where
  issued_eq : issued = s.ledger.size + removed
  tally_issued : s.ledger.tally.issued = issued.toUInt64
  tally_evicted : s.ledger.tally.evicted + s.owed.toUInt64 = removed.toUInt64

/-- Nothing is left but what was there or was issued, and was not removed. -/
theorem Change.size_add_removed {report : Report} {entries : List Nonce}
    (h : Change s action report entries)
    (hfresh : ∀ token, report = .issued token → ∀ n ∈ s.ledger.entries, n.token ≠ token) :
    entries.length + (s.ledger.size - entries.length) =
      s.ledger.size + (issued? report).toList.length := by
  cases h with
  | kept hreport => simp [issued?_of_token? hreport, Ledger.size]
  | @judged _ call now _ _ _ =>
      have hsize := s.ledger.size_checkAndMark now call.token
      simp only [Ledger.size] at hsize
      simp [issued?, hsize, Ledger.size]
  | @discarded _ now token _ =>
      have hless : (s.ledger.discard now token).entries.length ≤ s.ledger.size :=
        List.length_filter_le _ _
      simp only [issued?, Option.toList_none, List.length_nil]
      omega
  | @issued token now expiry _ =>
      have hsize := Ledger.size_insert (n := ⟨token, now, expiry, false⟩) (hfresh token rfl)
      simp only [Ledger.size] at hsize
      simp [issued?, hsize, Ledger.size]

theorem Counted.step {issued removed : Nat} (h : s.Counted issued removed) (hs : s.Timely)
    (hfresh : s.Fresh action) :
    (s.step action).2.Counted (issued + (issued? (s.step action).1).toList.length)
      (removed + Traffic.removed (eventOf Traffic.step s action)) := by
  obtain ⟨counted, hevicted, howed⟩ := settles_step s action hfresh
  have hsize : (s.step action).2.ledger.size + Traffic.removed (eventOf Traffic.step s action) =
      s.ledger.size + (issued? (s.step action).1).toList.length :=
    (change_step hs action).size_add_removed hfresh
  have hissued := h.issued_eq
  have hbefore := h.tally_evicted
  refine ⟨by omega, ?_, ?_⟩
  · rw [issued_step, h.tally_issued]
    exact (UInt64.ofNat_add _ _).symm
  · -- What is counted now was owed before, or was removed just now.
    change _ + counted = _ + Traffic.removed (eventOf Traffic.step s action) at howed
    calc (s.step action).2.ledger.tally.evicted + (s.step action).2.owed.toUInt64
        = s.ledger.tally.evicted + ((s.step action).2.owed + counted).toUInt64 := by
          rw [hevicted, Nat.toUInt64_eq, Nat.toUInt64_eq, Nat.toUInt64_eq, UInt64.ofNat_add,
            UInt64.add_assoc, UInt64.add_comm (UInt64.ofNat counted)]
      _ = s.ledger.tally.evicted + s.owed.toUInt64 +
            (Traffic.removed (eventOf Traffic.step s action)).toUInt64 := by
          rw [howed, Nat.toUInt64_eq, Nat.toUInt64_eq, Nat.toUInt64_eq, UInt64.ofNat_add,
            UInt64.add_assoc]
      _ = (removed + Traffic.removed (eventOf Traffic.step s action)).toUInt64 := by
          rw [hbefore]
          exact (UInt64.ofNat_add _ _).symm

theorem counted_outcome {start : Traffic} (hstart : start.Timely)
    (hempty : start.ledger.entries = []) (hcounted : start.Counted 0 0) (actions : List Action)
    (hdistinct : (issuedTokens (events step start actions)).Nodup) :
    (outcome step start actions).Counted (issuedTokens (events step start actions)).length
      ((events step start actions).map removed).sum := by
  induction actions using List.reverseRecOn with
  | nil => exact hcounted
  | append_singleton first action ih =>
      have hfresh := fresh_of_nodup hstart hempty hdistinct
      rw [events_snoc, issuedTokens_snoc] at hdistinct ⊢
      rw [List.length_append, List.map_append, List.sum_append, outcome_append]
      exact (ih (List.Nodup.of_append_left hdistinct)).step (hstart.outcome first) hfresh

/-- Where nobody owes anything, what was issued is tracked or evicted. -/
theorem Counted.issued_eq_of_settled {issued removed : Nat} (h : s.Counted issued removed)
    (hsettled : s.owed = 0) :
    s.ledger.tally.issued = s.ledger.size.toUInt64 + s.ledger.tally.evicted := by
  have hevicted := h.tally_evicted
  rw [hsettled] at hevicted
  rw [h.tally_issued, h.issued_eq, ← UInt64.add_zero s.ledger.tally.evicted]
  exact (UInt64.ofNat_add _ _).trans (congrArg _ hevicted.symm)

end Registry.Traffic

end Enrollment
