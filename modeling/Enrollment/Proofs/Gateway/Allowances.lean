import Enrollment.Gateway.Limiter
import Mathlib.Data.List.Dedup
import Mathlib.Data.List.Nodup

/-!
# Allowances at one moment

While no time passes, an allowance admits exactly a burst of requests: each one that passes moves
the time at which the bucket would be full one interval ahead, and a whole burst of intervals is the
most that it may be ahead. So what a limiter says depends only on how often the same caller has
asked for the same, and the callers that it knows are those that have asked.
-/

namespace Enrollment.Gateway

/-! ## One allowance -/

namespace Quota

variable {q : Quota} {now passed : Nat}

/-- An interval is never empty, because a rate is less than the nanoseconds of a minute. -/
theorem interval_pos (rate : UInt32) (burst : Option UInt32) :
    0 < (perMinute rate burst).interval := by
  refine Nat.div_pos ?_ (Nat.lt_of_lt_of_le Nat.one_pos (Nat.le_max_right _ _))
  have hrate := rate.toNat_lt
  simp only [minute, nanosPerSecond]
  omega

/-- The allowance after so many requests, all of which passed at one time. -/
def spent (q : Quota) (now passed : Nat) : Option Nat :=
  if passed = 0 then none else some (now + (passed + 1) * q.interval)

theorem spent_zero (q : Quota) (now : Nat) : q.spent now 0 = none :=
  rfl

theorem spent_succ (q : Quota) (now passed : Nat) :
    q.spent now (passed + 1) = some (now + (passed + 2) * q.interval) :=
  rfl

theorem spent_getD (q : Quota) (now passed : Nat) :
    (q.spent now passed).getD (now + q.interval) = now + (passed + 1) * q.interval := by
  cases passed with
  | zero => simp [spent_zero]
  | succ passed => simp [spent_succ]

/-- Before a burst of requests has passed, the next one passes. -/
theorem check_spent_of_lt (hpassed : passed < q.burst) :
    q.check now (q.spent now passed) = .ok (now + (passed + 2) * q.interval) := by
  have hburst : (passed + 1) * q.interval ≤ q.interval * q.burst := by
    rw [Nat.mul_comm q.interval]
    exact Nat.mul_le_mul_right _ hpassed
  have hnext : now + (passed + 1) * q.interval + q.interval = now + (passed + 2) * q.interval := by
    rw [Nat.add_assoc, ← Nat.succ_mul]
  simp only [check, spent_getD, tolerance]
  rw [if_neg (by omega), Nat.max_eq_left (Nat.le_add_right _ _), hnext]

/-- After a burst of requests the next one would pass an interval later. -/
theorem check_spent_burst (hinterval : 0 < q.interval) :
    q.check now (q.spent now q.burst) = .error q.interval := by
  have hfull : now + (q.burst + 1) * q.interval - q.interval * q.burst = now + q.interval := by
    rw [Nat.add_mul, Nat.mul_comm q.interval, Nat.one_mul]
    omega
  simp only [check, spent_getD, tolerance, hfull]
  rw [if_pos (by omega), Nat.add_sub_cancel_left]

end Quota

/-! ## The allowances of all callers -/

namespace Bucket

variable {b : Bucket} {c other : EndpointClass}

theorem allowance_withAllowance (b : Bucket) (allowance : Nat) (c : EndpointClass) :
    (b.withAllowance allowance c).allowance c = some allowance := by
  cases c <;> rfl

theorem allowance_withAllowance_of_ne (allowance : Nat) (hne : other ≠ c) :
    (b.withAllowance allowance c).allowance other = b.allowance other := by
  cases c <;> cases other <;> first | rfl | exact absurd rfl hne

theorem allowance_withLastAccess (b : Bucket) (now : Nat) (c : EndpointClass) :
    ({ b with lastAccess := now } : Bucket).allowance c = b.allowance c := by
  cases c <;> rfl

end Bucket

namespace Limiter

variable {settings : Config.RateLimit} {now : Nat} {asked : List (Address × EndpointClass)}
  {l : Limiter} {caller : Address} {b : Bucket} {c : EndpointClass}

theorem quota_interval_pos (l : Limiter) (c : EndpointClass) : 0 < (l.quota c).interval := by
  cases c <;> exact Quota.interval_pos _ _

/-- A check changes no settings. -/
theorem settings_check (l : Limiter) (now : Nat) (caller : Address) (c : EndpointClass) :
    (l.check now caller c).2.settings = l.settings := by
  unfold check
  split
  · rfl
  · cases l.bucket caller with
    | error e => rfl
    | ok b =>
        simp only
        split <;> rfl

theorem lookup_filter_ne {buckets : List (Address × Bucket)} {other : Address}
    (hne : caller ≠ other) :
    (buckets.filter (·.1 != other)).lookup caller = buckets.lookup caller := by
  induction buckets with
  | nil => rfl
  | cons entry buckets ih =>
      obtain ⟨a, b⟩ := entry
      by_cases ha : a = other
      · subst a
        simp [List.lookup_cons, ih, beq_eq_false_iff_ne.mpr hne]
      · simp [List.lookup_cons, ih, ha]

theorem lookup_put_self (l : Limiter) (caller : Address) (b : Bucket) :
    (l.put caller b).buckets.lookup caller = some b := by
  simp [put]

theorem lookup_put_of_ne (l : Limiter) {other : Address} (hne : other ≠ caller) (b : Bucket) :
    (l.put caller b).buckets.lookup other = l.buckets.lookup other := by
  simp only [put, List.lookup_cons, beq_eq_false_iff_ne.mpr hne]
  exact lookup_filter_ne hne

/-- A check leaves the buckets of other callers alone. -/
theorem lookup_check_of_ne (l : Limiter) (now : Nat) {other : Address} (hne : other ≠ caller)
    (c : EndpointClass) :
    (l.check now caller c).2.buckets.lookup other = l.buckets.lookup other := by
  unfold check
  split
  · rfl
  · cases l.bucket caller with
    | error e => rfl
    | ok b =>
        simp only
        split <;> exact lookup_put_of_ne l hne _

/-- The limiter's state after callers have asked, all of them at one time: each has a bucket, whose
allowances are what the caller's own requests of a class have left of them. -/
structure Tracks (settings : Config.RateLimit) (now : Nat) (asked : List (Address × EndpointClass))
    (l : Limiter) : Prop where
  settings_eq : l.settings = settings
  nodup : (l.buckets.map Prod.fst).Nodup
  mem_callers : ∀ caller, caller ∈ l.buckets.map Prod.fst ↔ caller ∈ asked.map Prod.fst
  allowance_eq : ∀ caller b c, l.buckets.lookup caller = some b →
    b.allowance c = (l.quota c).spent now (min (asked.count (caller, c)) (l.quota c).burst)

theorem tracks_create (settings : Config.RateLimit) (now : Nat) :
    Tracks settings now [] (create settings) where
  settings_eq := rfl
  nodup := List.nodup_nil
  mem_callers _ := Iff.rfl
  allowance_eq _ _ _ hlookup := by cases hlookup

/-- As many callers are known as have asked. -/
theorem Tracks.size_eq (h : Tracks settings now asked l) :
    l.size = (asked.map Prod.fst).dedup.length := by
  have hperm : (l.buckets.map Prod.fst).Perm (asked.map Prod.fst).dedup := by
    rw [List.perm_ext_iff_of_nodup h.nodup (List.nodup_dedup _)]
    intro caller
    rw [List.mem_dedup, h.mem_callers]
  rw [size, ← hperm.length_eq, List.length_map]

/-- A caller's bucket, be it new or not. -/
theorem Tracks.exists_bucket (h : Tracks settings now asked l)
    (hkept : ∀ c, (l.quota c).isKept = true) (caller : Address) :
    ∃ b, l.bucket caller = .ok b ∧ ∀ c, b.allowance c =
      (l.quota c).spent now (min (asked.count (caller, c)) (l.quota c).burst) := by
  unfold bucket
  cases hlookup : l.buckets.lookup caller with
  | some b => exact ⟨b, rfl, fun c => h.allowance_eq caller b c hlookup⟩
  | none =>
      refine ⟨.fresh, by simp [hkept], fun c => ?_⟩
      have hnew : caller ∉ asked.map Prod.fst := by
        rw [← h.mem_callers]
        intro hmem
        obtain ⟨⟨_, b⟩, hentry, rfl⟩ := List.mem_map.mp hmem
        have hne := List.lookup_eq_none_iff.mp hlookup _ hentry
        simp at hne
      have hcount : asked.count (caller, c) = 0 :=
        List.count_eq_zero.mpr fun hmem => hnew (List.mem_map.mpr ⟨_, hmem, rfl⟩)
      rw [hcount, Nat.zero_min]
      cases c <;> rfl

/-- A caller who asks once more has a bucket with the allowances that this leaves. -/
theorem Tracks.put (h : Tracks settings now asked l)
    (hb : ∀ c', b.allowance c' = (l.quota c').spent now
      (min ((asked ++ [(caller, c)]).count (caller, c')) (l.quota c').burst)) :
    Tracks settings now (asked ++ [(caller, c)]) (l.put caller b) where
  settings_eq := h.settings_eq
  nodup := by
    rw [Limiter.put, List.map_cons, List.nodup_cons]
    constructor
    · intro hmem
      obtain ⟨entry, hentry, hcaller⟩ := List.mem_map.mp hmem
      simp [hcaller] at hentry
    · exact h.nodup.sublist (List.filter_sublist.map Prod.fst)
  mem_callers other := by
    have hold := h.mem_callers other
    by_cases hother : other = caller
    · subst other
      simp [Limiter.put]
    · have hfilter : other ∈ (l.buckets.filter (·.1 != caller)).map Prod.fst ↔
          other ∈ l.buckets.map Prod.fst := by
        simp [hother]
      rw [Limiter.put, List.map_cons, List.mem_cons, hfilter, hold]
      simp [hother]
  allowance_eq other b' c' hlookup := by
    by_cases hother : other = caller
    · subst other
      rw [lookup_put_self] at hlookup
      cases hlookup
      exact hb c'
    · rw [lookup_put_of_ne l hother] at hlookup
      have hcount : (asked ++ [(caller, c)]).count (other, c') = asked.count (other, c') := by
        simp [List.count_append, Ne.symm hother]
      rw [hcount]
      exact h.allowance_eq other b' c' hlookup

/-- What a caller is told who asks at the same time as all before: the first burst of requests for a
class passes, and no other does. -/
theorem Tracks.check (h : Tracks settings now asked l) (hkept : ∀ c, (l.quota c).isKept = true)
    (hlimited : l.isExempt caller = false) (c : EndpointClass) :
    (l.check now caller c).1 =
        .ok (if asked.count (caller, c) < (l.quota c).burst then .ok ()
          else .error (l.quota c).interval) ∧
      Tracks settings now (asked ++ [(caller, c)]) (l.check now caller c).2 := by
  obtain ⟨b, hbucket, hallowance⟩ := h.exists_bucket hkept caller
  have hcount (c' : EndpointClass) : (asked ++ [(caller, c)]).count (caller, c') =
      asked.count (caller, c') + if c' = c then 1 else 0 := by
    by_cases hc : c' = c
    · simp [hc]
    · simp [List.count_append, hc, Ne.symm hc]
  by_cases hpasses : asked.count (caller, c) < (l.quota c).burst
  · have hcheck : (l.quota c).check now (b.allowance c) =
        .ok (now + (asked.count (caller, c) + 2) * (l.quota c).interval) := by
      rw [hallowance, Nat.min_eq_left (Nat.le_of_lt hpasses)]
      exact Quota.check_spent_of_lt hpasses
    simp only [Limiter.check, hlimited, Bool.false_eq_true, if_false, hbucket,
      Bucket.allowance_withLastAccess, hcheck, hpasses, if_true, true_and]
    refine h.put fun c' => ?_
    rw [hcount]
    by_cases hc : c' = c
    · subst c'
      rw [Bucket.allowance_withAllowance, if_pos rfl, Nat.min_eq_left hpasses, Quota.spent_succ]
    · rw [Bucket.allowance_withAllowance_of_ne _ hc, Bucket.allowance_withLastAccess, if_neg hc]
      exact hallowance c'
  · have hspent := Nat.not_lt.mp hpasses
    have hcheck : (l.quota c).check now (b.allowance c) = .error (l.quota c).interval := by
      rw [hallowance, Nat.min_eq_right hspent]
      exact Quota.check_spent_burst (l.quota_interval_pos c)
    simp only [Limiter.check, hlimited, Bool.false_eq_true, if_false, hbucket,
      Bucket.allowance_withLastAccess, hcheck, hpasses, true_and]
    refine h.put fun c' => ?_
    rw [hcount, Bucket.allowance_withLastAccess, hallowance]
    by_cases hc : c' = c
    · subst c'
      rw [if_pos rfl, Nat.min_eq_right hspent, Nat.min_eq_right (Nat.le_succ_of_le hspent)]
    · rw [if_neg hc, Nat.add_zero]

/-- Where all allowances can be kept, every caller gets an answer at every time. -/
theorem exists_check (hkept : ∀ c, (l.quota c).isKept = true) (now : Nat) (caller : Address)
    (c : EndpointClass) : ∃ answer, (l.check now caller c).1 = .ok answer := by
  have hbucket : ∃ b, l.bucket caller = .ok b := by
    unfold bucket
    cases l.buckets.lookup caller with
    | some b => exact ⟨b, rfl⟩
    | none => exact ⟨.fresh, by simp [hkept]⟩
  obtain ⟨b, hb⟩ := hbucket
  unfold check
  split
  next => exact ⟨_, rfl⟩
  next =>
    rw [hb]
    dsimp only
    split <;> exact ⟨_, rfl⟩

/-- Where an allowance cannot be kept, a caller who is not exempt gets no bucket and no answer. -/
theorem check_of_unkept (hnew : l.buckets = []) (hunkept : ∃ c, (l.quota c).isKept = false)
    (hlimited : l.isExempt caller = false) (c : EndpointClass) :
    l.check now caller c = (.error .nanos, l) := by
  have hbucket : l.bucket caller = .error .nanos := by
    obtain ⟨c, hc⟩ := hunkept
    unfold bucket
    rw [hnew, List.lookup_nil]
    cases c <;> simp [hc]
  simp [check, hlimited, hbucket]

end Limiter

end Enrollment.Gateway
