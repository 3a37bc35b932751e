import Enrollment.Proofs.Gateway.Limits
import Enrollment.Proofs.Wire

/-!
# Advised delays

A caller who is turned back is advised twice to wait: for milliseconds in the body of the refusal
and for seconds in its header. The limiter never asks for more than an interval, so no number on the
way is out of range. The milliseconds are the whole ones of the wait. Hence they are enough exactly
if the wait has no fraction of a millisecond, and else fall short of it by less than one; the
seconds are rounded up from them and fall short only where the wait exceeds whole seconds by less
than a millisecond.
-/

namespace Enrollment.Gateway

/-! ## One allowance -/

namespace Quota

variable {q : Quota} {now later wait full : Nat} {allowance : Option Nat}

theorem burst_pos (rate : UInt32) (burst : Option UInt32) : 0 < (perMinute rate burst).burst := by
  have hrate : 0 < max rate.toNat 1 := Nat.lt_of_lt_of_le Nat.one_pos (Nat.le_max_right _ _)
  cases burst with
  | none => exact hrate
  | some n =>
      by_cases hn : n.toNat = 0
      · have hunset : (perMinute rate (some n)).burst = max rate.toNat 1 := by
          simp [perMinute, Option.filter, hn]
        rw [hunset]
        exact hrate
      · simp [perMinute, Option.filter, hn, Nat.pos_of_ne_zero hn]

theorem interval_le (rate : UInt32) (burst : Option UInt32) :
    (perMinute rate burst).interval ≤ minute :=
  Nat.div_le_self _ _

/-- The time beyond which no allowance lies that was kept at a time before. -/
def horizon (q : Quota) (now : Nat) : Nat :=
  now + q.tolerance + q.interval

theorem le_horizon_of_check (h : q.check now allowance = .ok full) : full ≤ q.horizon now := by
  simp only [check] at h
  split at h
  next => cases h
  next hpasses =>
    cases h
    simp only [horizon]
    omega

theorem wait_le_interval (h : q.check now allowance = .error wait)
    (hallowance : ∀ full, allowance = some full → full ≤ q.horizon now) : wait ≤ q.interval := by
  have hfull : allowance.getD (now + q.interval) ≤ q.horizon now := by
    cases allowance with
    | none => exact Nat.add_le_add_right (Nat.le_add_right _ _) _
    | some full => exact hallowance full rfl
  simp only [check] at h
  split at h
  next =>
    cases h
    simp only [horizon] at hfull
    omega
  next => cases h

/-- A request that is turned back passes as soon as the wait that it was told is over, and not
before. -/
theorem passes_iff_of_wait (hburst : 0 < q.burst) (h : q.check now allowance = .error wait)
    (later : Nat) : (∃ full, q.check later allowance = .ok full) ↔ now + wait ≤ later := by
  have hinterval : q.interval ≤ q.tolerance := Nat.le_mul_of_pos_right _ hburst
  cases allowance with
  | none =>
      simp only [check, Option.getD_none] at h
      rw [if_neg (by omega)] at h
      cases h
  | some full =>
      simp only [check, Option.getD_some] at h ⊢
      split at h
      next hlimited =>
        cases h
        constructor
        · rintro ⟨full', hpasses⟩
          split at hpasses
          next => cases hpasses
          next => omega
        · intro hlater
          exact ⟨_, if_neg (by omega)⟩
      next => cases h

end Quota

/-! ## The limiter over time -/

namespace Limiter

variable {settings : Config.RateLimit} {l : Limiter} {now later wait : Nat} {caller : Address}
  {c : EndpointClass} {b : Bucket}

/-- What can happen to a limiter, each at a time. -/
inductive Action where
  | check (now : Nat) (caller : Address) (c : EndpointClass)
  | forgetIdle (now : Nat) (maxAge : Span)

def Action.time : Action → Nat
  | .check now _ _ => now
  | .forgetIdle now _ => now

/-- The answer to a check, if the action is one, and the limiter that an action leaves. -/
def step (l : Limiter) : Action → Option (Except TimeOverflow (Except Nat Unit)) × Limiter
  | .check now caller c => ((l.check now caller c).1, (l.check now caller c).2)
  | .forgetIdle now maxAge => (none, l.forgetIdle now maxAge)

/-- No allowance lies further ahead than one can at a time. -/
def Bounded (now : Nat) (l : Limiter) : Prop :=
  ∀ entry ∈ l.buckets, ∀ c full, entry.2.allowance c = some full → full ≤ (l.quota c).horizon now

theorem bounded_create (settings : Config.RateLimit) (now : Nat) : Bounded now (create settings) :=
  fun _ hentry => by cases hentry

theorem Bounded.mono (h : Bounded now l) (hle : now ≤ later) : Bounded later l := by
  intro entry hentry c full hfull
  have hhorizon := h entry hentry c full hfull
  simp only [Quota.horizon] at hhorizon ⊢
  omega

theorem Bounded.of_bucket (h : Bounded now l) (hb : l.bucket caller = .ok b) :
    ∀ c full, b.allowance c = some full → full ≤ (l.quota c).horizon now := by
  unfold bucket at hb
  split at hb
  next b' hlookup =>
    cases hb
    obtain ⟨before, after, hbuckets, -⟩ := List.lookup_eq_some_iff.mp hlookup
    exact h (caller, b) (by simp [hbuckets])
  next =>
    split at hb
    next =>
      cases hb
      intro c full hfull
      cases c <;> cases hfull
    next => cases hb

theorem Bounded.put (h : Bounded now l)
    (hb : ∀ c full, b.allowance c = some full → full ≤ (l.quota c).horizon now) :
    Bounded now (l.put caller b) := by
  intro entry hentry
  rcases List.mem_cons.mp hentry with rfl | hkept
  · exact hb
  · exact h entry (List.mem_filter.mp hkept).1

/-- The three ways a check can go. -/
theorem check_cases (l : Limiter) (now : Nat) (caller : Address) (c : EndpointClass) :
    (l.check now caller c).2 = l ∧ (∀ wait, (l.check now caller c).1 ≠ .ok (.error wait)) ∨
      ∃ b, l.isExempt caller = false ∧ l.bucket caller = .ok b ∧
        ((∃ full, (l.quota c).check now (b.allowance c) = .ok full ∧
            l.check now caller c = (.ok (.ok ()),
              l.put caller (({ b with lastAccess := now } : Bucket).withAllowance full c))) ∨
          ∃ wait, (l.quota c).check now (b.allowance c) = .error wait ∧
            l.check now caller c =
              (.ok (.error wait), l.put caller { b with lastAccess := now })) := by
  cases hexempt : l.isExempt caller with
  | true => exact .inl (by simp [check, hexempt])
  | false =>
      cases hb : l.bucket caller with
      | error e => exact .inl (by simp [check, hexempt, hb])
      | ok b =>
          refine .inr ⟨b, rfl, rfl, ?_⟩
          cases hcheck : (l.quota c).check now (b.allowance c) with
          | ok full =>
              refine .inl ⟨full, rfl, ?_⟩
              simp [check, hexempt, hb, Bucket.allowance_withLastAccess, hcheck]
          | error wait =>
              refine .inr ⟨wait, rfl, ?_⟩
              simp [check, hexempt, hb, Bucket.allowance_withLastAccess, hcheck]

theorem Bounded.check (h : Bounded now l) (caller : Address) (c : EndpointClass) :
    Bounded now (l.check now caller c).2 := by
  rcases check_cases l now caller c with ⟨hsame, -⟩ | ⟨b, -, hb, hchecked⟩
  · rw [hsame]
    exact h
  · have hbucket := h.of_bucket hb
    rcases hchecked with ⟨full, hfull, hleft⟩ | ⟨wait, -, hleft⟩
    · rw [hleft]
      refine h.put fun c' full' hfull' => ?_
      by_cases hc : c' = c
      · subst c'
        rw [Bucket.allowance_withAllowance] at hfull'
        cases hfull'
        exact Quota.le_horizon_of_check hfull
      · rw [Bucket.allowance_withAllowance_of_ne _ hc, Bucket.allowance_withLastAccess] at hfull'
        exact hbucket c' full' hfull'
    · rw [hleft]
      refine h.put fun c' full' hfull' => ?_
      rw [Bucket.allowance_withLastAccess] at hfull'
      exact hbucket c' full' hfull'

theorem Bounded.forgetIdle (h : Bounded later l) (now : Nat) (maxAge : Span) :
    Bounded later (l.forgetIdle now maxAge) :=
  fun entry hentry => h entry (List.mem_filter.mp hentry).1

theorem Bounded.step {action : Action} (h : Bounded action.time l) :
    Bounded action.time (l.step action).2 := by
  cases action with
  | check now caller c => exact Bounded.check h caller c
  | forgetIdle now maxAge => exact h.forgetIdle now maxAge

theorem Bounded.outcome {actions : List Action} {start : Nat} (h : Bounded start l)
    (htimes : (start :: (actions.map (·.time) ++ [now])).Pairwise (· ≤ ·)) :
    Bounded now (outcome Limiter.step l actions) := by
  induction actions generalizing l start with
  | nil => exact h.mono (List.rel_of_pairwise_cons htimes (by simp))
  | cons action actions ih =>
      obtain ⟨hstart, hrest⟩ := List.pairwise_cons.mp htimes
      have haction : Bounded action.time l := h.mono (hstart _ (by simp))
      exact ih haction.step hrest

theorem settings_step (l : Limiter) (action : Action) :
    (l.step action).2.settings = l.settings := by
  cases action with
  | check now caller c => exact settings_check l now caller c
  | forgetIdle now maxAge => rfl

theorem settings_outcome (settings : Config.RateLimit) (actions : List Action) :
    (outcome Limiter.step (create settings) actions).settings = settings := by
  have hkept : ∀ l action, l.settings = settings → (Limiter.step l action).2.settings = settings :=
    fun l action hl => (settings_step l action).trans hl
  exact outcome_induction hkept rfl actions

/-- A limiter with settings as it stands at a time, whatever was checked and forgotten before. -/
def IsReached (settings : Config.RateLimit) (now : Nat) (l : Limiter) : Prop :=
  ∃ actions : List Action, (actions.map (·.time) ++ [now]).Pairwise (· ≤ ·) ∧
    l = outcome Limiter.step (create settings) actions

theorem IsReached.bounded (h : IsReached settings now l) : Bounded now l := by
  obtain ⟨actions, htimes, rfl⟩ := h
  refine (bounded_create settings 0).outcome (List.pairwise_cons.mpr ⟨?_, htimes⟩)
  exact fun _ _ => Nat.zero_le _

theorem IsReached.settings_eq (h : IsReached settings now l) : l.settings = settings := by
  obtain ⟨actions, -, rfl⟩ := h
  exact settings_outcome settings actions

theorem quota_burst_pos (l : Limiter) (c : EndpointClass) : 0 < (l.quota c).burst := by
  cases c <;> exact Quota.burst_pos _ _

theorem quota_interval_le (l : Limiter) (c : EndpointClass) :
    (l.quota c).interval ≤ Quota.minute := by
  cases c <;> exact Quota.interval_le _ _

variable (hwait : (l.check now caller c).1 = .ok (.error wait))

include hwait

theorem exists_of_wait : ∃ b, l.isExempt caller = false ∧ l.bucket caller = .ok b ∧
    (l.quota c).check now (b.allowance c) = .error wait ∧
    (l.check now caller c).2 = l.put caller { b with lastAccess := now } := by
  rcases check_cases l now caller c with ⟨-, hnever⟩ | ⟨b, hexempt, hb, hchecked⟩
  · exact absurd hwait (hnever wait)
  · rcases hchecked with ⟨full, -, hleft⟩ | ⟨wait', hcheck, hleft⟩
    · rw [hleft] at hwait
      cases hwait
    · rw [hleft] at hwait
      cases hwait
      exact ⟨b, hexempt, hb, hcheck, congrArg Prod.snd hleft⟩

/-- No wait is longer than an interval, and so none is longer than a minute. -/
theorem wait_le_minute (hbounded : Bounded now l) : wait ≤ Quota.minute := by
  obtain ⟨b, -, hb, hcheck, -⟩ := exists_of_wait hwait
  exact Nat.le_trans (Quota.wait_le_interval hcheck (hbounded.of_bucket hb c))
    (l.quota_interval_le c)

/-- A caller who is turned back and asks nothing in between passes from the end of the wait on. -/
theorem check_after_wait (later : Nat) :
    ((l.check now caller c).2.check later caller c).1 = .ok (.ok ()) ↔ now + wait ≤ later := by
  obtain ⟨b, hexempt, -, hcheck, hleft⟩ := exists_of_wait hwait
  rw [hleft, ← Quota.passes_iff_of_wait (l.quota_burst_pos c) hcheck later]
  have hbucket : (l.put caller { b with lastAccess := now }).bucket caller =
      .ok { b with lastAccess := now } := by
    simp only [bucket, lookup_put_self]
  have hexempt' : (l.put caller { b with lastAccess := now }).isExempt caller = false := hexempt
  have hquota : (l.put caller { b with lastAccess := now }).quota c = l.quota c := by
    cases c <;> rfl
  simp only [check, hexempt', hbucket, hquota, Bucket.allowance_withLastAccess]
  cases (l.quota c).check later (b.allowance c) <;> simp

end Limiter

/-! ## What is advised -/

/-- The answer to a caller who is turned back: how long to wait stands in its body in milliseconds
and in its header in seconds. -/
structure Advises (response : Http.Response) (millis : UInt64) (seconds : Nat) : Prop where
  status_eq : response.status = 429
  parse_eq : Wire.errorResponse.parse (Utf8.encode response.body) =
    .ok ⟨"M_LIMIT_EXCEEDED", "Too many requests", some millis⟩
  retryAfter_eq : response.retryAfter = some (toString seconds)

theorem advises_rateLimited (millis : UInt64) :
    Advises (Refusal.rateLimited millis).response millis (Refusal.retryAfterSeconds millis) where
  status_eq := rfl
  parse_eq := Json.Format.parse_render Wire.readable_errorResponse _
  retryAfter_eq := rfl

section Rounding

variable {wait : Nat}

theorem toNat_retryAfterMillis (hwait : wait ≤ Quota.minute) :
    (Limiter.retryAfterMillis wait).toNat = wait / nanosPerMilli := by
  refine UInt64.toNat_ofNat_of_lt' (Nat.lt_of_le_of_lt (Nat.div_le_self _ _) ?_)
  exact Nat.lt_of_le_of_lt hwait (by decide)

/-- The milliseconds are enough exactly if the wait is a whole number of them. -/
theorem wait_le_millis_iff :
    wait ≤ wait / nanosPerMilli * nanosPerMilli ↔ wait % nanosPerMilli = 0 := by
  simp only [nanosPerMilli]
  omega

/-- The seconds fall short exactly if the wait is more than a second and exceeds whole seconds, but
by less than a millisecond. -/
theorem wait_le_seconds_iff :
    wait ≤ max ((wait / nanosPerMilli + 999) / 1000) 1 * nanosPerSecond ↔
      wait ≤ nanosPerSecond ∨ wait % nanosPerSecond = 0 ∨
        nanosPerMilli ≤ wait % nanosPerSecond := by
  simp only [nanosPerMilli, nanosPerSecond]
  omega

end Rounding

open Limiter (IsReached)

/-- A request of a caller who is turned back is answered by the advice. -/
theorem exists_advice {g : Gateway} {found : Circumstances} {r : Http.Request} {wait : Nat}
    {caller : Address} {c : EndpointClass}
    (hr : limited? g.limiter.settings r = some (caller, c))
    (hwait : (g.limiter.check found.now caller c).1 = .ok (.error wait))
    (reading : Reading) :
    ∃ reply, (g.handle reading found r).1 = .ok reply ∧
      reply.response = finish r (Refusal.rateLimited (Limiter.retryAfterMillis wait)).response := by
  obtain ⟨-, hcheck⟩ := checkRate_of_limited hr found.now
  have hlimited : (g.checkRate found.now r).1 = .ok (some (wait, caller, c)) := by
    rw [hcheck, hwait]
    rfl
  rw [handle_of_limited hlimited]
  exact ⟨_, rfl, rfl⟩

/-- What a caller is advised who is turned back. No conversion overflows, the seconds are at least
one, and the caller passes from the end of the wait on and not before. Where the wait is a whole
number of milliseconds, waiting as advised is enough, whichever advice is followed. Else the
milliseconds fall short of the wait, by less than one, and the seconds fall short where the wait is
barely more than whole seconds. -/
theorem delays_advised {settings : Config.RateLimit} {l : Limiter} {now wait : Nat}
    {caller : Address} {c : EndpointClass} (hl : IsReached settings now l)
    (hwait : (l.check now caller c).1 = .ok (.error wait)) :
    let millis := Limiter.retryAfterMillis wait
    let seconds := Refusal.retryAfterSeconds millis
    let response := (Refusal.rateLimited millis).response
    Advises response millis seconds ∧ millis.toNat = wait / nanosPerMilli ∧ 1 ≤ seconds ∧
      (∀ nanos, ((l.check now caller c).2.check (now + nanos) caller c).1 = .ok (.ok ()) ↔
        wait ≤ nanos) ∧
      (wait % nanosPerMilli = 0 →
        wait ≤ millis.toNat * nanosPerMilli ∧ wait ≤ seconds * nanosPerSecond) ∧
      (wait ≤ millis.toNat * nanosPerMilli ↔ wait % nanosPerMilli = 0) ∧
      wait < (millis.toNat + 1) * nanosPerMilli ∧
      (wait ≤ seconds * nanosPerSecond ↔ wait ≤ nanosPerSecond ∨ wait % nanosPerSecond = 0 ∨
        nanosPerMilli ≤ wait % nanosPerSecond) ∧
      ∀ (g : Gateway) reading found r, g.limiter = l → found.now = now →
        limited? settings r = some (caller, c) →
        ∃ reply, (g.handle reading found r).1 = .ok reply ∧ reply.response = finish r response := by
  intro millis seconds response
  have hmillis : millis.toNat = wait / nanosPerMilli :=
    toNat_retryAfterMillis (Limiter.wait_le_minute hwait hl.bounded)
  have hseconds : seconds = max ((wait / nanosPerMilli + 999) / 1000) 1 := by
    rw [← hmillis]
    rfl
  have hmillisEnough : wait ≤ millis.toNat * nanosPerMilli ↔ wait % nanosPerMilli = 0 := by
    rw [hmillis]
    exact wait_le_millis_iff
  have hsecondsEnough : wait ≤ seconds * nanosPerSecond ↔ wait ≤ nanosPerSecond ∨
      wait % nanosPerSecond = 0 ∨ nanosPerMilli ≤ wait % nanosPerSecond := by
    rw [hseconds]
    exact wait_le_seconds_iff
  refine ⟨advises_rateLimited millis, hmillis, Nat.le_max_right _ _, fun nanos => ?_,
    fun hwhole => ⟨hmillisEnough.mpr hwhole, hsecondsEnough.mpr ?_⟩, hmillisEnough, ?_,
    hsecondsEnough, fun g reading found r hg hnow hr => ?_⟩
  · rw [Limiter.check_after_wait hwait]
    exact Nat.add_le_add_iff_left
  · simp only [nanosPerMilli, nanosPerSecond] at hwhole ⊢
    omega
  · rw [hmillis]
    simp only [nanosPerMilli]
    omega
  · subst hg hnow
    exact exists_advice (hl.settings_eq ▸ hr) hwait reading

/-- Half a second after a burst of three, a caller is advised to wait for nineteen seconds and a
half, or for twenty seconds, and passes after either. -/
theorem advised_delay_of_whole_millis :
    let caller : Address := .v4 ⟨203, 0, 113, 9⟩
    let l := outcome Limiter.step (.create {}) (List.replicate 3 (.check 0 caller .nonce))
    IsReached {} 500000000 l ∧
      (l.check 500000000 caller .nonce).1 = .ok (.error 19500000000) ∧
      Advises (Refusal.rateLimited 19500).response 19500 20 ∧
      ∀ nanos, 19500000000 ≤ nanos →
        ((l.check 500000000 caller .nonce).2.check (500000000 + nanos) caller .nonce).1 =
          .ok (.ok ()) := by
  intro caller l
  have hl : IsReached {} 500000000 l := ⟨_, by simp [Limiter.Action.time], rfl⟩
  have hwait : (l.check 500000000 caller .nonce).1 = .ok (.error 19500000000) := by decide +kernel
  have hmillis : Limiter.retryAfterMillis 19500000000 = 19500 := by decide +kernel
  have hseconds : Refusal.retryAfterSeconds 19500 = 20 := by decide +kernel
  obtain ⟨hadvised, -, -, hpasses, -⟩ := delays_advised hl hwait
  rw [hmillis, hseconds] at hadvised
  exact ⟨hl, hwait, hadvised, fun nanos hnanos => (hpasses nanos).mpr hnanos⟩

/-- Where the wait has a fraction of a millisecond, the advice can be too short. At 60001 requests a
minute a caller who asks twice is advised to wait for no time at all, and is turned back again at
once. At 59 a minute a caller who asks again after sixteen milliseconds is advised to wait for a
second, and is turned back after it. -/
theorem advised_delays_too_short :
    let caller : Address := .v4 ⟨203, 0, 113, 9⟩
    let fast : Config.RateLimit := { noncePerMinute := 60001, burstSize := some 1 }
    let slow : Config.RateLimit := { noncePerMinute := 59, burstSize := some 1 }
    let asked settings : Limiter :=
      outcome Limiter.step (.create settings) [.check 0 caller .nonce]
    let again := (asked fast).check 0 caller .nonce
    let later := (asked slow).check 16000000 caller .nonce
    ({ rateLimit := fast } : Config).validate = .ok () ∧ again.1 = .ok (.error 999983) ∧
      Advises (Refusal.rateLimited (Limiter.retryAfterMillis 999983)).response 0 1 ∧
      (again.2.check (0 + 0 * nanosPerMilli) caller .nonce).1 = .ok (.error 999983) ∧
    ({ rateLimit := slow } : Config).validate = .ok () ∧ later.1 = .ok (.error 1000949152) ∧
      Advises (Refusal.rateLimited (Limiter.retryAfterMillis 1000949152)).response 1000 1 ∧
      (later.2.check (16000000 + 1 * nanosPerSecond) caller .nonce).1 = .ok (.error 949152) := by
  intro caller fast slow asked again later
  have hvalid : ({ rateLimit := fast } : Config).validate = .ok () ∧
      ({ rateLimit := slow } : Config).validate = .ok () := by
    decide +kernel
  have hagain : again.1 = .ok (.error 999983) ∧
      (again.2.check (0 + 0 * nanosPerMilli) caller .nonce).1 = .ok (.error 999983) := by
    decide +kernel
  have hlater : later.1 = .ok (.error 1000949152) ∧
      (later.2.check (16000000 + 1 * nanosPerSecond) caller .nonce).1 = .ok (.error 949152) := by
    decide +kernel
  have hfast : Advises (Refusal.rateLimited (Limiter.retryAfterMillis 999983)).response 0 1 := by
    have hmillis : Limiter.retryAfterMillis 999983 = 0 := by decide +kernel
    have hseconds : Refusal.retryAfterSeconds 0 = 1 := by decide +kernel
    rw [hmillis, ← hseconds]
    exact advises_rateLimited 0
  have hslow : Advises (Refusal.rateLimited (Limiter.retryAfterMillis 1000949152)).response
      1000 1 := by
    have hmillis : Limiter.retryAfterMillis 1000949152 = 1000 := by decide +kernel
    have hseconds : Refusal.retryAfterSeconds 1000 = 1 := by decide +kernel
    rw [hmillis, ← hseconds]
    exact advises_rateLimited 1000
  exact ⟨hvalid.1, hagain.1, hfast, hagain.2, hvalid.2, hlater.1, hslow, hlater.2⟩

end Enrollment.Gateway
