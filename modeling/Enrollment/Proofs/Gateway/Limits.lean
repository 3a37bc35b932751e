import Enrollment.Gateway.Session
import Enrollment.Proofs.Events
import Enrollment.Proofs.Gateway.Allowances

/-!
# Limits on callers

The limiter counts the requests of a caller for one of the two endpoints, whatever their method, and
nothing else. So among requests that a gateway handles at one moment, exactly the first burst of
those that a caller makes for an endpoint are let through, in whatever order they come among other
requests; the others are turned back without being served. The limiter and the endpoints tell paths
apart in the same way, so no request is served as one for a nonce or an account that was not checked
as such.
-/

namespace Enrollment

namespace Gateway

variable {settings : Config.RateLimit} {g : Gateway} {reading : Reading} {found : Circumstances}
  {r : Http.Request} {caller : Address} {c : EndpointClass}

/-! ## What is limited -/

/-- The rate of a class per minute, at least one. -/
def ratePerMinute (settings : Config.RateLimit) : EndpointClass → Nat
  | .nonce => max settings.noncePerMinute.toNat 1
  | .register => max settings.registerPerMinute.toNat 1

/-- How many requests of a class may come at once: as many as the burst size says, if it is set and
not zero, else as many as may come in a minute. -/
def burst (settings : Config.RateLimit) (c : EndpointClass) : Nat :=
  match settings.burstSize with
  | some n => if n = 0 then ratePerMinute settings c else n.toNat
  | none => ratePerMinute settings c

/-- Whether the allowances of new callers can be kept. -/
def AreKept (settings : Config.RateLimit) : Prop :=
  ∀ c, ((Limiter.create settings).quota c).isKept = true

/-- The caller of a request and the class that it counts for, if it is limited at all. -/
def limited? (settings : Config.RateLimit) (r : Http.Request) : Option (Address × EndpointClass) :=
  (EndpointClass.ofPath? r.path).bind fun c =>
    let caller := callerAddress settings.trustForwarded r
    if (Limiter.create settings).isExempt caller then none else some (caller, c)

theorem quota_burst (l : Limiter) (c : EndpointClass) : (l.quota c).burst = burst l.settings c := by
  have hburst (rate : UInt32) (size : Option UInt32) : (Quota.perMinute rate size).burst =
      match size with
      | some n => if n = 0 then max rate.toNat 1 else n.toNat
      | none => max rate.toNat 1 := by
    cases size with
    | none => rfl
    | some n =>
        have hzero : n.toNat = 0 ↔ n = 0 := by rw [← UInt32.toNat_inj]; rfl
        by_cases hn : n = 0 <;> simp [Quota.perMinute, Option.filter, hzero, hn]
  cases c <;> exact hburst _ _

theorem isExempt_eq (l : Limiter) (caller : Address) :
    l.isExempt caller = (Limiter.create l.settings).isExempt caller :=
  rfl

theorem isKept_of_areKept {l : Limiter} (hkept : AreKept l.settings) (c : EndpointClass) :
    (l.quota c).isKept = true := by
  have hc := hkept c
  cases c <;> exact hc

theorem quota_interval (l : Limiter) (c : EndpointClass) :
    (l.quota c).interval = Quota.minute / ratePerMinute l.settings c := by
  cases c <;> rfl

/-- What may come at once is all that may come in a minute, or a burst that is set. -/
theorem burst_eq (settings : Config.RateLimit) (c : EndpointClass) :
    burst settings c = ratePerMinute settings c ∨
      ∃ n, settings.burstSize = some n ∧ burst settings c = n.toNat := by
  cases hsize : settings.burstSize with
  | none => exact .inl (by simp only [burst, hsize])
  | some n =>
      by_cases hn : n = 0
      · exact .inl (by simp only [burst, hsize, if_pos hn])
      · exact .inr ⟨n, rfl, by simp only [burst, hsize, if_neg hn]⟩

/-- So many minutes fit in a word of nanoseconds, so allowances for bursts of no more requests can
be kept at every rate, and so they can if no burst is set. -/
theorem areKept_of_burst_le (hburst : ∀ n, settings.burstSize = some n → n.toNat ≤ 307445734) :
    AreKept settings := by
  intro c
  have hinterval := quota_interval (.create settings) c
  have hsize := quota_burst (.create settings) c
  have hfits : Quota.minute / ratePerMinute settings c * burst settings c ≤
      Quota.minute * 307445734 := by
    rcases burst_eq settings c with hrate | ⟨n, hn, hset⟩
    · rw [hrate]
      exact Nat.le_trans (Nat.div_mul_le_self _ _) (Nat.le_mul_of_pos_right _ (by decide))
    · rw [hset]
      exact Nat.mul_le_mul (Nat.div_le_self _ _) (hburst n hn)
  rw [Quota.isKept, decide_eq_true_eq, Quota.tolerance, hinterval, hsize]
  exact Nat.lt_of_le_of_lt hfits (by decide)

/-- The two limited classes are those of the two endpoints of registration. -/
theorem ofPath?_eq_iff (path : String) :
    (Endpoint.ofPath? path = some .nonce ↔ EndpointClass.ofPath? path = some .nonce) ∧
      (Endpoint.ofPath? path = some .register ↔ EndpointClass.ofPath? path = some .register) := by
  unfold Endpoint.ofPath? EndpointClass.ofPath?
  split_ifs <;> simp

/-! ## What the limiter's answer leads to -/

/-- Serves a request that the limiter lets through. -/
def letThrough (g : Gateway) (limiter : Limiter) (reading : Reading) (found : Circumstances)
    (r : Http.Request) : Except TimeOverflow Reply × Gateway :=
  let (handled, metrics) := { g with limiter }.serve reading found r
  (handled.answer.map fun response =>
      ⟨finish r response, handled.notice, none, TraceParent.ofRequest? r⟩,
    { g with
      registry := handled.registry, limiter
      metrics := counted found.latencyMillis metrics handled.answer })

/-- Answers a request that the limiter does not let through. Of the gateway only the counts matter.
-/
def turnBack (g : Gateway) (limiter : Limiter) (found : Circumstances) (r : Http.Request)
    (wait : Nat) (limited : Address × EndpointClass) : Except TimeOverflow Reply × Gateway :=
  let response := (Refusal.rateLimited (Limiter.retryAfterMillis wait)).response
  (.ok ⟨finish r response, none, some limited, TraceParent.ofRequest? r⟩,
    { g with
      limiter, metrics := g.metrics.countRateLimited.record response.status found.latencyMillis })

theorem handle_eq (g : Gateway) (reading : Reading) (found : Circumstances) (r : Http.Request) :
    g.handle reading found r =
      match g.checkRate found.now r with
      | (.error e, limiter) => (.error e, { g with limiter })
      | (.ok (some (wait, limited)), limiter) => g.turnBack limiter found r wait limited
      | (.ok none, limiter) => g.letThrough limiter reading found r :=
  rfl

theorem handle_of_passed (hpassed : (g.checkRate found.now r).1 = .ok none) (reading : Reading) :
    g.handle reading found r = g.letThrough (g.checkRate found.now r).2 reading found r := by
  rw [handle_eq]
  generalize g.checkRate found.now r = checked at hpassed
  obtain ⟨result, limiter⟩ := checked
  obtain rfl : result = .ok none := hpassed
  rfl

theorem handle_of_limited {wait : Nat} {limited : Address × EndpointClass}
    (hlimited : (g.checkRate found.now r).1 = .ok (some (wait, limited))) (reading : Reading) :
    g.handle reading found r = g.turnBack (g.checkRate found.now r).2 found r wait limited := by
  rw [handle_eq]
  generalize g.checkRate found.now r = checked at hlimited
  obtain ⟨result, limiter⟩ := checked
  obtain rfl : result = .ok (some (wait, limited)) := hlimited
  rfl

theorem status_finish (r : Http.Request) (response : Http.Response) :
    (finish r response).status = response.status := by
  unfold finish
  split
  · unfold Endpoint.finish
    split_ifs <;> rfl
  · rfl

/-- A request that is turned back is answered with the status for too many requests. -/
theorem status_turnBack (g : Gateway) (limiter : Limiter) (found : Circumstances) (r : Http.Request)
    (wait : Nat) (limited : Address × EndpointClass) :
    ∃ reply, (g.turnBack limiter found r wait limited).1 = .ok reply ∧
      reply.response.status = 429 ∧ reply.limited = some limited :=
  ⟨_, rfl, status_finish r _, rfl⟩

theorem limiter_handle (g : Gateway) (reading : Reading) (found : Circumstances)
    (r : Http.Request) :
    (g.handle reading found r).2.limiter = (g.checkRate found.now r).2 := by
  rw [handle_eq]
  rcases g.checkRate found.now r with ⟨_ | _ | _, limiter⟩ <;> rfl

theorem checkRate_of_unlimited (hunlimited : limited? g.limiter.settings r = none) (now : Nat) :
    g.checkRate now r = (.ok none, g.limiter) := by
  unfold checkRate
  unfold limited? at hunlimited
  split
  next => rfl
  next c hc =>
    rw [hc, Option.bind_some] at hunlimited
    dsimp only at hunlimited
    split at hunlimited
    next hexempt => simp [Limiter.check, isExempt_eq g.limiter, hexempt, Except.map]
    next => cases hunlimited

theorem checkRate_of_limited (hlimited : limited? g.limiter.settings r = some (caller, c))
    (now : Nat) : g.limiter.isExempt caller = false ∧ g.checkRate now r =
      ((g.limiter.check now caller c).1.map fun
        | .ok () => none
        | .error wait => some (wait, caller, c), (g.limiter.check now caller c).2) := by
  obtain ⟨c', hc, hcaller⟩ := Option.bind_eq_some_iff.mp hlimited
  dsimp only at hcaller
  split at hcaller
  next => cases hcaller
  next hexempt =>
    cases hcaller
    refine ⟨(isExempt_eq g.limiter _).trans (by simpa using hexempt), ?_⟩
    unfold checkRate
    split
    next hother => cases hc.symm.trans hother
    next c' hc' =>
      obtain rfl := Option.some.inj (hc.symm.trans hc')
      rfl

/-! ## Runs at one moment -/

/-- The limited requests among actions, each as its caller and class. -/
def asked (settings : Config.RateLimit) (actions : List Action) : List (Address × EndpointClass) :=
  actions.filterMap fun
    | .request _ r => limited? settings r
    | _ => none

/-- All requests among actions find the limiter's clock at the same time. -/
def AllAt (now : Nat) (actions : List Action) : Prop :=
  ∀ found r, .request found r ∈ actions → found.now = now

namespace Session

open Limiter (Tracks)

variable {s : Session} {before : List (Address × EndpointClass)} {now : Nat}

theorem asked_append (first second : List Action) :
    asked settings (first ++ second) = asked settings first ++ asked settings second :=
  List.filterMap_append

/-- An action leaves a limiter that has kept count of it, too. -/
theorem tracks_step (hkept : AreKept settings)
    (h : Tracks settings now before s.gateway.limiter) {action : Action}
    (hnow : AllAt now [action]) :
    Tracks settings now (before ++ asked settings [action]) (s.step action).2.gateway.limiter := by
  cases action with
  | sweep =>
      have hlimiter : (s.step .sweep).2.gateway.limiter = s.gateway.limiter := by
        simp only [step, sweep]
        split <;> rfl
      rw [hlimiter]
      simpa [asked] using h
  | advance span => simpa [asked, step] using h
  | request found r =>
      obtain rfl := hnow found r List.mem_cons_self
      have hlimiter : (s.step (.request found r)).2.gateway.limiter =
          (s.gateway.checkRate found.now r).2 := limiter_handle _ _ _ _
      rw [hlimiter]
      cases hr : limited? settings r with
      | none =>
          rw [checkRate_of_unlimited (h.settings_eq ▸ hr)]
          simpa [asked, hr] using h
      | some limited =>
          obtain ⟨caller, c⟩ := limited
          obtain ⟨hexempt, hcheck⟩ := checkRate_of_limited (h.settings_eq ▸ hr) found.now
          rw [hcheck]
          have hasked : asked settings [.request found r] = [(caller, c)] := by simp [asked, hr]
          rw [hasked]
          have hkept' := isKept_of_areKept (h.settings_eq.symm ▸ hkept)
          exact (h.check hkept' hexempt c).2

theorem tracks_outcome (hkept : AreKept settings)
    (h : Tracks settings now before s.gateway.limiter) {actions : List Action}
    (hnow : AllAt now actions) :
    Tracks settings now (before ++ asked settings actions)
      (outcome step s actions).gateway.limiter := by
  induction actions generalizing s before with
  | nil => simpa [asked] using h
  | cons action actions ih =>
      have hfirst : AllAt now [action] := fun found r hmem =>
        hnow found r (List.mem_cons.mpr (Or.inl (List.mem_singleton.mp hmem)))
      have hrest : AllAt now actions := fun found r hmem =>
        hnow found r (List.mem_cons_of_mem action hmem)
      have hasked : before ++ asked settings (action :: actions) =
          before ++ asked settings [action] ++ asked settings actions := by
        rw [List.append_assoc, ← asked_append, List.singleton_append]
      rw [hasked, outcome_cons]
      exact ih (tracks_step hkept h hfirst) hrest

/-- A request is let through or turned back by how often its caller has made such requests. -/
theorem handle_of_tracks (hkept : AreKept settings)
    (h : Tracks settings found.now before g.limiter) (reading : Reading) (r : Http.Request) :
    g.handle reading found r =
      match limited? settings r with
      | none => g.letThrough g.limiter reading found r
      | some (caller, c) =>
          let limiter := (g.limiter.check found.now caller c).2
          if before.count (caller, c) < burst settings c then
            g.letThrough limiter reading found r
          else
            g.turnBack limiter found r ((Limiter.create settings).quota c).interval
              (caller, c) := by
  obtain rfl := h.settings_eq
  rw [handle_eq]
  cases hr : limited? g.limiter.settings r with
  | none => rw [checkRate_of_unlimited hr]
  | some limited =>
      obtain ⟨caller, c⟩ := limited
      obtain ⟨hexempt, hcheck⟩ := checkRate_of_limited hr found.now
      obtain ⟨hanswer, -⟩ := h.check (isKept_of_areKept hkept) hexempt c
      rw [hcheck, hanswer, quota_burst]
      by_cases hpasses : before.count (caller, c) < burst g.limiter.settings c
      · simp only [hpasses, if_true, Except.map]
      · simp only [hpasses, if_false, Except.map]
        rfl

end Session

/-- Of the requests that a gateway handles at one moment, those that are not limited are let through
and leave the limiter as it is; of the others the first burst of each caller and class are let
through, and all later ones are turned back. The limiter then knows the callers of limited requests.
Whether a request is limited and for whom does not depend on what a proxy passes on, unless a proxy
is trusted. -/
theorem bursts_let_through {s : Session} {settings : Config.RateLimit} {now : Nat}
    {actions : List Action} (hfresh : s.gateway.limiter = .create settings)
    (hkept : AreKept settings) (hnow : AllAt now actions) :
    (∀ before found r after, actions = before ++ .request found r :: after →
      let s' := outcome Session.step s before
      let g := s'.gateway
      g.handle s'.clock.read found r =
        match limited? settings r with
        | none => g.letThrough g.limiter s'.clock.read found r
        | some (caller, c) =>
            let limiter := (g.limiter.check now caller c).2
            if (asked settings before).count (caller, c) < burst settings c then
              g.letThrough limiter s'.clock.read found r
            else
              g.turnBack limiter found r ((Limiter.create settings).quota c).interval (caller, c)) ∧
      (outcome Session.step s actions).gateway.limiter.size =
        ((asked settings actions).map Prod.fst).dedup.length ∧
      (∀ (g : Gateway) limiter found r wait limited, ∃ reply,
        (g.turnBack limiter found r wait limited).1 = .ok reply ∧ reply.response.status = 429) ∧
      (∀ path, (Endpoint.ofPath? path = some .nonce ↔ EndpointClass.ofPath? path = some .nonce) ∧
        (Endpoint.ofPath? path = some .register ↔
          EndpointClass.ofPath? path = some .register)) ∧
      (settings.trustForwarded = false → ∀ r r' : Http.Request, r.path = r'.path →
        r.peer = r'.peer → limited? settings r = limited? settings r') := by
  have htracks (actions : List Action) (hnow : AllAt now actions) :
      Limiter.Tracks settings now (asked settings actions)
        (outcome Session.step s actions).gateway.limiter := by
    have hstart := hfresh ▸ Limiter.tracks_create settings now
    simpa using Session.tracks_outcome hkept hstart hnow
  refine ⟨fun before found r after hactions => ?_, (htracks actions hnow).size_eq,
    fun g limiter found r wait limited => ?_, ofPath?_eq_iff, fun htrust r r' hpath hpeer => ?_⟩
  · obtain rfl := hnow found r (by simp [hactions])
    refine Session.handle_of_tracks hkept (htracks before fun found' r' hmem => ?_) _ r
    exact hnow found' r' (by simp [hactions, hmem])
  · obtain ⟨reply, hreply, hstatus, -⟩ := g.status_turnBack limiter found r wait limited
    exact ⟨reply, hreply, hstatus⟩
  · simp [limited?, callerAddress, htrust, peerAddress, hpath, hpeer]

/-- Two requests of a caller for a nonce pass, and the third is turned back, whoever else asks and
whatever else is asked for. -/
theorem third_of_burst_turned_back :
    let settings : Config.RateLimit := { burstSize := some 2 }
    let start : Session := ⟨.start, ⟨{ rateLimit := settings }, none, .create settings, {}⟩⟩
    let found : Circumstances := ⟨0, "n", default, 0, 0⟩
    let alice : Address := .v4 ⟨1, 2, 3, 4⟩
    let ask (path : String) (peer : Address) : Http.Request :=
      ⟨"GET", path, [], [], some peer, .zero⟩
    let before : List Action := [.request found (ask Wire.noncePath alice),
      .request found (ask Wire.noncePath (.v4 ⟨5, 6, 7, 8⟩)), .sweep,
      .request found (ask Wire.registerPath alice), .request found (ask Wire.noncePath alice)]
    let r := ask Wire.noncePath alice
    let s := outcome Session.step start before
    AreKept settings ∧ AllAt 0 (before ++ [.request found r]) ∧
      s.gateway.handle s.clock.read found r =
        s.gateway.turnBack (s.gateway.limiter.check 0 alice .nonce).2 found r (Quota.minute / 3)
          (alice, .nonce) ∧
      (outcome Session.step start (before ++ [.request found r])).gateway.limiter.size = 2 := by
  intro settings start found alice ask before r s
  have hkept : AreKept settings := by rintro (_ | _) <;> decide +kernel
  have hnow : AllAt 0 (before ++ [.request found r]) := by
    intro found' r' hmem
    simp only [before, List.cons_append, List.nil_append, List.mem_cons, List.not_mem_nil,
      Action.request.injEq, reduceCtorEq, or_false, false_or] at hmem
    rcases hmem with ⟨rfl, -⟩ | ⟨rfl, -⟩ | ⟨rfl, -⟩ | ⟨rfl, -⟩ | ⟨rfl, -⟩ <;> rfl
  obtain ⟨hrequests, hsize, -⟩ := bursts_let_through (s := start) rfl hkept hnow
  refine ⟨hkept, hnow, ?_, hsize.trans (by decide +kernel)⟩
  have hlimited : limited? settings r = some (alice, .nonce) := by decide +kernel
  have hspent : ¬ (asked settings before).count (alice, .nonce) < burst settings .nonce := by
    decide +kernel
  have hlast := hrequests before found r [] rfl
  dsimp only at hlast
  rw [hlimited] at hlast
  dsimp only at hlast
  rw [if_neg hspent] at hlast
  exact hlast

/-- Where an allowance does not fit in a word of nanoseconds, no limited request is answered, and
none changes anything. -/
theorem unanswered_of_unkept {g : Gateway} {settings : Config.RateLimit}
    (hfresh : g.limiter = .create settings) (hunkept : ¬ AreKept settings)
    (hlimited : limited? settings r ≠ none) : g.handle reading found r = (.error .nanos, g) := by
  obtain ⟨⟨caller, c⟩, hr⟩ := Option.ne_none_iff_exists'.mp hlimited
  have hsettings : g.limiter.settings = settings := by rw [hfresh]; rfl
  obtain ⟨hexempt, hcheck⟩ := checkRate_of_limited (hsettings.symm ▸ hr) found.now
  have hunkept' : ∃ c, (g.limiter.quota c).isKept = false := by
    simpa [AreKept, hfresh] using hunkept
  rw [handle_eq, hcheck, Limiter.check_of_unkept (by rw [hfresh]; rfl) hunkept' hexempt]
  rfl

/-- Valid settings may ask for a burst that does not fit: then the first request of a caller, of a
burst of three hundred million, gets no answer and no bucket. -/
theorem first_of_burst_unanswered :
    let settings : Config.RateLimit := { noncePerMinute := 1, burstSize := some 307445735 }
    let start : Session := ⟨.start, ⟨{ rateLimit := settings }, none, .create settings, {}⟩⟩
    let found : Circumstances := ⟨0, "n", default, 0, 0⟩
    let r : Http.Request := ⟨"GET", Wire.noncePath, [], [], some (.v4 ⟨1, 2, 3, 4⟩), .zero⟩
    start.gateway.config.validate = .ok () ∧
      limited? settings r = some (.v4 ⟨1, 2, 3, 4⟩, .nonce) ∧
      (asked settings []).count (.v4 ⟨1, 2, 3, 4⟩, .nonce) < burst settings .nonce ∧
      start.gateway.handle start.clock.read found r = (.error .nanos, start.gateway) := by
  intro settings start found r
  have hlimited : limited? settings r = some (.v4 ⟨1, 2, 3, 4⟩, .nonce) := by decide +kernel
  have hunkept : ¬ AreKept settings := fun hkept => by
    have hnonce : ((Limiter.create settings).quota .nonce).isKept = false := by decide +kernel
    exact Bool.eq_false_iff.mp hnonce (hkept .nonce)
  refine ⟨by decide +kernel, hlimited, by decide +kernel, ?_⟩
  exact unanswered_of_unkept rfl hunkept (by rw [hlimited]; exact Option.some_ne_none _)

end Gateway

end Enrollment
