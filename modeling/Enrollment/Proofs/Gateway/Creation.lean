import Enrollment.Proofs.Gateway.Handling
import Enrollment.Proofs.Gateway.Refusals

/-!
# Starting with valid settings

A gateway starts exactly with valid settings, and any others are reported by the first rule that
they break. Whatever is put in place of settings that cannot be used, a capacity of no nonces, a number
that is no status, a rate of no requests, is never needed then: a gateway runs as its settings say,
for as long as it runs.
-/

namespace Enrollment

namespace Gateway

/-- The quota of a class as settings say, with nothing in place of a zero. -/
def quotaAsSet (settings : Config.RateLimit) (k : EndpointClass) : Quota :=
  let rate := match k with
    | .nonce => settings.noncePerMinute.toNat
    | .register => settings.registerPerMinute.toNat
  ⟨Quota.minute / rate, (settings.burstSize.map UInt32.toNat).getD rate⟩

/-- The registry of a gateway that has just started, as settings say. -/
def registryAsSet (settings : Config.Registration) (secret : Secret) : Registry :=
  .create ⟨settings.nonceLifetime, settings.maxOutstandingNonces.toNat, [], none, {}⟩ secret
    (.create settings.serverName settings.tokenLifetime)

variable {c : Config} {g : Gateway} {reading : Reading} {found : Circumstances} {r : Http.Request}

/-! ## Starting -/

theorem create_of_violation {v : Config.Violation} (hinvalid : c.validate = .error v) :
    create c = .error (.config (.violation v)) := by
  simp [create, hinvalid]

theorem create_of_disabled (hvalid : c.validate = .ok ())
    (hdisabled : c.registration.enabled = false) :
    create c = .ok ⟨c, none, .create c.rateLimit, {}⟩ := by
  simp [create, hvalid, hdisabled, bind, Except.bind]

theorem toNat_pos_of_ne {n : UInt64} (hn : n ≠ 0) : 0 < n.toNat := by
  rw [Nat.pos_iff_ne_zero]
  exact fun h => hn (UInt64.toNat_inj.mp h)

/-- The registry has the capacity that is set, as no ledger for no nonces is ever asked for. -/
theorem createRegistry_of_valid {settings : Config.Registration} {secret : Secret}
    (hvalid : settings.IsValid) (hsecret : settings.secret = .ok secret) :
    createRegistry settings = .ok (registryAsSet settings secret) := by
  have hcapacity : max settings.maxOutstandingNonces.toNat 1 =
      settings.maxOutstandingNonces.toNat :=
    Nat.max_eq_left (toNat_pos_of_ne hvalid.maxOutstandingNonces)
  simp [createRegistry, hsecret, Ledger.create, hvalid.nonceLifetime, bind, Except.bind,
    Ledger.withCapacity, hcapacity, registryAsSet]

theorem create_of_enabled (hvalid : c.validate = .ok ())
    (henabled : c.registration.enabled = true) :
    ∃ secret, c.registration.secret = .ok secret ∧
      create c = .ok ⟨c, some (registryAsSet c.registration secret), .create c.rateLimit, {}⟩ := by
  have hrules := (Config.validate_eq_ok_iff.mp hvalid).registration
  obtain ⟨secret, hsecret⟩ := hrules.secret henabled
  refine ⟨secret, hsecret, ?_⟩
  simp [create, hvalid, henabled, createRegistry_of_valid hrules hsecret, bind, Except.bind]

/-- What a gateway starts with. -/
theorem exists_started (hvalid : c.validate = .ok ()) :
    ∃ given, create c = .ok ⟨c, given, .create c.rateLimit, {}⟩ ∧
      given.isSome = c.registration.enabled ∧
      ∀ registry, given = some registry →
        ∃ secret, c.registration.secret = .ok secret ∧
          registry = registryAsSet c.registration secret := by
  cases henabled : c.registration.enabled with
  | false => exact ⟨none, create_of_disabled hvalid henabled, rfl, fun _ h => nomatch h⟩
  | true =>
      obtain ⟨secret, hsecret, hcreate⟩ := create_of_enabled hvalid henabled
      refine ⟨_, hcreate, rfl, fun registry hregistry => ⟨secret, hsecret, ?_⟩⟩
      exact (Option.some.inj hregistry).symm

/-- Valid settings ask for a status that is one. -/
theorem denialStatus_of_valid (hvalid : g.config.validate = .ok ()) :
    g.denialStatus = g.config.registration.denialStatus := by
  obtain ⟨hlow, hhigh⟩ := (Config.validate_eq_ok_iff.mp hvalid).registration.denialStatus
  refine if_pos ?_
  rw [Http.isStatus, Bool.and_eq_true, decide_eq_true_eq, decide_eq_true_eq]
  exact ⟨UInt16.le_trans (by decide) hlow, UInt16.le_trans hhigh (by decide)⟩

theorem perMinute_of_set {rate : UInt32} {burst : Option UInt32} (hrate : rate ≠ 0)
    (hburst : burst ≠ some 0) : Quota.perMinute rate burst =
      ⟨Quota.minute / rate.toNat, (burst.map UInt32.toNat).getD rate.toNat⟩ := by
  have hpositive {n : UInt32} (hn : n ≠ 0) : n.toNat ≠ 0 := fun h => hn (UInt32.toNat_inj.mp h)
  have hmax : max rate.toNat 1 = rate.toNat :=
    Nat.max_eq_left (Nat.pos_iff_ne_zero.mpr (hpositive hrate))
  cases burst with
  | none => simp only [Quota.perMinute, hmax, Option.map_none, Option.filter_none]
  | some n =>
      have hn : n.toNat ≠ 0 := hpositive fun h => hburst (congrArg some h)
      simp [Quota.perMinute, hmax, Option.filter, hn]

/-- Valid settings ask for rates and bursts that are none of them zero. -/
theorem quota_of_valid (hvalid : c.validate = .ok ()) {l : Limiter}
    (hsettings : l.settings = c.rateLimit) (k : EndpointClass) :
    l.quota k = quotaAsSet c.rateLimit k := by
  have hrules := Config.validate_eq_ok_iff.mp hvalid
  cases k with
  | nonce =>
      rw [Limiter.quota, hsettings, perMinute_of_set hrules.noncePerMinute hrules.burstSize]
      rfl
  | register =>
      rw [Limiter.quota, hsettings, perMinute_of_set hrules.registerPerMinute hrules.burstSize]
      rfl

/-! ## Running -/

theorem registry_dispatch_of_disabled (hdisabled : g.registry = none) :
    (g.dispatch reading found r).registry = none := by
  unfold dispatch
  split
  · exact hdisabled
  · split
    · exact hdisabled
    next endpoint _ =>
      split
      · cases endpoint <;> simp [serveEndpoint, serveNonce, serveAttempt, refuse, hdisabled]
      · exact hdisabled

theorem registry_handle_of_disabled (hdisabled : g.registry = none) :
    (g.handle reading found r).2.registry = none := by
  cases hcourse : g.course found.now r with
  | unchecked e =>
      rw [handle_of_unchecked hcourse]
      exact hdisabled
  | turnedBack wait limited =>
      rw [handle_of_turnedBack hcourse]
      exact hdisabled
  | cutOff =>
      rw [handle_of_cutOff hcourse]
      exact hdisabled
  | served =>
      rw [handle_of_served hcourse]
      exact registry_dispatch_of_disabled (g := g.afterCheck found.now r) hdisabled

namespace Session

variable {s : Session}

/-- Registration that is disabled stays disabled. -/
theorem registry_step_of_disabled (hdisabled : s.gateway.registry = none) (action : Action) :
    (s.step action).2.gateway.registry = none := by
  cases action with
  | request found r => exact registry_handle_of_disabled hdisabled
  | sweep => simp only [step, sweep, hdisabled]
  | advance span => exact hdisabled

/-- Registration that is enabled stays enabled, with the settings of its ledger. -/
theorem exists_registry_step {registry : Registry} (hregistry : s.gateway.registry = some registry)
    (action : Action) : ∃ registry', (s.step action).2.gateway.registry = some registry' ∧
      registry'.ledger.settings = registry.ledger.settings := by
  have ht : s.registration? = some ⟨s.clock, registry⟩ := by
    rw [registration?, hregistry]
    rfl
  rcases step_atMostOneCall ht action with hsame | ⟨call, -, hcall⟩
  · obtain ⟨registry', hregistry', hsame⟩ := Option.map_eq_some_iff.mp hsame
    exact ⟨registry', hregistry', congrArg (·.registry.ledger.settings) hsame⟩
  · obtain ⟨registry', hregistry', hcall⟩ := Option.map_eq_some_iff.mp hcall
    exact ⟨registry', hregistry', (congrArg (·.registry.ledger.settings) hcall).trans
      (Registry.Session.ledgerSettings_outcome ⟨s.clock, registry⟩ [call])⟩

/-- What a gateway that started with valid settings keeps to: registration is there exactly if it is
enabled, and the ledger and the limiter are those that are set. -/
structure RunsAsSet (c : Config) (s : Session) : Prop where
  config_eq : s.gateway.config = c
  isSome_registry : s.gateway.registry.isSome = c.registration.enabled
  capacity_eq : ∀ registry, s.gateway.registry = some registry →
    registry.ledger.capacity = c.registration.maxOutstandingNonces.toNat
  rates_eq : s.gateway.limiter.settings = c.rateLimit

theorem RunsAsSet.step (h : RunsAsSet c s) (action : Action) : RunsAsSet c (s.step action).2 := by
  have hconfig := (config_step s action).trans h.config_eq
  have hrates := (settings_step s action).trans h.rates_eq
  cases hregistry : s.gateway.registry with
  | none =>
      have hnone := registry_step_of_disabled hregistry action
      refine ⟨hconfig, ?_, fun registry hsome => ?_, hrates⟩
      · rw [hnone, ← h.isSome_registry, hregistry]
      · cases hsome.symm.trans hnone
  | some registry =>
      obtain ⟨registry', hregistry', hsettings⟩ := exists_registry_step hregistry action
      refine ⟨hconfig, ?_, fun registry'' hsome => ?_, hrates⟩
      · rw [hregistry', ← h.isSome_registry, hregistry]
        rfl
      · obtain rfl := Option.some.inj (hregistry'.symm.trans hsome)
        exact (congrArg Prod.snd hsettings).trans (h.capacity_eq registry hregistry)

theorem RunsAsSet.outcome (h : RunsAsSet c s) (actions : List Action) :
    RunsAsSet c (outcome Session.step s actions) :=
  outcome_induction (motive := RunsAsSet c) (fun _ action h => h.step action) h actions

theorem runsAsSet_of_create (hvalid : c.validate = .ok ()) (hcreate : create c = .ok g)
    (clock : Clock) : RunsAsSet c ⟨clock, g⟩ := by
  obtain ⟨given, hstarted, henabled, hregistry⟩ := exists_started hvalid
  obtain rfl := Except.ok.inj (hstarted.symm.trans hcreate)
  refine ⟨rfl, henabled, fun registry hsome => ?_, rfl⟩
  obtain ⟨secret, -, rfl⟩ := hregistry registry hsome
  rfl

end Session

/-! ## Denials -/

/-- The request is an attempt that comes as far as the registry and is denied there. -/
structure IsDenied (g : Gateway) (reading : Reading) (found : Circumstances) (r : Http.Request) :
    Prop where
  served : g.course found.now r = .served
  path_eq : r.path = Wire.registerPath
  method_eq : r.method = "POST"
  unannounced : announcesTooMuch g.config.limits.maxRequestSize r = false
  denied : ∃ registry request verdict, g.registry = some registry ∧
    readAttempt g.config.limits.maxRequestSize r = .ok request ∧
    (registry.register reading request.attempt found.drawn).1 = .ok verdict ∧
    verdict.answer = .error .denied

theorem exists_reply_of_isDenied (h : g.IsDenied reading found r) :
    ∃ reply, (g.handle reading found r).1 = .ok reply ∧
      reply.response = (Refusal.denied g.denialStatus).response ∧ reply.notice ≠ none := by
  obtain ⟨registry, request, verdict, hregistry, hread, hverdict, hanswer⟩ := h.denied
  have hserve : g.dispatched reading found r =
      ⟨.ok (Refusal.denied g.denialStatus).response, verdict.notice,
        some (registry.register reading request.attempt found.drawn).2⟩ := by
    unfold dispatched
    rw [dispatch_of_allowed (g := g.afterCheck found.now r) h.path_eq
        (register_allows_iff.mpr h.method_eq) h.unannounced,
      serveAttempt_of_read (g := g.afterCheck found.now r) hregistry hread, hverdict]
    simp only [Except.map, hanswer]
    rfl
  rw [handle_of_served h.served, hserve]
  refine ⟨_, rfl, finish_of_attempt h.path_eq h.method_eq _, ?_⟩
  exact (Registry.notice_ne_none_iff hverdict).mpr hanswer

theorem notice_serveNonce (g : Gateway) (reading : Reading) (found : Circumstances) :
    (g.serveNonce reading found).notice = none := by
  cases hregistry : g.registry with
  | none => simp only [serveNonce, hregistry, refuse]
  | some registry => rw [serveNonce_eq hregistry]

theorem path_eq_of_register (hendpoint : Endpoint.ofPath? r.path = some .register) :
    r.path = Wire.registerPath := by
  unfold Endpoint.ofPath? at hendpoint
  split_ifs at hendpoint <;> simp_all

/-- Nothing else that is served is told to the log. -/
theorem attempts_of_notice_dispatch (hnotice : (g.dispatch reading found r).notice ≠ none) :
    r.path = Wire.registerPath ∧ r.method = "POST" ∧
      announcesTooMuch g.config.limits.maxRequestSize r = false := by
  unfold dispatch at hnotice
  cases hannounced : announcesTooMuch g.config.limits.maxRequestSize r with
  | true => simp [hannounced] at hnotice
  | false =>
      cases hendpoint : Endpoint.ofPath? r.path with
      | none => simp [hannounced, hendpoint, refuse] at hnotice
      | some e =>
          cases hallowed : e.allows r.method with
          | false => simp [hannounced, hendpoint, hallowed] at hnotice
          | true =>
              simp only [hannounced, hendpoint, hallowed, Bool.false_eq_true, if_false, if_true]
                at hnotice
              cases e with
              | nonce => exact absurd (notice_serveNonce g reading found) hnotice
              | register =>
                  exact ⟨path_eq_of_register hendpoint, register_allows_iff.mp hallowed, rfl⟩
              | health => exact absurd rfl hnotice
              | metrics => exact absurd rfl hnotice

theorem denied_of_notice_serveAttempt {response : Http.Response}
    (hanswer : (g.serveAttempt reading found r).answer = .ok response)
    (hnotice : (g.serveAttempt reading found r).notice ≠ none) :
    ∃ registry request verdict, g.registry = some registry ∧
      readAttempt g.config.limits.maxRequestSize r = .ok request ∧
      (registry.register reading request.attempt found.drawn).1 = .ok verdict ∧
      verdict.answer = .error .denied := by
  cases hregistry : g.registry with
  | none => simp [serveAttempt, hregistry, refuse] at hnotice
  | some registry =>
      cases hread : readAttempt g.config.limits.maxRequestSize r with
      | error refusal =>
          rw [serveAttempt_of_unread hregistry hread] at hnotice
          exact absurd rfl hnotice
      | ok request =>
          rw [serveAttempt_of_read hregistry hread] at hanswer hnotice
          obtain ⟨verdict, hverdict, -⟩ := Config.map_eq_ok_iff.mp hanswer
          simp only [hverdict, logged] at hnotice
          exact ⟨registry, request, verdict, rfl, rfl, hverdict,
            (Registry.notice_ne_none_iff hverdict).mp hnotice⟩

theorem isDenied_of_notice {reply : Reply} (hreply : (g.handle reading found r).1 = .ok reply)
    (hnotice : reply.notice ≠ none) : g.IsDenied reading found r := by
  rcases exists_of_handle hreply with ⟨wait, limited, -, -, hnone⟩ | ⟨-, -, hnone⟩ |
    ⟨hserved, response, hanswer, -, hdispatched⟩
  · exact absurd hnone hnotice
  · exact absurd hnone hnotice
  · let checked := g.afterCheck found.now r
    rw [hdispatched] at hnotice
    obtain ⟨hpath, hmethod, hannounced⟩ := attempts_of_notice_dispatch (g := checked) hnotice
    have hattempt : g.dispatched reading found r = checked.serveAttempt reading found r :=
      dispatch_of_allowed (g := checked) hpath (register_allows_iff.mpr hmethod) hannounced
    rw [hattempt] at hanswer hnotice
    exact ⟨hserved, hpath, hmethod, hannounced,
      denied_of_notice_serveAttempt (g := checked) hanswer hnotice⟩

/-- A gateway starts exactly with valid settings, and any others are reported by the rule that
validation reports. Once it has started, its secret is at hand and its ledger can be made if
registration is enabled, and then there is a registry. And whatever happens to it, it runs as its
settings say: its ledger has room for as many nonces as are set, its callers have the rates and the
bursts that are set, and the attempts that the log tells of are those that are denied, each answered
with the status that is set. -/
theorem creation_agrees_with_validation (c : Config) :
    ((∃ g, create c = .ok g) ↔ c.validate = .ok ()) ∧
      (∀ e, create c = .error e ↔ ∃ v, c.validate = .error v ∧ e = .config (.violation v)) ∧
      ∀ g, create c = .ok g →
        (c.registration.enabled = true → ∃ secret ledger, c.registration.secret = .ok secret ∧
          Ledger.create c.registration.nonceLifetime = .ok ledger) ∧
        ∀ clock actions,
          let s := outcome Session.step ⟨clock, g⟩ actions
          Session.RunsAsSet c s ∧
            (∀ k, s.gateway.limiter.quota k = quotaAsSet c.rateLimit k) ∧
            s.gateway.denialStatus = c.registration.denialStatus ∧
            ∀ found r,
              (s.gateway.IsDenied s.clock.read found r → ∃ reply,
                (s.gateway.handle s.clock.read found r).1 = .ok reply ∧ reply.notice ≠ none ∧
                  reply.response = (Refusal.denied c.registration.denialStatus).response) ∧
              ∀ reply, (s.gateway.handle s.clock.read found r).1 = .ok reply →
                reply.notice ≠ none → s.gateway.IsDenied s.clock.read found r := by
  cases hvalid : c.validate with
  | error v =>
      have hcreate := create_of_violation hvalid
      refine ⟨?_, fun e => ?_, fun g hg => ?_⟩
      · simp [hcreate]
      · simp [hcreate, eq_comm]
      · cases hcreate.symm.trans hg
  | ok _ =>
      obtain ⟨given, hstarted, -, hregistry⟩ := exists_started hvalid
      refine ⟨by simp [hstarted], by simp [hstarted], fun g hcreate => ⟨fun henabled => ?_, ?_⟩⟩
      · have hrules := (Config.validate_eq_ok_iff.mp hvalid).registration
        obtain ⟨secret, hsecret⟩ := hrules.secret henabled
        exact ⟨secret, _, hsecret, if_neg (Bool.eq_false_iff.mp hrules.nonceLifetime)⟩
      · intro clock actions s
        have hruns : Session.RunsAsSet c s :=
          (Session.runsAsSet_of_create hvalid hcreate clock).outcome actions
        have hstatus : s.gateway.denialStatus = c.registration.denialStatus := by
          rw [denialStatus_of_valid (by rw [hruns.config_eq, hvalid]), hruns.config_eq]
        refine ⟨hruns, quota_of_valid hvalid hruns.rates_eq, hstatus, fun found r =>
          ⟨fun hdenied => ?_, fun reply hreply hnotice => isDenied_of_notice hreply hnotice⟩⟩
        obtain ⟨reply, hreply, hresponse, hnotice⟩ := exists_reply_of_isDenied hdenied
        exact ⟨reply, hreply, hnotice, hstatus ▸ hresponse⟩

/-- With the least rates and bursts that are valid, room for one nonce and the greatest status, an
attempt with a nonce that was never handed out is denied with that status, after another caller
asked twice for a nonce. -/
theorem denied_with_greatest_status :
    let rates : Config.RateLimit :=
      { noncePerMinute := 1, registerPerMinute := 1, burstSize := some 1 }
    let least : Config.Registration :=
      { enabled := true, sharedSecret := some "abc", maxOutstandingNonces := 1 }
    let c : Config := { rateLimit := rates, registration := { least with denialStatus := 499 } }
    let found : Circumstances := ⟨0, "n", default, 0, 0⟩
    let ask : Action := .request found ⟨"GET", Wire.noncePath, [], [], some .localhost, .zero⟩
    let r : Http.Request := ⟨"POST", Wire.registerPath,
      [("content-type", Utf8.encode "application/json")], Utf8.encode (Wire.registerRequest.render
        ⟨"m", "alice", "pw", false, none, none, ""⟩), some (.v4 ⟨1, 2, 3, 4⟩), .zero⟩
    ∃ g, create c = .ok g ∧
      let s := outcome Session.step ⟨.start, g⟩ [ask, ask]
      s.gateway.registry.isSome = true ∧
        (∀ registry, s.gateway.registry = some registry → registry.ledger.capacity = 1) ∧
        ∃ reply, (s.gateway.handle s.clock.read found r).1 = .ok reply ∧
          reply.response = (Refusal.denied 499).response := by
  intro rates least c found ask r
  let g : Gateway := ⟨c, some (registryAsSet c.registration ⟨Utf8.encode "abc", by decide⟩),
    .create c.rateLimit, {}⟩
  have hcreate : create c = .ok g := by decide +kernel
  obtain ⟨-, -, hcreated⟩ := creation_agrees_with_validation c
  obtain ⟨hruns, -, -, hrequests⟩ := (hcreated g hcreate).2 .start [ask, ask]
  let s := outcome Session.step ⟨.start, g⟩ [ask, ask]
  let request : RegisterRequest := ⟨"m", "alice", "pw", false, none, none, ""⟩
  have hread : readAttempt s.gateway.config.limits.maxRequestSize r = .ok request := by
    decide +kernel
  have hvalid : request.attempt.validate = .ok () := by decide +kernel
  obtain ⟨left, hleft⟩ : ∃ left, s.gateway.registry = some left :=
    Option.isSome_iff_exists.mp hruns.isSome_registry
  have hunknown : ∀ left ∈ s.gateway.registry,
      left.ledger.judge .origin request.attempt.fields.nonce ≠ .ok () := by
    decide +kernel
  have hclock : s.clock.read = .ok .origin := by decide +kernel
  have hdenied : s.gateway.IsDenied s.clock.read found r := by
    have hverdict := congrArg Prod.fst (Registry.register_of_rejected hvalid
      (fun h => hunknown left hleft h.1) found.drawn)
    rw [hclock]
    exact ⟨by decide +kernel, by decide +kernel, by decide, by decide +kernel, left, request, _,
      hleft, hread, hverdict, rfl⟩
  obtain ⟨reply, hreply, -, hresponse⟩ := (hrequests found r).1 hdenied
  exact ⟨g, hcreate, hruns.isSome_registry, hruns.capacity_eq, reply, hreply, hresponse⟩

end Gateway

end Enrollment
