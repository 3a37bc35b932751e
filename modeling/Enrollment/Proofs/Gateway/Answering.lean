import Enrollment.Config.Environment
import Enrollment.Proofs.Config.Validation
import Enrollment.Proofs.Gateway.Enabled
import Enrollment.Proofs.Gateway.Limits
import Enrollment.Proofs.Gateway.Refusals

/-!
# Every request is answered

With valid settings a gateway starts, and from then on a request is left without an answer for two
reasons only: the allowances of a new caller do not fit in a word of nanoseconds, or the nonce that
it is to be given would live beyond the last moment that can be represented. While the clock has
used up less than half of its range, and the lifetime of nonces is no longer than the other half,
only the first reason is left. A request that is answered is told what it asks for, or why it does
not get it.
-/

namespace Enrollment

namespace Gateway

/-- The endpoint of a class. -/
def EndpointClass.endpoint : EndpointClass → Endpoint
  | .nonce => .nonce
  | .register => .register

/-- The answers to a request of a class whose caller is let through: what it asks for, or why it
does not get it. -/
inductive Answers (c : Config) (r : Http.Request) : EndpointClass → Http.Response → Prop
  | token (token : String) : Answers c r .nonce (.json 200 (Wire.nonceResponse.render ⟨token⟩))
  | exhausted : Answers c r .nonce Refusal.noncesExhausted.response
  | account (info : AccountInfo) :
      Answers c r .register (.json 200 (Wire.accountInfo.render info))
  | rejected (status : UInt16) (e : RegistrationError) :
      Answers c r .register (Refusal.ofRegistration status e).response
  | unread {refusal : Refusal} (hread : readAttempt c.limits.maxRequestSize r = .error refusal) :
      Answers c r .register refusal.response
  | late (hlate : isLate c.timeouts.request r.arrival = true) :
      Answers c r .register Refusal.timeout.response
  | announcedTooMuch {k : EndpointClass}
      (hannounced : announcesTooMuch c.limits.maxRequestSize r = true) :
      Answers c r k announcedTooMuch
  | notAllowed {k : EndpointClass} (hmethod : k.endpoint.allows r.method = false) :
      Answers c r k (.empty 405)

/-- A response to a request, which answers it if it is one for a nonce or an account. -/
def IsAnswer (c : Config) (r : Http.Request) (response : Http.Response) : Prop :=
  ∀ k, EndpointClass.ofPath? r.path = some k → Answers c r k response

/-- A request for a nonce that comes as far as the ledger, if its caller is let through. -/
structure CallsForNonce (limit : UInt64) (r : Http.Request) : Prop where
  path : Endpoint.ofPath? r.path = some .nonce
  method : Endpoint.nonce.allows r.method = true
  unannounced : announcesTooMuch limit r = false

theorem ofPath?_endpoint {path : String} {k : EndpointClass}
    (hk : EndpointClass.ofPath? path = some k) : Endpoint.ofPath? path = some k.endpoint := by
  cases k with
  | nonce => exact (ofPath?_eq_iff path).1.mpr hk
  | register => exact (ofPath?_eq_iff path).2.mpr hk

section Classes

variable {c : Config} {r : Http.Request} {response : Http.Response}

theorem IsAnswer.of_path {k : EndpointClass} (hpath : Endpoint.ofPath? r.path = some k.endpoint)
    (hanswers : Answers c r k response) : IsAnswer c r response := by
  intro k' hk'
  have hendpoint : k'.endpoint = k.endpoint :=
    Option.some.inj ((ofPath?_endpoint hk').symm.trans hpath)
  have hk : k' = k := by cases k' <;> cases k <;> first | rfl | cases hendpoint
  exact hk ▸ hanswers

/-- Elsewhere every response will do. -/
theorem IsAnswer.of_elsewhere (helsewhere : ∀ k : EndpointClass,
    Endpoint.ofPath? r.path ≠ some k.endpoint) : IsAnswer c r response :=
  fun k hk => absurd (ofPath?_endpoint hk) (helsewhere k)

end Classes

/-! ## Starting -/

theorem exists_create {c : Config} (hvalid : c.validate = .ok ())
    (henabled : c.registration.enabled = true) : ∃ g, create c = .ok g := by
  have hrules := (Config.validate_eq_ok_iff.mp hvalid).registration
  obtain ⟨secret, hsecret⟩ := hrules.secret henabled
  have hlifetime := hrules.nonceLifetime
  simp [create, hvalid, henabled, createRegistry, hsecret, Ledger.create, hlifetime, bind,
    Except.bind]

/-! ## Issuing nonces -/

/-- Half of the clock's range, `2 ^ 62` seconds. -/
def halfRange : Nat := signedSize / 2 * nanosPerSecond

section Issuing

variable {registry : Registry} {now : Instant}

/-- The nonce that is issued next ends no later than the last moment, or none is issued. -/
def Lasts (l : Ledger) (now : Instant) : Prop :=
  (l.makeRoom now).isFull = true ∨
    now.nanos + l.lifetime.nanos < signedSize * nanosPerSecond

theorem lifetime_makeRoom (l : Ledger) (now : Instant) :
    (l.makeRoom now).lifetime = l.lifetime :=
  congrArg Prod.fst (l.settings_makeRoom now)

theorem exists_issue_of_lasts (hlasts : Lasts registry.ledger now) (token : String) :
    ∃ answer, (registry.issue (.ok now) token).1 = .ok answer := by
  rw [Registry.issue_eq]
  simp only [Ledger.issue, Ledger.grant, lifetime_makeRoom]
  split
  next => exact ⟨_, rfl⟩
  next hroom =>
    have hfits := hlasts.resolve_left hroom
    have hafter : now.after? registry.ledger.lifetime = some ⟨_, hfits⟩ := dif_pos hfits
    rw [hafter]
    exact ⟨_, rfl⟩

theorem issue_of_not_lasts (hlasts : ¬ Lasts registry.ledger now) (token : String) :
    (registry.issue (.ok now) token).1 = .error .moment := by
  obtain ⟨hroom, hlate⟩ := not_or.mp hlasts
  have hafter : now.after? registry.ledger.lifetime = none := dif_neg hlate
  rw [Registry.issue_eq]
  simp only [Ledger.issue, Ledger.grant, lifetime_makeRoom, hafter, if_neg hroom]

/-- Presenting a nonce forms no sum of times. -/
theorem exists_register (registry : Registry) (now : Instant) (attempt : Attempt)
    (drawn : Credentials) :
    ∃ verdict, (registry.register (.ok now) attempt drawn).1 = .ok verdict := by
  cases hvalid : attempt.validate with
  | error e => exact ⟨_, by rw [Registry.register_of_invalid hvalid]⟩
  | ok _ =>
      by_cases hadmits : registry.Admits now attempt
      · rw [Registry.register_of_admitted hvalid hadmits]
        exact ⟨_, rfl⟩
      · rw [Registry.register_of_rejected hvalid hadmits]
        exact ⟨_, rfl⟩

end Issuing

/-! ## Serving -/

section Serving

variable {g : Gateway} {registry : Registry} {now : Instant} {found : Circumstances}
  {r : Http.Request}

theorem exists_serveNonce (hregistry : g.registry = some registry)
    (hpath : Endpoint.ofPath? r.path = some .nonce) (hlasts : Lasts registry.ledger now) :
    ∃ response, (g.serveNonce (.ok now) found).answer = .ok response ∧
      IsAnswer g.config r response := by
  obtain ⟨answer, hanswer⟩ := exists_issue_of_lasts hlasts found.token
  rw [serveNonce_eq hregistry, hanswer]
  refine ⟨_, rfl, .of_path (k := .nonce) hpath ?_⟩
  cases answer with
  | ok token => exact .token token
  | error e => exact .exhausted

theorem exists_serveAttempt (hregistry : g.registry = some registry)
    (hpath : Endpoint.ofPath? r.path = some .register) :
    ∃ response, (g.serveAttempt (.ok now) found r).answer = .ok response ∧
      IsAnswer g.config r response := by
  cases hread : readAttempt g.config.limits.maxRequestSize r with
  | error refusal =>
      rw [serveAttempt_of_unread hregistry hread]
      exact ⟨_, rfl, .of_path (k := .register) hpath (.unread hread)⟩
  | ok request =>
      obtain ⟨⟨answer, notice⟩, hverdict⟩ :=
        exists_register registry now request.attempt found.drawn
      rw [serveAttempt_of_read hregistry hread, hverdict]
      refine ⟨_, rfl, .of_path (k := .register) hpath ?_⟩
      cases answer with
      | ok info => exact .account info
      | error e => exact .rejected g.denialStatus e

theorem exists_dispatch (hregistry : g.registry = some registry)
    (hlasts : CallsForNonce g.config.limits.maxRequestSize r → Lasts registry.ledger now) :
    ∃ response, (g.dispatch (.ok now) found r).answer = .ok response ∧
      IsAnswer g.config r response := by
  unfold dispatch
  cases hannounced : announcesTooMuch g.config.limits.maxRequestSize r with
  | true => exact ⟨_, rfl, fun k _ => .announcedTooMuch hannounced⟩
  | false =>
      cases hpath : Endpoint.ofPath? r.path with
      | none => exact ⟨_, rfl, .of_elsewhere (by simp [hpath])⟩
      | some e =>
          cases hmethod : e.allows r.method with
          | false =>
              refine ⟨.empty 405, by simp [hmethod], fun k hk => .notAllowed ?_⟩
              rwa [Option.some.inj ((ofPath?_endpoint hk).symm.trans hpath)]
          | true =>
              simp only [hmethod, if_true, Bool.false_eq_true, if_false]
              cases e with
              | nonce =>
                  exact exists_serveNonce hregistry hpath (hlasts ⟨hpath, hmethod, hannounced⟩)
              | register => exact exists_serveAttempt hregistry hpath
              | health =>
                  exact ⟨_, rfl, .of_elsewhere (by rintro (_ | _) <;> rw [hpath] <;> decide)⟩
              | metrics =>
                  exact ⟨_, rfl, .of_elsewhere (by rintro (_ | _) <;> rw [hpath] <;> decide)⟩

theorem exists_serve (found : Circumstances) (hregistry : g.registry = some registry)
    (hlasts : CallsForNonce g.config.limits.maxRequestSize r → Lasts registry.ledger now) :
    ∃ response, (g.serve (.ok now) found r).1.answer = .ok response ∧
      IsAnswer g.config r response := by
  cases hlate : isLate g.config.timeouts.request (g.waitsFor r) with
  | false =>
      rw [serve_of_timely hlate]
      exact exists_dispatch hregistry hlasts
  | true =>
      -- Only an attempt has a body to wait for.
      rw [serve_of_late hlate]
      cases hreads : g.readsBody r with
      | false => simp [waitsFor, hreads, isLate, Span.zero] at hlate
      | true =>
          have hpath : Endpoint.ofPath? r.path = some .register := by
            simp only [readsBody, Bool.and_eq_true, beq_iff_eq] at hreads
            exact hreads.1.1.2
          simp only [waitsFor, hreads, if_true] at hlate
          exact ⟨_, rfl, .of_path (k := .register) hpath (.late hlate)⟩

theorem letThrough_of_unserved {reading : Reading} {limiter : Limiter} {e : TimeOverflow}
    (hserve : ({ g with limiter }.serve reading found r).1.answer = .error e) :
    (g.letThrough limiter reading found r).1 = .error e := by
  simp only [letThrough, hserve]
  rfl

theorem exists_letThrough {reading : Reading} {limiter : Limiter} {response : Http.Response}
    (hserve : ({ g with limiter }.serve reading found r).1.answer = .ok response) :
    ∃ reply, (g.letThrough limiter reading found r).1 = .ok reply ∧
      reply.response = finish r response := by
  refine ⟨⟨finish r response, ({ g with limiter }.serve reading found r).1.notice, none,
    TraceParent.ofRequest? r⟩, ?_, rfl⟩
  simp only [letThrough, hserve]
  rfl

/-- A request for a nonce has no body to wait for, and gets no answer if the nonce does not last. -/
theorem serve_of_not_lasts (found : Circumstances) (hregistry : g.registry = some registry)
    (hcalls : CallsForNonce g.config.limits.maxRequestSize r)
    (hlasts : ¬ Lasts registry.ledger now) :
    (g.serve (.ok now) found r).1.answer = .error .moment := by
  have hwaits : g.waitsFor r = .zero := by simp [waitsFor, readsBody, hcalls.path]
  have htimely : isLate g.config.timeouts.request (g.waitsFor r) = false := by
    simp [hwaits, isLate, Span.zero]
  rw [serve_of_timely htimely]
  simp only [dispatch, hcalls.unannounced, hcalls.path, hcalls.method, serveEndpoint,
    serveNonce_eq hregistry, issue_of_not_lasts hlasts]
  rfl

end Serving

/-! ## Checking callers -/

section Checking

variable {g : Gateway} {settings : Config.RateLimit} {r : Http.Request}

/-- A request whose caller the limiter cannot keep an allowance for. -/
def IsUnkept (settings : Config.RateLimit) (r : Http.Request) : Prop :=
  ¬ AreKept settings ∧ limited? settings r ≠ none

/-- Where allowances can be kept, or the request is not limited, its caller is checked. -/
theorem exists_checkRate (hkept : ¬ IsUnkept g.limiter.settings r) (now : Nat) :
    ∃ limited, (g.checkRate now r).1 = .ok limited := by
  cases hr : limited? g.limiter.settings r with
  | none => exact ⟨none, by rw [checkRate_of_unlimited hr]⟩
  | some limited =>
      obtain ⟨caller, k⟩ := limited
      have hkept' : AreKept g.limiter.settings := by
        by_contra hunkept
        exact hkept ⟨hunkept, by simp [hr]⟩
      obtain ⟨-, hcheck⟩ := checkRate_of_limited hr now
      obtain ⟨passes, hpasses⟩ := Limiter.exists_check (isKept_of_areKept hkept') now caller k
      rw [hcheck, hpasses]
      exact ⟨_, rfl⟩

end Checking

namespace Session

variable {c : Config} {secret : Secret} {settings : Config.RateLimit} {s : Session}
  {registry : Registry} {found : Circumstances} {r : Http.Request}

theorem unanswered_of_isUnkept (hfresh : s.gateway.limiter = .create settings)
    (hunkept : IsUnkept settings r) : s.step (.request found r) = (.error .nanos, s) := by
  rw [step_request, unanswered_of_unkept hfresh hunkept.1 hunkept.2]
  rfl

/-- A limiter that cannot keep an allowance never gets to know a caller. -/
theorem limiter_step_of_unkept (hunkept : ¬ AreKept settings)
    (hfresh : s.gateway.limiter = .create settings) (action : Action) :
    (s.step action).2.gateway.limiter = .create settings := by
  cases action with
  | sweep =>
      simp only [step, sweep]
      split <;> exact hfresh
  | advance span => exact hfresh
  | request found r =>
      cases hr : limited? settings r with
      | none =>
          have hsettings : s.gateway.limiter.settings = settings := by rw [hfresh]; rfl
          refine (limiter_handle _ _ _ _).trans ?_
          rw [checkRate_of_unlimited (hsettings.symm ▸ hr)]
          exact hfresh
      | some limited =>
          rw [unanswered_of_isUnkept hfresh ⟨hunkept, by simp [hr]⟩]
          exact hfresh

/-- What there is to know of the limiter along a run. -/
def Limits (settings : Config.RateLimit) (s : Session) : Prop :=
  s.gateway.limiter.settings = settings ∧
    (¬ AreKept settings → s.gateway.limiter = .create settings)

theorem Limits.outcome (h : Limits settings s) (actions : List Action) :
    Limits settings (outcome step s actions) :=
  outcome_induction (motive := Limits settings)
    (fun s action h => ⟨(settings_step s action).trans h.1, fun hunkept =>
      limiter_step_of_unkept hunkept (h.2 hunkept) action⟩) h actions

/-- The request would be given a nonce that lives beyond the last moment. -/
structure ComesTooLate (s : Session) (found : Circumstances) (r : Http.Request) : Prop where
  isChecked : (s.gateway.checkRate found.now r).1 = .ok none
  calls : CallsForNonce s.gateway.config.limits.maxRequestSize r
  not_lasts : ∃ registry now, s.gateway.registry = some registry ∧ s.clock.read = .ok now ∧
    ¬ Lasts registry.ledger now

/-- The request has a reply: for how long its caller has to wait if it is not let through, else an
answer to it, each as its endpoint sends it. -/
def Replies (s : Session) (found : Circumstances) (r : Http.Request) : Prop :=
  ∃ reply response, (s.step (.request found r)).1 = .ok (.reply reply) ∧
    reply.response = finish r response ∧
    ((∃ wait limited, (s.gateway.checkRate found.now r).1 = .ok (some (wait, limited)) ∧
        response = (Refusal.rateLimited (Limiter.retryAfterMillis wait)).response) ∨
      (s.gateway.checkRate found.now r).1 = .ok none ∧ IsAnswer s.gateway.config r response)

theorem replies_of_timely (h : Enabled c secret s registry) (hlimits : Limits c.rateLimit s)
    {now : Instant} (hnow : s.clock.read = .ok now) (hkept : ¬ IsUnkept c.rateLimit r)
    (htimely : ¬ s.ComesTooLate found r) : s.Replies found r := by
  obtain ⟨limited, hchecked⟩ := exists_checkRate (hlimits.1.symm ▸ hkept) found.now
  unfold Replies
  rw [step_request]
  cases limited with
  | some limited =>
      obtain ⟨wait, limited⟩ := limited
      rw [handle_of_limited hchecked]
      exact ⟨_, _, rfl, rfl, .inl ⟨wait, limited, hchecked, rfl⟩⟩
  | none =>
      have hlasts : CallsForNonce s.gateway.config.limits.maxRequestSize r →
          Lasts registry.ledger now := by
        intro hcalls
        by_contra hlate
        exact htimely ⟨hchecked, hcalls, registry, now, h.registry_eq, hnow, hlate⟩
      let checked : Gateway := { s.gateway with limiter := (s.gateway.checkRate found.now r).2 }
      obtain ⟨response, hresponse, hanswer⟩ :=
        exists_serve (g := checked) found h.registry_eq hlasts
      obtain ⟨reply, hreply, hfinish⟩ := exists_letThrough hresponse
      rw [handle_of_passed hchecked, hnow]
      exact ⟨reply, response, congrArg (Except.map Answer.reply) hreply, hfinish,
        .inr ⟨hchecked, hanswer⟩⟩

theorem unanswered_of_late (hlate : s.ComesTooLate found r) :
    (s.step (.request found r)).1 = .error .moment := by
  obtain ⟨hchecked, hcalls, registry, now, hregistry, hnow, hlasts⟩ := hlate
  let checked : Gateway := { s.gateway with limiter := (s.gateway.checkRate found.now r).2 }
  have hserve := serve_of_not_lasts (g := checked) found hregistry hcalls hlasts
  rw [step_request, handle_of_passed hchecked, hnow]
  exact congrArg (Except.map Answer.reply) (letThrough_of_unserved hserve)

/-- While neither the time that has passed nor the lifetime of nonces takes more than half of the
clock's range, every nonce lasts. -/
theorem not_comesTooLate (h : Enabled c secret s registry)
    (helapsed : s.clock.elapsed.nanos < halfRange)
    (hlifetime : c.registration.nonceLifetime.nanos ≤ halfRange) :
    ¬ s.ComesTooLate found r := by
  rintro ⟨-, -, registry', now, hregistry, hnow, hlasts⟩
  obtain rfl : registry = registry' := Option.some.inj (h.registry_eq.symm.trans hregistry)
  have hnanos := Clock.read_eq_ok_iff.mp hnow
  refine hlasts (.inr ?_)
  rw [h.lifetime_eq, hnanos]
  simp only [halfRange, signedSize, nanosPerSecond] at *
  omega

/-- A clock that can be read is enough to sweep. -/
theorem exists_sweep (h : Enabled c secret s registry) {now : Instant}
    (hnow : s.clock.read = .ok now) :
    ∃ removed, (s.step .sweep).1 = .ok (.swept (some removed)) := by
  simp only [step, sweep, h.registry_eq, hnow]
  exact ⟨_, rfl⟩

end Session

/-- With valid settings and registration enabled a gateway starts. Whatever was asked of it before,
and while less than half of the clock's range has passed, it can be swept, and every request is
replied to, unless its caller cannot be kept count of or its nonce would not last: then there is no
reply. No nonce fails to last if the lifetime is no longer than the other half of the range, and
every caller can be kept count of if no burst is set, or one of no more than about three hundred
million. -/
theorem requests_answered {c : Config} (hvalid : c.validate = .ok ())
    (henabled : c.registration.enabled = true) :
    ∃ g, create c = .ok g ∧ ∀ clock actions,
      let s := outcome Session.step ⟨clock, g⟩ actions
      s.clock.elapsed.nanos < halfRange →
        (∃ removed, (s.step .sweep).1 = .ok (.swept (some removed))) ∧
        (∀ found r,
          (¬ IsUnkept c.rateLimit r → ¬ s.ComesTooLate found r → s.Replies found r) ∧
          (IsUnkept c.rateLimit r → s.step (.request found r) = (.error .nanos, s)) ∧
          (s.ComesTooLate found r → (s.step (.request found r)).1 = .error .moment)) ∧
        (c.registration.nonceLifetime.nanos ≤ halfRange →
          ∀ found r, ¬ s.ComesTooLate found r) ∧
        ((∀ n, c.rateLimit.burstSize = some n → n.toNat ≤ 307445734) →
          ∀ r, ¬ IsUnkept c.rateLimit r) := by
  obtain ⟨secret, hsecret⟩ := (Config.validate_eq_ok_iff.mp hvalid).registration.secret henabled
  obtain ⟨g, hcreate⟩ := exists_create hvalid henabled
  refine ⟨g, hcreate, fun clock actions helapsed => ?_⟩
  obtain ⟨_, hstart⟩ := Session.enabled_of_create hcreate henabled hsecret clock
  obtain ⟨registry, hregistry⟩ := hstart.outcome actions
  obtain ⟨_, _, hg⟩ := exists_of_create hcreate henabled
  have hlimiter : g.limiter = .create c.rateLimit := by rw [hg]
  have hlimits : Session.Limits c.rateLimit (outcome Session.step ⟨clock, g⟩ actions) :=
    Session.Limits.outcome ⟨by rw [hlimiter]; rfl, fun _ => hlimiter⟩ actions
  let half : Instant := ⟨halfRange, by decide⟩
  have hhalf : (outcome Session.step ⟨clock, g⟩ actions).clock.elapsed.nanos ≤ half.nanos :=
    Nat.le_of_lt helapsed
  obtain ⟨now, hnow, -⟩ := Clock.exists_read_of_le hhalf
  refine ⟨Session.exists_sweep hregistry hnow, fun found r => ⟨?_, fun hunkept => ?_, ?_⟩,
    fun hlifetime found r => ?_, fun hburst r hunkept => ?_⟩
  · exact Session.replies_of_timely hregistry hlimits hnow
  · exact Session.unanswered_of_isUnkept (hlimits.2 hunkept.1) hunkept
  · exact Session.unanswered_of_late
  · exact Session.not_comesTooLate hregistry helapsed hlifetime
  · exact hunkept.1 (areKept_of_burst_le hburst)

/-- A nonce that lives as long as half of the clock's range is still issued at the end of the other
half. -/
theorem last_long_nonce_issued :
    let lifetime : Span := .ofSeconds 0x4000000000000000
    let c : Config := { registration :=
      { enabled := true, sharedSecret := some "abc", nonceLifetime := lifetime } }
    let found : Circumstances := ⟨0, "n", default, 0, 0⟩
    let r : Http.Request := ⟨"GET", Wire.noncePath, [], [], some (.v4 ⟨1, 2, 3, 4⟩), .zero⟩
    c.validate = .ok () ∧ ∃ g, create c = .ok g ∧
      (outcome Session.step ⟨.start, g⟩
        [.request found r, .advance (.ofSeconds 0x3fffffffffffffff)]).Replies found r := by
  intro lifetime c found r
  have hvalid : c.validate = .ok () := by decide +kernel
  obtain ⟨g, hcreate, hanswered⟩ := requests_answered hvalid rfl
  have helapsed : (outcome Session.step ⟨.start, g⟩ [.request found r,
      .advance (.ofSeconds 0x3fffffffffffffff)]).clock.elapsed.nanos < halfRange := by
    simp only [outcome_cons, outcome_nil, Session.step]
    decide +kernel
  obtain ⟨-, hrequests, hlasts, hkept⟩ := hanswered .start _ helapsed
  have hlifetime : c.registration.nonceLifetime.nanos ≤ halfRange := by decide +kernel
  have hnoBurst : ∀ n, c.rateLimit.burstSize = some n → n.toNat ≤ 307445734 := by
    intro n hn
    cases hn
  exact ⟨hvalid, g, hcreate, (hrequests found r).1 (hkept hnoBurst r) (hlasts hlifetime found r)⟩

/-- A lifetime of nonces may be valid, in a document and in the environment, and as long as a span
can be. Then not even the first nonce can be issued. -/
theorem first_nonce_unanswered :
    let text := "[registration]\nenabled = true\nshared_secret = \"abc\"\n"
    let written := text ++ "nonce_ttl = \"18446744073709551615s\"\n"
    let env : Config.Environment := fun name =>
      if name = "BOOTSTRAP_NONCE_TTL_SECS" then some "18446744073709551615" else none
    let c : Config := { registration :=
      { enabled := true, sharedSecret := some "abc", nonceLifetime := .ofSeconds (-1) } }
    let found : Circumstances := ⟨0, "n", default, 0, 0⟩
    let r : Http.Request := ⟨"GET", Wire.noncePath, [], [], some (.v4 ⟨1, 2, 3, 4⟩), .zero⟩
    Config.load (.file written) (fun _ => none) = .ok c ∧ Config.load (.file text) env = .ok c ∧
      c.validate = .ok () ∧ c.registration.enabled = true ∧
      ∃ g, create c = .ok g ∧
        ((⟨.start, g⟩ : Session).step (.request found r)).1 = .error .moment := by
  intro text written env c found r
  let ledger : Ledger := ⟨.ofSeconds (-1), 10000, [], none, {}⟩
  let registry : Registry := .create ledger ⟨Utf8.encode "abc", by decide⟩
    (.create c.registration.serverName c.registration.tokenLifetime)
  let g : Gateway := ⟨c, some registry, .create c.rateLimit, {}⟩
  have hcreate : create c = .ok g := by decide +kernel
  have hlate : Session.ComesTooLate ⟨.start, g⟩ found r := by
    refine ⟨by decide +kernel, ⟨by decide +kernel, by decide +kernel, by decide +kernel⟩, registry,
      .origin, rfl, by decide +kernel, ?_⟩
    unfold Lasts
    decide +kernel
  exact ⟨by decide +kernel, by decide +kernel, by decide +kernel, rfl, g, hcreate,
    Session.unanswered_of_late hlate⟩

end Gateway

end Enrollment
