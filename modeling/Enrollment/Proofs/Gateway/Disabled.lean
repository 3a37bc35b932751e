import Enrollment.Proofs.Gateway.Creation

/-!
# Registration that is disabled

Without a registry a gateway has nothing to ask about an attempt, so it does not look at one: the
endpoints of registration refuse before the body counts for anything, whether it is missing, cut
short, no JSON or correctly signed. Since nothing ever gives a gateway a registry, this holds for as
long as it runs, and what it reports of registration is null.
-/

namespace Enrollment.Gateway

/-- A request that is meant for registration: one for a nonce, or one that brings an attempt. -/
inductive CallsForRegistration (r : Http.Request) : Prop
  | nonce (path_eq : r.path = Wire.noncePath) (method_eq : r.method = "GET")
  | attempt (path_eq : r.path = Wire.registerPath) (method_eq : r.method = "POST")

/-- One of the two endpoints that are there for registration. -/
def Endpoint.IsForRegistration (e : Endpoint) : Prop :=
  e = .nonce ∨ e = .register

variable {g : Gateway} {reading : Reading} {found : Circumstances} {r : Http.Request}

/-! ## What is served without a registry -/

theorem exists_endpoint_of_path (h : r.path = Wire.noncePath ∨ r.path = Wire.registerPath) :
    ∃ e, Endpoint.ofPath? r.path = some e ∧ e.IsForRegistration := by
  rcases h with h | h <;> rw [h]
  · exact ⟨.nonce, rfl, .inl rfl⟩
  · exact ⟨.register, rfl, .inr rfl⟩

theorem CallsForRegistration.exists_endpoint (h : CallsForRegistration r) :
    ∃ e, Endpoint.ofPath? r.path = some e ∧ e.IsForRegistration ∧
      e.allows r.method = true ∧ r.method ≠ "HEAD" := by
  cases h with
  | nonce hpath hmethod =>
      rw [hpath, hmethod]
      exact ⟨.nonce, rfl, .inl rfl, rfl, by decide⟩
  | attempt hpath hmethod =>
      rw [hpath, hmethod]
      exact ⟨.register, rfl, .inr rfl, rfl, by decide⟩

/-- The answer to a method that is allowed is sent as it is, unless the head alone is asked for. -/
theorem finish_of_allowed {e : Endpoint} (hendpoint : Endpoint.ofPath? r.path = some e)
    (hallowed : e.allows r.method = true) (hhead : r.method ≠ "HEAD") (response : Http.Response) :
    finish r response = response := by
  simp only [finish, hendpoint, Endpoint.finish, hallowed, Bool.not_true, Bool.false_eq_true,
    if_false, if_neg hhead]

/-- What the body holds, and whether it can be read at all, does not matter. -/
theorem serveEndpoint_of_disabled (hdisabled : g.registry = none) {e : Endpoint}
    (he : e.IsForRegistration) : g.serveEndpoint reading found r e = g.refuse .disabled := by
  rcases he with rfl | rfl
  · simp only [serveEndpoint, serveNonce, hdisabled]
  · simp only [serveEndpoint, serveAttempt, hdisabled]

/-- The endpoints of registration answer in one of three ways, none of them a success. -/
theorem answer_dispatch_of_disabled (hdisabled : g.registry = none) {e : Endpoint}
    (hendpoint : Endpoint.ofPath? r.path = some e) (he : e.IsForRegistration) :
    (g.dispatch reading found r).answer =
      .ok (if announcesTooMuch g.config.limits.maxRequestSize r then announcedTooMuch
        else if e.allows r.method then Refusal.disabled.response
        else .empty 405) := by
  unfold dispatch
  split
  · rfl
  · simp only [hendpoint]
    split
    · rw [serveEndpoint_of_disabled hdisabled he]
      rfl
    · rfl

theorem notice_dispatch_of_disabled (hdisabled : g.registry = none) :
    (g.dispatch reading found r).notice = none := by
  unfold dispatch
  split
  · rfl
  · split
    · rfl
    next endpoint _ =>
      split
      · cases endpoint <;> simp [serveEndpoint, serveNonce, serveAttempt, refuse, hdisabled]
      · rfl

/-- The dispatch of a gateway after the limiter was asked. -/
theorem answer_dispatched_of_disabled (hdisabled : g.registry = none) {e : Endpoint}
    (hendpoint : Endpoint.ofPath? r.path = some e) (he : e.IsForRegistration) :
    (g.dispatched reading found r).answer =
      .ok (if announcesTooMuch g.config.limits.maxRequestSize r then announcedTooMuch
        else if e.allows r.method then Refusal.disabled.response
        else .empty 405) :=
  answer_dispatch_of_disabled (g := g.afterCheck found.now r) hdisabled hendpoint he

/-! ## How requests are answered -/

theorem exists_reply_of_served (hserved : g.course found.now r = .served) {e : Endpoint}
    (hendpoint : Endpoint.ofPath? r.path = some e) (hallowed : e.allows r.method = true)
    (hhead : r.method ≠ "HEAD") {response : Http.Response}
    (hanswer : (g.dispatched reading found r).answer = .ok response) :
    ∃ reply, (g.handle reading found r).1 = .ok reply ∧ reply.response = response := by
  rw [handle_of_served hserved]
  simp only [hanswer]
  exact ⟨_, rfl, finish_of_allowed hendpoint hallowed hhead response⟩

theorem exists_reply_of_disabled (hdisabled : g.registry = none) (hcalls : CallsForRegistration r)
    (hserved : g.course found.now r = .served)
    (hannounced : announcesTooMuch g.config.limits.maxRequestSize r = false) :
    ∃ reply, (g.handle reading found r).1 = .ok reply ∧
      reply.response = Refusal.disabled.response := by
  obtain ⟨e, hendpoint, he, hallowed, hhead⟩ := hcalls.exists_endpoint
  refine exists_reply_of_served hserved hendpoint hallowed hhead ?_
  rw [answer_dispatched_of_disabled hdisabled hendpoint he, if_neg (by simpa using hannounced),
    if_pos hallowed]

theorem not_success_of_disabled (hdisabled : g.registry = none)
    (hpath : r.path = Wire.noncePath ∨ r.path = Wire.registerPath) {reply : Reply}
    (hreply : (g.handle reading found r).1 = .ok reply) :
    Http.isSuccess reply.response.status = false := by
  obtain ⟨e, hendpoint, he⟩ := exists_endpoint_of_path hpath
  rcases exists_of_handle hreply with ⟨wait, limited, -, hresponse, -⟩ | ⟨-, hresponse, -⟩ |
    ⟨-, response, hanswer, hresponse, -⟩ <;> rw [hresponse, status_finish]
  · rfl
  · rfl
  · rw [answer_dispatched_of_disabled hdisabled hendpoint he] at hanswer
    obtain rfl := Except.ok.inj hanswer
    split_ifs <;> rfl

theorem notice_of_disabled (hdisabled : g.registry = none) {reply : Reply}
    (hreply : (g.handle reading found r).1 = .ok reply) : reply.notice = none := by
  rcases exists_of_handle hreply with ⟨-, -, -, -, hnotice⟩ | ⟨-, -, hnotice⟩ |
    ⟨-, -, -, -, hnotice⟩
  · exact hnotice
  · exact hnotice
  · rw [hnotice]
    exact notice_dispatch_of_disabled (g := g.afterCheck found.now r) hdisabled

/-- Neither the limiter nor the time limit has to do with a request for the counts. -/
theorem course_of_metrics (hpath : r.path = "/metrics") (now : Nat) :
    g.course now r = .served := by
  refine course_eq_served_iff.mpr ⟨?_, ?_⟩
  · have hclass : EndpointClass.ofPath? r.path = none := by rw [hpath]; rfl
    simp only [checkRate, hclass]
  · have hendpoint : Endpoint.ofPath? r.path = some .metrics := by rw [hpath]; rfl
    have hbody : g.readsBody r = false := by
      rw [readsBody, hendpoint]
      simp
    simp only [waitsFor, hbody, Bool.false_eq_true, if_false]
    exact decide_eq_false (by simp [Span.zero])

theorem exists_report_of_disabled (hdisabled : g.registry = none) (hpath : r.path = "/metrics")
    (hmethod : r.method = "GET")
    (hannounced : announcesTooMuch g.config.limits.maxRequestSize r = false) :
    ∃ reply, (g.handle reading found r).1 = .ok reply ∧
      reply.response =
        .json 200 (Report.metrics g.metrics (g.checkRate found.now r).2.size none).render := by
  have hendpoint : Endpoint.ofPath? r.path = some .metrics := by rw [hpath]; rfl
  have hallowed : Endpoint.metrics.allows r.method = true := by rw [hmethod]; rfl
  refine exists_reply_of_served (course_of_metrics hpath found.now) hendpoint hallowed
    (by rw [hmethod]; decide) ?_
  simp only [dispatched, dispatch, afterCheck, hannounced, hendpoint, hallowed, serveEndpoint,
    hdisabled, Bool.false_eq_true, if_false, if_true, Option.map_none]

/-- With valid settings that disable registration a gateway starts and then never has a registry.
Whatever is asked of it, every `GET` for a nonce and every `POST` of an attempt that the limiter and
the time limit let through and that does not announce too much is answered by one and the same
refusal, whatever it brings; no request at the two paths succeeds, nothing is told to the log, and
whoever asks for the counts finds null for those of registration. -/
theorem disabled_registration_blind {c : Config} (hvalid : c.validate = .ok ())
    (hdisabled : c.registration.enabled = false) :
    ∃ g, create c = .ok g ∧ ∀ clock actions,
      let s := outcome Session.step ⟨clock, g⟩ actions
      s.gateway.registry = none ∧
        (∀ found r, CallsForRegistration r → s.gateway.course found.now r = .served →
          announcesTooMuch c.limits.maxRequestSize r = false →
          ∃ reply, (s.gateway.handle s.clock.read found r).1 = .ok reply ∧
            reply.response = .json 403 (Wire.errorResponse.render
              ⟨"M_FORBIDDEN", "Admin registration is not enabled", none⟩)) ∧
        (∀ found r reply, (s.gateway.handle s.clock.read found r).1 = .ok reply →
          reply.notice = none ∧
            (r.path = Wire.noncePath ∨ r.path = Wire.registerPath →
              Http.isSuccess reply.response.status = false)) ∧
        ∀ found r, r.path = "/metrics" → r.method = "GET" →
          announcesTooMuch c.limits.maxRequestSize r = false →
          ∃ reply members, (s.gateway.handle s.clock.read found r).1 = .ok reply ∧
            reply.response = .json 200 (Json.Value.object members).render ∧
            members.lookup "registration" = some .null := by
  refine ⟨_, create_of_disabled hvalid hdisabled, fun clock actions => ?_⟩
  intro s
  have hruns : Session.RunsAsSet c s :=
    (Session.runsAsSet_of_create hvalid (create_of_disabled hvalid hdisabled) clock).outcome actions
  have hnone : s.gateway.registry = none := by
    have hsome := hruns.isSome_registry
    rw [hdisabled] at hsome
    exact Option.isNone_iff_eq_none.mp (Option.isSome_eq_false_iff.mp hsome)
  refine ⟨hnone, fun found r hcalls hserved hannounced => ?_, fun found r reply hreply => ?_,
    fun found r hpath hmethod hannounced => ?_⟩
  · exact exists_reply_of_disabled hnone hcalls hserved (by rwa [hruns.config_eq])
  · exact ⟨notice_of_disabled hnone hreply, fun hpath => not_success_of_disabled hnone hpath hreply⟩
  · obtain ⟨reply, hreply, hresponse⟩ :=
      exists_report_of_disabled hnone hpath hmethod (by rwa [hruns.config_eq])
    exact ⟨reply, _, hreply, hresponse, rfl⟩

/-- A body that is no JSON, and is not said to be, is refused as a correctly signed attempt would
be, after a nonce was asked for. -/
theorem disabled_refuses_text :
    let c : Config := {}
    let found : Circumstances := ⟨0, "n", default, 0, 0⟩
    let ask : Action := .request found ⟨"GET", Wire.noncePath, [], [], some .localhost, .zero⟩
    let r : Http.Request := ⟨"POST", Wire.registerPath,
      [("content-type", Utf8.encode "text/plain")], Utf8.encode "hello", some .localhost, .zero⟩
    c.validate = .ok () ∧ c.registration.enabled = false ∧ ∃ g, create c = .ok g ∧
      let s := outcome Session.step ⟨.start, g⟩ [ask]
      s.gateway.registry = none ∧ ∃ reply, (s.gateway.handle s.clock.read found r).1 = .ok reply ∧
        reply.response = .json 403 (Wire.errorResponse.render
          ⟨"M_FORBIDDEN", "Admin registration is not enabled", none⟩) := by
  intro c found ask r
  have hvalid : c.validate = .ok () := by decide
  have hdisabled : c.registration.enabled = false := rfl
  obtain ⟨g, hcreate, hruns⟩ := disabled_registration_blind hvalid hdisabled
  obtain rfl := Except.ok.inj ((create_of_disabled hvalid hdisabled).symm.trans hcreate)
  obtain ⟨hnone, hreplies, -, -⟩ := hruns .start [ask]
  exact ⟨hvalid, hdisabled, _, hcreate, hnone,
    hreplies found r (.attempt (by decide) rfl) (by decide +kernel) (by decide)⟩

end Enrollment.Gateway
