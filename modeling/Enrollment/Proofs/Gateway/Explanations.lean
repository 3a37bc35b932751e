import Enrollment.Proofs.Gateway.Handling
import Enrollment.Proofs.Wire

/-!
# Errors that say what went wrong

Whoever is refused is told why in JSON, with a code for programs and a message for people, whether
the limiter, the time limit, the endpoint or the lack of one is the reason. Only where a request is
kept from the endpoint at its path, because it announces too long a body or because its method is
not allowed there, the answer explains nothing: it is plain text, or has no body at all.

An answer to `HEAD` is the answer to `GET` without its body.
-/

namespace Enrollment

namespace Gateway

/-- An answer that tells a refusal in JSON. -/
structure Explains (response : Http.Response) (refusal : Refusal) : Prop where
  status_eq : response.status = refusal.status
  contentType_eq : response.contentType = some "application/json"
  parse_eq : Wire.errorResponse.parse (Utf8.encode response.body) = .ok refusal.body

/-- A success, or a refusal as it is written. -/
inductive SucceedsOrRefuses : Http.Response → Prop
  | success {response : Http.Response} (h : Http.isSuccess response.status = true) :
      SucceedsOrRefuses response
  | refusal (refusal : Refusal) : SucceedsOrRefuses refusal.response

/-- A request that is kept from the endpoint at its path. -/
inductive IsBarred (limit : UInt64) (r : Http.Request) : Prop
  | announced (h : announcesTooMuch limit r = true)
  | method {e : Endpoint} (hpath : Endpoint.ofPath? r.path = some e)
      (hmethod : e.allows r.method = false)

/-- Whether an endpoint is asked for the head of its answer alone. -/
def asksForHead (r : Http.Request) : Bool :=
  match Endpoint.ofPath? r.path with
  | some e => e.allows r.method && r.method == "HEAD"
  | none => false

variable {g : Gateway} {reading : Reading} {found : Circumstances} {r : Http.Request}
  {response : Http.Response} {refusal : Refusal}

/-! ## Refusals as they are written and sent -/

theorem explains_response (refusal : Refusal) : Explains refusal.response refusal where
  status_eq := rfl
  contentType_eq := rfl
  parse_eq := Json.Format.parse_render Wire.readable_errorResponse refusal.body

theorem finish_of_head (hhead : asksForHead r = true) :
    finish r response = response.withoutBody := by
  unfold asksForHead at hhead
  split at hhead
  next e he =>
    obtain ⟨hallowed, hname⟩ := Bool.and_eq_true_iff.mp hhead
    simp only [finish, he, Endpoint.finish, hallowed, Bool.not_true, Bool.false_eq_true, if_false]
    exact if_pos (beq_iff_eq.mp hname)
  next => cases hhead

/-- Any other answer is sent with its body, and at most with a list of methods that it did not have
before. -/
theorem exists_finish_of_not_head (hhead : asksForHead r = false) (response : Http.Response) :
    ∃ allow, finish r response = { response with allow } := by
  unfold asksForHead at hhead
  split at hhead
  next e he =>
    simp only [finish, he, Endpoint.finish]
    split
    next => exact ⟨_, rfl⟩
    next hallowed =>
      have hallowed : e.allows r.method = true := by simpa using hallowed
      have hname : r.method ≠ "HEAD" := by simpa [hallowed] using hhead
      exact ⟨_, if_neg hname⟩
  next he =>
    simp only [finish, he]
    exact ⟨_, rfl⟩

theorem Explains.finish (h : Explains response refusal) (hhead : asksForHead r = false) :
    Explains (finish r response) refusal := by
  obtain ⟨allow, hfinish⟩ := exists_finish_of_not_head hhead response
  rw [hfinish]
  exact ⟨h.status_eq, h.contentType_eq, h.parse_eq⟩

/-- A refusal is sent as it is written, unless the head alone is asked for. -/
theorem explained_finish (refusal : Refusal) (r : Http.Request) :
    if asksForHead r then finish r refusal.response = refusal.response.withoutBody
    else Explains (finish r refusal.response) refusal := by
  split
  next hhead => exact finish_of_head hhead
  next hhead => exact (explains_response refusal).finish (Bool.eq_false_iff.mpr hhead)

/-! ## What each layer answers -/

theorem succeedsOrRefuses_serveNonce (h : (g.serveNonce reading found).answer = .ok response) :
    SucceedsOrRefuses response := by
  cases hregistry : g.registry with
  | none =>
      simp only [serveNonce, hregistry] at h
      cases h
      exact .refusal .disabled
  | some registry =>
      rw [serveNonce_eq hregistry] at h
      obtain ⟨answer, -, rfl⟩ := Config.map_eq_ok_iff.mp h
      cases answer with
      | ok token => exact .success rfl
      | error e => exact .refusal .noncesExhausted

theorem succeedsOrRefuses_serveAttempt
    (h : (g.serveAttempt reading found r).answer = .ok response) :
    SucceedsOrRefuses response := by
  cases hregistry : g.registry with
  | none =>
      simp only [serveAttempt, hregistry] at h
      cases h
      exact .refusal .disabled
  | some registry =>
      cases hread : readAttempt g.config.limits.maxRequestSize r with
      | error refusal =>
          rw [serveAttempt_of_unread hregistry hread] at h
          cases h
          exact .refusal refusal
      | ok request =>
          rw [serveAttempt_of_read hregistry hread] at h
          obtain ⟨⟨answer, notice⟩, -, rfl⟩ := Config.map_eq_ok_iff.mp h
          cases answer with
          | ok info => exact .success rfl
          | error e => exact .refusal (.ofRegistration g.denialStatus e)

theorem succeedsOrRefuses_serveEndpoint {e : Endpoint}
    (h : (g.serveEndpoint reading found r e).answer = .ok response) :
    SucceedsOrRefuses response := by
  cases e with
  | nonce => exact succeedsOrRefuses_serveNonce h
  | register => exact succeedsOrRefuses_serveAttempt h
  | health =>
      cases h
      exact .success rfl
  | metrics =>
      cases h
      exact .success rfl

/-- The answer to a request that is kept from its endpoint. -/
def barredAnswer (limit : UInt64) (r : Http.Request) : Http.Response :=
  if announcesTooMuch limit r then announcedTooMuch else .empty 405

theorem dispatch_of_barred (hbarred : IsBarred g.config.limits.maxRequestSize r) :
    (g.dispatch reading found r).answer = .ok (barredAnswer g.config.limits.maxRequestSize r) := by
  unfold dispatch barredAnswer
  cases hannounced : announcesTooMuch g.config.limits.maxRequestSize r with
  | true => rfl
  | false =>
      cases hbarred with
      | announced h => cases hannounced.symm.trans h
      | method hpath hmethod =>
          simp only [hpath, hmethod]
          rfl

theorem succeedsOrRefuses_dispatch (hserved : ¬ IsBarred g.config.limits.maxRequestSize r)
    (h : (g.dispatch reading found r).answer = .ok response) : SucceedsOrRefuses response := by
  have hannounced : announcesTooMuch g.config.limits.maxRequestSize r = false :=
    Bool.eq_false_iff.mpr fun h => hserved (.announced h)
  unfold dispatch at h
  rw [hannounced] at h
  cases hpath : Endpoint.ofPath? r.path with
  | none =>
      simp only [hpath] at h
      cases h
      exact .refusal .notFound
  | some e =>
      have hmethod : e.allows r.method = true := by
        by_contra hmethod
        exact hserved (.method hpath (Bool.eq_false_iff.mpr hmethod))
      simp only [hpath, hmethod, Bool.false_eq_true, if_false, if_true] at h
      exact succeedsOrRefuses_serveEndpoint h

/-- Every error is explained, in every state of a gateway and whatever is asked, unless the request
is served and kept from the endpoint at its path. To such a request the answer is plain text or has
no body. An answer to `HEAD` is an explanation without its body. -/
theorem errors_explained {reply : Reply} (hreply : (g.handle reading found r).1 = .ok reply)
    (herror : Http.isSuccess reply.response.status = false) :
    let isBarred := g.course found.now r = .served ∧ IsBarred g.config.limits.maxRequestSize r
    (isBarred → reply.response = finish r (barredAnswer g.config.limits.maxRequestSize r)) ∧
      (¬ isBarred → ∃ refusal : Refusal,
        if asksForHead r then reply.response = refusal.response.withoutBody
        else Explains reply.response refusal) := by
  intro isBarred
  rcases exists_of_handle hreply with ⟨wait, limited, hcourse, hresponse, -⟩ |
    ⟨hcourse, hresponse, -⟩ | ⟨hcourse, response, hanswer, hresponse, -⟩
  · refine ⟨fun hbarred => ?_, fun _ => ?_⟩
    · cases hcourse.symm.trans hbarred.1
    · rw [hresponse]
      exact ⟨_, explained_finish _ r⟩
  · refine ⟨fun hbarred => ?_, fun _ => ?_⟩
    · cases hcourse.symm.trans hbarred.1
    · rw [hresponse]
      exact ⟨_, explained_finish _ r⟩
  · refine ⟨fun hbarred => ?_, fun hserved => ?_⟩
    · have hbarredAnswer : (g.dispatched reading found r).answer =
          .ok (barredAnswer g.config.limits.maxRequestSize r) :=
        dispatch_of_barred (g := g.afterCheck found.now r) hbarred.2
      rw [hresponse, Except.ok.inj (hanswer.symm.trans hbarredAnswer)]
    · have hserved' : ¬ IsBarred g.config.limits.maxRequestSize r := fun h => hserved ⟨hcourse, h⟩
      cases succeedsOrRefuses_dispatch (g := g.afterCheck found.now r) hserved' hanswer with
      | success hsuccess =>
          rw [hresponse, status_finish, hsuccess] at herror
          cases herror
      | refusal refusal =>
          rw [hresponse]
          exact ⟨refusal, explained_finish refusal r⟩

/-- A method that is not allowed is explained nothing, but a caller who asks too often is told so
before, whatever the method. -/
theorem wrong_method_explained_when_limited :
    let start : Session := ⟨.start, ⟨{}, none, .create {}, {}⟩⟩
    let found : Circumstances := ⟨0, "n", default, 0, 0⟩
    let ask (method : String) : Http.Request :=
      ⟨method, Wire.noncePath, [], [], some (.v4 ⟨1, 2, 3, 4⟩), .zero⟩
    let get := Action.request found (ask "GET")
    let g := (outcome Session.step start [get, get, get]).gateway
    let r := ask "DELETE"
    IsBarred g.config.limits.maxRequestSize r ∧ ∃ reply,
      (g.handle (.ok .origin) found r).1 = .ok reply ∧
        Http.isSuccess reply.response.status = false ∧
        ∃ refusal, Explains reply.response refusal := by
  intro start found ask get g r
  have hbarred : IsBarred g.config.limits.maxRequestSize r :=
    .method (e := .nonce) (by decide +kernel) (by decide +kernel)
  have hlimited : (g.checkRate found.now r).1 =
      .ok (some (Quota.minute / 3, .v4 ⟨1, 2, 3, 4⟩, .nonce)) := by decide +kernel
  obtain ⟨reply, hreply, hstatus, -⟩ := status_turnBack g (g.checkRate found.now r).2 found r
    (Quota.minute / 3) (.v4 ⟨1, 2, 3, 4⟩, .nonce)
  rw [← handle_of_limited hlimited (.ok .origin)] at hreply
  have herror : Http.isSuccess reply.response.status = false := by
    rw [hstatus]
    decide
  obtain ⟨refusal, hrefusal⟩ := (errors_explained hreply herror).2 fun h => by
    cases (course_eq_turnedBack_iff.mpr hlimited).symm.trans h.1
  rw [if_neg (by decide +kernel)] at hrefusal
  exact ⟨hbarred, reply, hreply, herror, refusal, hrefusal⟩

/-- With valid settings, a request that announces too long a body is answered in plain text, and one
whose method is not allowed with no body at all. -/
theorem barred_requests_unexplained :
    let c : Config := { registration := { enabled := true, sharedSecret := some "abc" } }
    let found : Circumstances := ⟨0, "n", default, 0, 0⟩
    let announcing : Http.Request := ⟨"POST", Wire.registerPath,
      [("content-type", Utf8.encode "application/json"), ("content-length", Utf8.encode "65537")],
      [], some .localhost, .zero⟩
    let deleting : Http.Request := ⟨"DELETE", "/health", [], [], some .localhost, .zero⟩
    let plain : Http.Response := .plain 413 "length limit exceeded"
    let empty : Http.Response := { Http.Response.empty 405 with allow := some "GET,HEAD" }
    c.validate = .ok () ∧ ∃ g, create c = .ok g ∧
      (g.handle (.ok .origin) found announcing).1.map (·.response) = .ok plain ∧
      (g.handle (.ok .origin) found deleting).1.map (·.response) = .ok empty ∧
      ∀ refusal, ¬ Explains plain refusal ∧ ¬ Explains empty refusal := by
  intro c found announcing deleting plain empty
  let registry : Registry := .create ⟨.ofSeconds 60, 10000, [], none, {}⟩
    ⟨Utf8.encode "abc", by decide⟩ (.create "localhost" (.ofSeconds 3600))
  let g : Gateway := ⟨c, some registry, .create c.rateLimit, {}⟩
  refine ⟨by decide +kernel, g, by decide +kernel, by decide +kernel, by decide +kernel,
    fun refusal => ⟨fun h => ?_, fun h => ?_⟩⟩
  · exact absurd h.contentType_eq (by decide)
  · exact absurd h.contentType_eq (by decide)

end Gateway

end Enrollment
