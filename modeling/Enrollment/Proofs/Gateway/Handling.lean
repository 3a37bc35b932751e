import Enrollment.Proofs.Config.Validation
import Enrollment.Proofs.Gateway.Limits
import Enrollment.Proofs.Gateway.Serving

/-!
# How far a request comes

A request comes as far as the limiter, the time limit or what serves it: a caller that cannot be
checked gets no answer, one who asks too often is turned back, and one whose body takes too long to
arrive is cut off. What else there is to say of the handling of requests follows from what each of
these leaves of a gateway.
-/

namespace Enrollment.Gateway

/-- How far a request comes. -/
inductive Course where
  | unchecked (e : TimeOverflow)
  | turnedBack (wait : Nat) (limited : Address × EndpointClass)
  | cutOff
  | served
  deriving DecidableEq

/-- How far a request comes at a time on the limiter's clock. -/
def course (g : Gateway) (now : Nat) (r : Http.Request) : Course :=
  match (g.checkRate now r).1 with
  | .error e => .unchecked e
  | .ok (some (wait, limited)) => .turnedBack wait limited
  | .ok none => if isLate g.config.timeouts.request (g.waitsFor r) then .cutOff else .served

/-- A gateway after the limiter was asked. -/
def afterCheck (g : Gateway) (now : Nat) (r : Http.Request) : Gateway :=
  { g with limiter := (g.checkRate now r).2 }

/-- What serving a request comes to that is let through in time. -/
def dispatched (g : Gateway) (reading : Reading) (found : Circumstances) (r : Http.Request) :
    Handled :=
  (g.afterCheck found.now r).dispatch reading found r

variable {g : Gateway} {reading : Reading} {found : Circumstances} {r : Http.Request} {now : Nat}
  {wait : Nat} {limited : Address × EndpointClass}

/-! ## What decides how far a request comes -/

theorem course_eq_unchecked_iff {e : TimeOverflow} :
    g.course now r = .unchecked e ↔ (g.checkRate now r).1 = .error e := by
  grind [course]

theorem course_eq_turnedBack_iff : g.course now r = .turnedBack wait limited ↔
    (g.checkRate now r).1 = .ok (some (wait, limited)) := by
  grind [course]

theorem course_eq_cutOff_iff : g.course now r = .cutOff ↔ (g.checkRate now r).1 = .ok none ∧
    isLate g.config.timeouts.request (g.waitsFor r) = true := by
  grind [course]

theorem course_eq_served_iff : g.course now r = .served ↔ (g.checkRate now r).1 = .ok none ∧
    isLate g.config.timeouts.request (g.waitsFor r) = false := by
  grind [course]

/-! ## What handling leaves -/

theorem handle_of_unchecked {e : TimeOverflow} (h : g.course found.now r = .unchecked e)
    (reading : Reading) : g.handle reading found r = (.error e, g.afterCheck found.now r) := by
  have hchecked := course_eq_unchecked_iff.mp h
  rw [handle_eq, afterCheck]
  generalize g.checkRate found.now r = checked at hchecked
  obtain ⟨result, limiter⟩ := checked
  obtain rfl : result = .error e := hchecked
  rfl

theorem handle_of_turnedBack (h : g.course found.now r = .turnedBack wait limited)
    (reading : Reading) : g.handle reading found r =
      g.turnBack (g.checkRate found.now r).2 found r wait limited :=
  handle_of_limited (course_eq_turnedBack_iff.mp h) reading

theorem handle_of_cutOff (h : g.course found.now r = .cutOff) (reading : Reading) :
    g.handle reading found r =
      let metrics := g.metrics.countTimeout.record Refusal.timeout.status found.latencyMillis
      (.ok ⟨finish r Refusal.timeout.response, none, none, TraceParent.ofRequest? r⟩,
        { g.afterCheck found.now r with metrics }) := by
  obtain ⟨hpassed, hlate⟩ := course_eq_cutOff_iff.mp h
  have hserve : (g.afterCheck found.now r).serve reading found r =
      ((g.afterCheck found.now r).refuse .timeout, g.metrics.countTimeout) :=
    serve_of_late (g := g.afterCheck found.now r) hlate reading found
  rw [handle_of_passed hpassed]
  unfold afterCheck at hserve
  simp only [letThrough, hserve]
  rfl

theorem handle_of_served (h : g.course found.now r = .served) (reading : Reading) :
    g.handle reading found r =
      let handled := g.dispatched reading found r
      (handled.answer.map fun response =>
          ⟨finish r response, handled.notice, none, TraceParent.ofRequest? r⟩,
        { g.afterCheck found.now r with
          registry := handled.registry
          metrics := counted found.latencyMillis g.metrics handled.answer }) := by
  obtain ⟨hpassed, htimely⟩ := course_eq_served_iff.mp h
  have hserve : (g.afterCheck found.now r).serve reading found r =
      (g.dispatched reading found r, g.metrics) :=
    serve_of_timely (g := g.afterCheck found.now r) htimely reading found
  rw [handle_of_passed hpassed]
  unfold afterCheck at hserve
  simp only [letThrough, hserve]
  rfl

/-- The answer to an attempt is sent as it is. -/
theorem finish_of_attempt (hpath : r.path = Wire.registerPath) (hmethod : r.method = "POST")
    (response : Http.Response) : finish r response = response := by
  have hendpoint : Endpoint.ofPath? r.path = some .register := by rw [hpath]; rfl
  simp only [finish, hendpoint, Endpoint.finish, hmethod]
  rfl

/-- Where a reply comes from, and what of it is up to that. -/
theorem exists_of_handle {reply : Reply} (hreply : (g.handle reading found r).1 = .ok reply) :
    (∃ wait limited, g.course found.now r = .turnedBack wait limited ∧
        reply.response =
          finish r (Refusal.rateLimited (Limiter.retryAfterMillis wait)).response ∧
        reply.notice = none) ∨
      (g.course found.now r = .cutOff ∧ reply.response = finish r Refusal.timeout.response ∧
        reply.notice = none) ∨
      g.course found.now r = .served ∧ ∃ response,
        (g.dispatched reading found r).answer = .ok response ∧
        reply.response = finish r response ∧
        reply.notice = (g.dispatched reading found r).notice := by
  cases hcourse : g.course found.now r with
  | unchecked e =>
      rw [handle_of_unchecked hcourse] at hreply
      cases hreply
  | turnedBack wait limited =>
      rw [handle_of_turnedBack hcourse] at hreply
      cases hreply
      exact .inl ⟨wait, limited, rfl, rfl, rfl⟩
  | cutOff =>
      rw [handle_of_cutOff hcourse] at hreply
      cases hreply
      exact .inr (.inl ⟨rfl, rfl, rfl⟩)
  | served =>
      rw [handle_of_served hcourse] at hreply
      obtain ⟨response, hanswer, rfl⟩ := Config.map_eq_ok_iff.mp hreply
      exact .inr (.inr ⟨rfl, response, hanswer, rfl, rfl⟩)

end Enrollment.Gateway
