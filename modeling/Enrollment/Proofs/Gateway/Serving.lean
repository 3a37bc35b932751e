import Enrollment.Gateway

/-!
# What a gateway serves

The two endpoints of registration pass on what the registry answers: a nonce or the refusal of a
full ledger, and for an attempt an account or the refusal that its failure comes to. A request whose
body takes too long to arrive is cut off before.
-/

namespace Enrollment.Gateway

/-- The answer to an attempt as it is sent. -/
def respond (denialStatus : UInt16) : Except RegistrationError AccountInfo → Http.Response
  | .ok info => .json 200 (Wire.accountInfo.render info)
  | .error e => (Refusal.ofRegistration denialStatus e).response

/-- The answer to a call for a nonce as it is sent. -/
def respondNonce : Except TableFull String → Http.Response
  | .ok token => .json 200 (Wire.nonceResponse.render ⟨token⟩)
  | .error _ => Refusal.noncesExhausted.response

/-- What the log says of the answer to an attempt. -/
def logged : Except TimeOverflow Verdict → Option DenialNotice
  | .ok verdict => verdict.notice
  | .error _ => none

variable {g : Gateway} {registry : Registry}

theorem serveNonce_eq (hregistry : g.registry = some registry) (reading : Reading)
    (c : Circumstances) : g.serveNonce reading c =
      ⟨(registry.issue reading c.token).1.map respondNonce, none,
        some (registry.issue reading c.token).2⟩ := by
  simp only [serveNonce, hregistry]
  rcases registry.issue reading c.token with ⟨_ | _ | _, _⟩ <;> rfl

theorem serveAttempt_of_read (hregistry : g.registry = some registry) {r : Http.Request}
    {request : RegisterRequest}
    (hread : readAttempt g.config.limits.maxRequestSize r = .ok request) (reading : Reading)
    (c : Circumstances) : g.serveAttempt reading c r =
      ⟨(registry.register reading request.attempt c.drawn).1.map
          fun v => respond g.denialStatus v.answer,
        logged (registry.register reading request.attempt c.drawn).1,
        some (registry.register reading request.attempt c.drawn).2⟩ := by
  simp only [serveAttempt, hregistry, hread]
  rcases registry.register reading request.attempt c.drawn with ⟨e | ⟨answer, notice⟩, registry'⟩
  · rfl
  · cases answer <;> rfl

theorem serveAttempt_of_unread (hregistry : g.registry = some registry) {r : Http.Request}
    {refusal : Refusal} (hread : readAttempt g.config.limits.maxRequestSize r = .error refusal)
    (reading : Reading) (c : Circumstances) : g.serveAttempt reading c r = g.refuse refusal := by
  simp only [serveAttempt, hregistry, hread]

/-- How long the answer to a request waits for its body. -/
def waitsFor (g : Gateway) (r : Http.Request) : Span :=
  if g.readsBody r then r.arrival else .zero

theorem serve_of_late {r : Http.Request}
    (hlate : isLate g.config.timeouts.request (g.waitsFor r) = true) (reading : Reading)
    (c : Circumstances) :
    g.serve reading c r = (g.refuse .timeout, g.metrics.countTimeout) := by
  unfold waitsFor at hlate
  simp only [serve, withDeadline, if_pos hlate]
  rfl

theorem serve_of_timely {r : Http.Request}
    (htimely : isLate g.config.timeouts.request (g.waitsFor r) = false) (reading : Reading)
    (c : Circumstances) : g.serve reading c r = (g.dispatch reading c r, g.metrics) := by
  unfold waitsFor at htimely
  simp only [serve, withDeadline, htimely, Bool.false_eq_true, if_false]

end Enrollment.Gateway
