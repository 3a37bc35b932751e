import Enrollment.Proofs.Gateway.Serving
import Enrollment.Proofs.Wire
import Enrollment.Prover

/-!
# A prover's calls at a gateway

A call becomes a request with the same method, path and body. One that the limiter lets pass, and
whose body arrives in time and is not too large, comes to the registry as it was meant: the call for
a nonce asks for the token that was drawn, and a submission presents the very attempt that the
prover made. What the registry answers is sent as it is.
-/

namespace Enrollment.Gateway

open Prover (Call nonceCall submission)

/-- The request that a call becomes: with its method, its path and its bytes, announced as JSON if
it has a body, and with no other length than it has. -/
structure Carries (call : Call) (r : Http.Request) : Prop where
  method_eq : r.method = call.method
  path_eq : r.path = call.path
  body_eq : r.body = Utf8.encode (call.body.getD "")
  mediaType_eq : call.body.isSome = true →
    r.header? "content-type" = some (Utf8.encode "application/json")
  length_eq : ∀ length, announcedLength? r = some length → length = r.body.length

variable {g : Gateway} {registry : Registry} {r : Http.Request} {c : Circumstances}
  {call : Call} {attempt : Attempt}

theorem not_announcesTooMuch (hcarries : Carries call r) {limit : UInt64}
    (hfits : r.body.length ≤ limit.toNat) : announcesTooMuch limit r = false := by
  unfold announcesTooMuch
  split
  next length hannounced =>
    rw [hcarries.length_eq length hannounced]
    exact decide_eq_false (Nat.not_lt.mpr hfits)
  next => rfl

theorem bodyLimit_of_carries (hcarries : Carries call r) {limit : UInt64}
    (hfits : r.body.length ≤ limit.toNat) (hgreatest : r.body.length ≤ greatestBody) :
    r.body.length ≤ bodyLimit limit r := by
  have hannounced : r.body.length ≤ (announcedLength? r).getD limit.toNat := by
    cases hlength : announcedLength? r with
    | none => exact hfits
    | some length => exact Nat.le_of_eq (hcarries.length_eq length hlength).symm
  exact Nat.le_min.mpr ⟨Nat.le_min.mpr ⟨hfits, hannounced⟩, hgreatest⟩

/-- A submitted attempt is read as the attempt that it is. -/
theorem readAttempt_submission (hcarries : Carries (submission attempt) r) {limit : UInt64}
    (hfits : r.body.length ≤ limit.toNat) (hgreatest : r.body.length ≤ greatestBody) :
    readAttempt limit r = .ok (.ofAttempt attempt) := by
  have hjson : isAnnouncedAsJson r = true := by
    simp only [isAnnouncedAsJson, Http.Request.headerText?, hcarries.mediaType_eq rfl]
    decide
  have hlimit := Nat.not_lt.mpr (bodyLimit_of_carries hcarries hfits hgreatest)
  -- The reader stops at the end of the object, which here is the end of the body.
  have hread := Json.Format.read_render Wire.readable_registerRequest (.ofAttempt attempt) []
  have hbody : r.body = Utf8.encode (Wire.registerRequest.render (.ofAttempt attempt)) ++ [] := by
    rw [hcarries.body_eq, List.append_nil]
    rfl
  simp only [readAttempt, hjson, Bool.not_true, Bool.false_eq_true, if_false, hlimit]
  rw [hbody, hread]

theorem dispatch_nonceCall (hcarries : Carries nonceCall r)
    (hfits : r.body.length ≤ g.config.limits.maxRequestSize.toNat) (reading : Reading) :
    g.dispatch reading c r = g.serveNonce reading c := by
  simp only [dispatch, not_announcesTooMuch hcarries hfits, hcarries.path_eq, hcarries.method_eq]
  rfl

theorem dispatch_submission (hcarries : Carries (submission attempt) r)
    (hfits : r.body.length ≤ g.config.limits.maxRequestSize.toNat) (reading : Reading) :
    g.dispatch reading c r = g.serveAttempt reading c r := by
  simp only [dispatch, not_announcesTooMuch hcarries hfits, hcarries.path_eq, hcarries.method_eq]
  rfl

/-- To a call that its endpoint allows, other than for a head alone, an answer is sent as it is. -/
theorem map_finish_of_carries (hcarries : Carries call r) {endpoint : Endpoint}
    (hendpoint : Endpoint.ofPath? call.path = some endpoint)
    (hallows : endpoint.allows call.method = true) (hhead : call.method ≠ "HEAD")
    (answer : Except TimeOverflow Http.Response) : answer.map (finish r) = answer := by
  have hfinish : ∀ response, finish r response = response := by
    intro response
    simp only [finish, hcarries.path_eq, hendpoint, Endpoint.finish, hcarries.method_eq, hallows,
      Bool.not_true, Bool.false_eq_true, if_false, hhead]
  cases answer with
  | error e => rfl
  | ok response => exact congrArg Except.ok (hfinish response)

/-- A request that the limiter lets pass, and whose body arrives in time and is not too large. -/
structure Passes (g : Gateway) (c : Circumstances) (r : Http.Request) : Prop where
  unlimited : (g.checkRate c.now r).1 = .ok none
  timely : isLate g.config.timeouts.request r.arrival = false
  fits : r.body.length ≤ g.config.limits.maxRequestSize.toNat
  fitsGreatest : r.body.length ≤ greatestBody

theorem Passes.not_isLate (hpasses : Passes g c r) :
    isLate g.config.timeouts.request (g.waitsFor r) = false := by
  unfold waitsFor
  split
  · exact hpasses.timely
  · simp [isLate, Span.zero]

/-- A request that passes is dispatched, and only the limiter has seen it before. -/
theorem handle_of_passes (hpasses : Passes g c r) (reading : Reading) :
    ∃ g' : Gateway, g'.config = g.config ∧ g'.registry = g.registry ∧
      (g.handle reading c r).1.map (·.response) =
        (g'.dispatch reading c r).answer.map (finish r) ∧
      (g.handle reading c r).2.registry = (g'.dispatch reading c r).registry := by
  obtain ⟨limiter, hcheck⟩ : ∃ limiter, g.checkRate c.now r = (.ok none, limiter) :=
    ⟨_, Prod.ext hpasses.unlimited rfl⟩
  have hserve := serve_of_timely (g := { g with limiter }) hpasses.not_isLate reading c
  refine ⟨{ g with limiter }, rfl, rfl, ?_⟩
  simp only [handle, hcheck, hserve]
  generalize ({ g with limiter } : Gateway).dispatch reading c r = handled
  cases handled.answer <;> exact ⟨rfl, trivial⟩

theorem handle_nonceCall (hregistry : g.registry = some registry) (hcarries : Carries nonceCall r)
    (hpasses : Passes g c r) (reading : Reading) :
    (g.handle reading c r).1.map (·.response) =
        (registry.issue reading c.token).1.map respondNonce ∧
      (g.handle reading c r).2.registry = some (registry.issue reading c.token).2 := by
  obtain ⟨g', hconfig, hregistry', hanswer, hleft⟩ := handle_of_passes hpasses reading
  rw [hregistry] at hregistry'
  rw [dispatch_nonceCall hcarries (hconfig ▸ hpasses.fits), serveNonce_eq hregistry']
    at hanswer hleft
  rw [map_finish_of_carries hcarries rfl (by decide) (by decide)] at hanswer
  exact ⟨hanswer, hleft⟩

theorem handle_submission (hregistry : g.registry = some registry)
    (hcarries : Carries (submission attempt) r) (hpasses : Passes g c r) (reading : Reading) :
    (g.handle reading c r).1.map (·.response) =
        (registry.register reading attempt c.drawn).1.map
          (fun v => respond g.denialStatus v.answer) ∧
      (g.handle reading c r).2.registry = some (registry.register reading attempt c.drawn).2 := by
  obtain ⟨g', hconfig, hregistry', hanswer, hleft⟩ := handle_of_passes hpasses reading
  rw [hregistry] at hregistry'
  have hread := readAttempt_submission hcarries hpasses.fits hpasses.fitsGreatest
  rw [← hconfig] at hread
  rw [dispatch_submission hcarries (hconfig ▸ hpasses.fits),
    serveAttempt_of_read hregistry' hread, RegisterRequest.attempt_ofAttempt] at hanswer hleft
  rw [map_finish_of_carries hcarries rfl rfl (show "POST" ≠ "HEAD" by decide)] at hanswer
  -- Only the limiter has changed so far, and the status of a denial is a setting.
  have hstatus : g'.denialStatus = g.denialStatus := by
    unfold denialStatus
    rw [hconfig]
  rw [hstatus] at hanswer
  exact ⟨hanswer, hleft⟩

end Enrollment.Gateway
