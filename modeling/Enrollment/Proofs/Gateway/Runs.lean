import Enrollment.Gateway.Session
import Enrollment.Proofs.Gateway.Serving
import Enrollment.Proofs.Registry.Authorization

/-!
# A gateway's registry

Whatever is asked of a gateway, its registry sees at most one call of it: a token to be issued, an
attempt that a body was read as, or nothing. So a run of a gateway is a run of its registry, in
which the directory is never out of reach. What holds of every run of a registry then holds in every
state that a gateway reaches.
-/

namespace Enrollment

namespace Gateway

/-- What an action of a gateway may ask of the registry. -/
def Causes (limit : UInt64) (action : Action) : Registry.Action → Prop
  | .issue token => ∃ found r, action = .request found r ∧ found.token = token
  | .register attempt drawn => ∃ found r request, action = .request found r ∧
      readAttempt limit r = .ok request ∧ request.attempt = attempt ∧ found.drawn = drawn
  | .sweep => action = .sweep
  | .advance span => action = .advance span
  | .sweepEvery _ _ | .setOutage _ => False

/-- A registry and what an action leaves of it: all of it, or what one call leaves that the action
causes. -/
def AtMostOneCall (limit : UInt64) (action : Action) (t : Registry.Session)
    (after : Option Registry.Session) : Prop :=
  after = some t ∨ ∃ call, Causes limit action call ∧ after = some (t.step call).2

section Requests

variable {g : Gateway} {registry : Registry} (hregistry : g.registry = some registry)
  (clock : Clock) (c : Circumstances) (r : Http.Request)

include hregistry in
theorem atMostOneCall_of_unchanged (action : Action) :
    AtMostOneCall g.config.limits.maxRequestSize action ⟨clock, registry⟩
      (g.registry.map (Registry.Session.mk clock)) :=
  Or.inl (by rw [hregistry]; rfl)

include hregistry in
theorem serveEndpoint_atMostOneCall (endpoint : Endpoint) :
    AtMostOneCall g.config.limits.maxRequestSize (.request c r) ⟨clock, registry⟩
      ((g.serveEndpoint clock.read c r endpoint).registry.map (Registry.Session.mk clock)) := by
  cases endpoint with
  | nonce =>
      refine Or.inr ⟨.issue c.token, ⟨c, r, rfl, rfl⟩, ?_⟩
      rw [serveEndpoint, serveNonce_eq hregistry]
      rfl
  | register =>
      rw [serveEndpoint]
      cases hread : readAttempt g.config.limits.maxRequestSize r with
      | error refusal =>
          rw [serveAttempt_of_unread hregistry hread]
          exact atMostOneCall_of_unchanged hregistry clock _
      | ok request =>
          refine Or.inr ⟨.register request.attempt c.drawn,
            ⟨c, r, request, rfl, hread, rfl, rfl⟩, ?_⟩
          rw [serveAttempt_of_read hregistry hread]
          rfl
  | health => exact atMostOneCall_of_unchanged hregistry clock _
  | metrics => exact atMostOneCall_of_unchanged hregistry clock _

include hregistry in
theorem dispatch_atMostOneCall :
    AtMostOneCall g.config.limits.maxRequestSize (.request c r) ⟨clock, registry⟩
      ((g.dispatch clock.read c r).registry.map (Registry.Session.mk clock)) := by
  unfold dispatch
  split
  · exact atMostOneCall_of_unchanged hregistry clock _
  · split
    · exact atMostOneCall_of_unchanged hregistry clock _
    · split
      · exact serveEndpoint_atMostOneCall hregistry clock c r _
      · exact atMostOneCall_of_unchanged hregistry clock _

include hregistry in
theorem handle_atMostOneCall :
    AtMostOneCall g.config.limits.maxRequestSize (.request c r) ⟨clock, registry⟩
      ((g.handle clock.read c r).2.registry.map (Registry.Session.mk clock)) := by
  unfold handle
  split
  next => exact atMostOneCall_of_unchanged hregistry clock _
  next => exact atMostOneCall_of_unchanged hregistry clock _
  next limiter hrate =>
    -- The limiter let the request pass, and has changed nothing but itself.
    let checked : Gateway := { g with limiter }
    have hchecked : checked.registry = some registry := hregistry
    cases hlate : isLate checked.config.timeouts.request (checked.waitsFor r) with
    | true =>
        rw [serve_of_late hlate]
        exact atMostOneCall_of_unchanged hchecked clock _
    | false =>
        rw [serve_of_timely hlate]
        exact dispatch_atMostOneCall hchecked clock c r

end Requests

theorem config_handle (g : Gateway) (reading : Reading) (c : Circumstances) (r : Http.Request) :
    (g.handle reading c r).2.config = g.config := by
  unfold handle
  split <;> rfl

namespace Session

/-- An event of a gateway. -/
abbrev Occurrence : Type :=
  Event Session Action (Except TimeOverflow Answer)

/-- A request is handled at the reading of the clock, which it leaves as it is. -/
theorem step_request (s : Session) (found : Circumstances) (r : Http.Request) :
    s.step (.request found r) =
      ((s.gateway.handle s.clock.read found r).1.map .reply,
        { s with gateway := (s.gateway.handle s.clock.read found r).2 }) := rfl

/-- The registry of a session with the clock, where registration is enabled. -/
def registration? (s : Session) : Option Registry.Session :=
  s.gateway.registry.map (Registry.Session.mk s.clock)

variable {s : Session} {t : Registry.Session}

theorem config_step (s : Session) (action : Action) :
    (s.step action).2.gateway.config = s.gateway.config := by
  cases action with
  | request found r => exact config_handle _ _ _ _
  | sweep =>
      simp only [step, sweep]
      split <;> rfl
  | advance span => rfl

theorem config_outcome (s : Session) (actions : List Action) :
    (outcome step s actions).gateway.config = s.gateway.config :=
  outcome_induction (motive := fun s' => s'.gateway.config = s.gateway.config)
    (fun s' action hs => (config_step s' action).trans hs) rfl actions

theorem step_atMostOneCall (ht : s.registration? = some t) (action : Action) :
    AtMostOneCall s.gateway.config.limits.maxRequestSize action t
      (s.step action).2.registration? := by
  obtain ⟨registry, hregistry, rfl⟩ := Option.map_eq_some_iff.mp ht
  cases action with
  | request found r => exact handle_atMostOneCall hregistry s.clock found r
  | sweep =>
      refine Or.inr ⟨.sweep, rfl, ?_⟩
      simp only [step, sweep, hregistry]
      rfl
  | advance span =>
      refine Or.inr ⟨.advance span, rfl, ?_⟩
      simp only [registration?, step, hregistry]
      rfl

/-- A run of a gateway is a run of its registry, each call of which some action caused. -/
theorem exists_calls_of_run (ht : s.registration? = some t) (actions : List Action) :
    ∃ calls, (outcome step s actions).registration? = some (outcome Registry.Session.step t calls) ∧
      ∀ call ∈ calls, ∃ action ∈ actions,
        Causes s.gateway.config.limits.maxRequestSize action call := by
  induction actions generalizing s t with
  | nil => exact ⟨[], ht, by simp⟩
  | cons action rest ih =>
      -- The limit of the first state serves for the whole run, since settings never change.
      rcases step_atMostOneCall ht action with hsame | ⟨call, hcauses, hcall⟩
      · obtain ⟨calls, houtcome, hcaused⟩ := ih hsame
        rw [config_step] at hcaused
        refine ⟨calls, houtcome, fun call hmem => ?_⟩
        obtain ⟨action', hmem', hcauses⟩ := hcaused call hmem
        exact ⟨action', List.mem_cons_of_mem _ hmem', hcauses⟩
      · obtain ⟨calls, houtcome, hcaused⟩ := ih hcall
        rw [config_step] at hcaused
        refine ⟨call :: calls, houtcome, fun call' hmem => ?_⟩
        rcases List.mem_cons.mp hmem with rfl | hmem
        · exact ⟨action, List.mem_cons_self, hcauses⟩
        · obtain ⟨action', hmem', hcauses'⟩ := hcaused call' hmem
          exact ⟨action', List.mem_cons_of_mem _ hmem', hcauses'⟩

end Session

end Gateway

end Enrollment
