import Enrollment.Proofs.Gateway.Allowances
import Enrollment.Proofs.Gateway.Runs

/-!
# Refusals cost nothing

A request to the register path is refused before its nonce is looked at if its caller asks too
often, if it is no `POST`, if its body is too long, not announced as JSON or does not start with an
attempt, or if the attempt breaks a rule. Such a request leaves the registry as it is, but for the
count of attempts that break a rule. So among requests of callers who are never limited, those that
are refused in this way can be left out: every other request is answered as it was, unless it asks
for the counts of requests.

Text after the attempt does not matter, so a body that is no JSON as a whole may be served.
-/

namespace Enrollment

namespace Gateway

/-- A request that no attempt is read from. -/
inductive TurnedAway (limit : UInt64) (r : Http.Request) : Prop
  | method (h : r.method ≠ "POST")
  | announced (h : announcesTooMuch limit r = true)
  | mediaType (h : isAnnouncedAsJson r = false)
  | tooLong (h : bodyLimit limit r < r.body.length)
  /-- The body does not start with JSON, or with JSON that is no attempt. -/
  | unread {fault : Json.Fault} (h : Wire.registerRequest.read r.body = .error fault)

/-- A request whose body starts with an attempt that breaks a rule. -/
def Misshapen (r : Http.Request) : Prop :=
  ∃ request rest e, Wire.registerRequest.read r.body = .ok (request, rest) ∧
    request.attempt.validate = .error e

/-- Whether a request to the register path is refused, before its nonce is looked at, for what it
is. -/
def isFutile (limit : UInt64) (r : Http.Request) : Bool :=
  !Endpoint.register.allows r.method || announcesTooMuch limit r ||
    match readAttempt limit r with
    | .ok request => !request.attempt.validate.isOk
    | .error _ => true

variable {g : Gateway} {reading : Reading} {c : Circumstances} {r : Http.Request} {limit : UInt64}

/-! ## What a refused request leaves -/

theorem register_allows_iff {method : String} :
    Endpoint.register.allows method = true ↔ method = "POST" := by
  simp [Endpoint.allows, Endpoint.methods]

/-- What turns a request away, as far as its body goes, is what keeps the attempt from being read. -/
theorem readAttempt_eq_error_iff : (∃ refusal, readAttempt limit r = .error refusal) ↔
    isAnnouncedAsJson r = false ∨ bodyLimit limit r < r.body.length ∨
      ∃ fault, Wire.registerRequest.read r.body = .error fault := by
  unfold readAttempt
  cases isAnnouncedAsJson r with
  | false => simp
  | true =>
      by_cases hlong : bodyLimit limit r < r.body.length
      · simp [hlong]
      · cases Wire.registerRequest.read r.body <;> simp [hlong]

theorem turnedAway_iff : TurnedAway limit r ↔ Endpoint.register.allows r.method = false ∨
    announcesTooMuch limit r = true ∨ ∃ refusal, readAttempt limit r = .error refusal := by
  rw [readAttempt_eq_error_iff, ← Bool.not_eq_true, register_allows_iff]
  constructor
  · rintro (h | h | h | h | h)
    · exact .inl h
    · exact .inr (.inl h)
    · exact .inr (.inr (.inl h))
    · exact .inr (.inr (.inr (.inl h)))
    · exact .inr (.inr (.inr (.inr ⟨_, h⟩)))
  · rintro (h | h | h | h | ⟨fault, h⟩)
    · exact .method h
    · exact .announced h
    · exact .mediaType h
    · exact .tooLong h
    · exact .unread h

theorem exists_of_readAttempt {request : RegisterRequest}
    (hread : readAttempt limit r = .ok request) :
    ∃ rest, Wire.registerRequest.read r.body = .ok (request, rest) := by
  unfold readAttempt at hread
  split at hread
  · cases hread
  · split at hread
    · cases hread
    · split at hread
      next request' rest hrequest =>
        cases hread
        exact ⟨rest, hrequest⟩
      next => cases hread

theorem isFutile_iff : isFutile limit r = true ↔ TurnedAway limit r ∨ Misshapen r := by
  rw [turnedAway_iff, isFutile]
  cases hread : readAttempt limit r with
  | error refusal => simp
  | ok request =>
      obtain ⟨rest, hrequest⟩ := exists_of_readAttempt hread
      have hmisshapen : Misshapen r ↔ request.attempt.validate.isOk = false := by
        unfold Misshapen
        rw [hrequest]
        cases hvalid : request.attempt.validate <;> simp_all [Except.isOk, Except.toBool]
      simp [hmisshapen, or_assoc]

/-- A POST to the register path that announces no more than the limit comes to its attempt. -/
theorem dispatch_of_allowed (hpath : r.path = Wire.registerPath)
    (hmethod : Endpoint.register.allows r.method = true)
    (hannounced : announcesTooMuch g.config.limits.maxRequestSize r = false) :
    g.dispatch reading c r = g.serveAttempt reading c r := by
  have hendpoint : Endpoint.ofPath? r.path = some .register := by rw [hpath]; rfl
  simp only [dispatch, hannounced, hendpoint, hmethod, serveEndpoint]
  rfl

theorem registry_dispatch_of_turnedAway (hpath : r.path = Wire.registerPath)
    (h : TurnedAway g.config.limits.maxRequestSize r) :
    (g.dispatch reading c r).registry = g.registry := by
  have hendpoint : Endpoint.ofPath? r.path = some .register := by rw [hpath]; rfl
  cases hannounced : announcesTooMuch g.config.limits.maxRequestSize r with
  | true => simp only [dispatch, hannounced, if_true]
  | false =>
      cases hmethod : Endpoint.register.allows r.method with
      | false =>
          simp only [dispatch, hannounced, hendpoint, hmethod]
          rfl
      | true =>
          have hunread := turnedAway_iff.mp h
          simp only [hmethod, hannounced, Bool.true_eq_false, Bool.false_eq_true, false_or]
            at hunread
          obtain ⟨refusal, hread⟩ := hunread
          rw [dispatch_of_allowed hpath hmethod hannounced]
          cases hregistry : g.registry with
          | none => simp only [serveAttempt, hregistry, refuse]
          | some registry =>
              rw [serveAttempt_of_unread hregistry hread]
              exact hregistry

theorem registry_dispatch_of_misshapen (hpath : r.path = Wire.registerPath)
    (hnot : ¬ TurnedAway g.config.limits.maxRequestSize r) (h : Misshapen r) :
    (g.dispatch reading c r).registry = g.registry.map Registry.countInvalid := by
  rw [turnedAway_iff] at hnot
  push Not at hnot
  obtain ⟨hmethod, hannounced, hnot⟩ := hnot
  obtain ⟨request, rest, e, hrequest, hinvalid⟩ := h
  cases hread : readAttempt g.config.limits.maxRequestSize r with
  | error refusal => exact absurd hread (hnot refusal)
  | ok request' =>
      obtain ⟨rest', hrequest'⟩ := exists_of_readAttempt hread
      cases hrequest.symm.trans hrequest'
      rw [dispatch_of_allowed hpath (by simpa using hmethod) (by simpa using hannounced)]
      cases hregistry : g.registry with
      | none => simp only [serveAttempt, hregistry, refuse, Option.map_none]
      | some registry =>
          rw [serveAttempt_of_read hregistry hread, Registry.register_of_invalid hinvalid]
          rfl

/-- The registry after a request is handled, where the limiter lets it pass. -/
theorem registry_handle_of_unlimited (hunlimited : (g.checkRate c.now r).1 = .ok none) :
    (g.handle reading c r).2.registry =
      if isLate g.config.timeouts.request (g.waitsFor r) then g.registry
      else (({ g with limiter := (g.checkRate c.now r).2 } : Gateway).dispatch reading c r).registry
    := by
  obtain ⟨limiter, hcheck⟩ : ∃ limiter, g.checkRate c.now r = (.ok none, limiter) :=
    ⟨_, Prod.ext hunlimited rfl⟩
  simp only [handle, hcheck]
  -- The limiter's part of a gateway does not decide what is late.
  cases hlate : isLate g.config.timeouts.request (g.waitsFor r) with
  | true =>
      rw [serve_of_late (g := { g with limiter }) hlate]
      rfl
  | false =>
      rw [serve_of_timely (g := { g with limiter }) hlate]
      rfl

/-- A request that the limiter does not let pass leaves the registry as it is. -/
theorem registry_handle_of_limited (hlimited : (g.checkRate c.now r).1 ≠ .ok none) :
    (g.handle reading c r).2.registry = g.registry := by
  unfold handle
  split
  next => rfl
  next => rfl
  next limiter hcheck => exact absurd (congrArg Prod.fst hcheck) hlimited

theorem registry_handle_of_turnedAway (hpath : r.path = Wire.registerPath)
    (h : TurnedAway g.config.limits.maxRequestSize r) :
    (g.handle reading c r).2.registry = g.registry := by
  by_cases hunlimited : (g.checkRate c.now r).1 = .ok none
  · rw [registry_handle_of_unlimited hunlimited]
    split
    · rfl
    · exact registry_dispatch_of_turnedAway hpath h
  · exact registry_handle_of_limited hunlimited

/-- An attempt that breaks a rule is counted as such, unless it is limited or cut off before. -/
theorem registry_handle_of_misshapen (hpath : r.path = Wire.registerPath)
    (hnot : ¬ TurnedAway g.config.limits.maxRequestSize r) (h : Misshapen r) :
    (g.handle reading c r).2.registry =
      if (g.checkRate c.now r).1 = .ok none ∧
          isLate g.config.timeouts.request (g.waitsFor r) = false
      then g.registry.map Registry.countInvalid else g.registry := by
  by_cases hunlimited : (g.checkRate c.now r).1 = .ok none
  · rw [registry_handle_of_unlimited hunlimited]
    cases isLate g.config.timeouts.request (g.waitsFor r) with
    | true => simp
    | false =>
        simp only [hunlimited, Bool.false_eq_true, if_false, and_self, if_true]
        exact registry_dispatch_of_misshapen hpath hnot h
  · rw [registry_handle_of_limited hunlimited, if_neg fun h => hunlimited h.1]

theorem registry_handle_of_futile (hpath : r.path = Wire.registerPath)
    (h : isFutile g.config.limits.maxRequestSize r = true) :
    (g.handle reading c r).2.registry = g.registry ∨
      (g.handle reading c r).2.registry = g.registry.map Registry.countInvalid := by
  by_cases hturned : TurnedAway g.config.limits.maxRequestSize r
  · exact .inl (registry_handle_of_turnedAway hpath hturned)
  · have hmisshapen := (isFutile_iff.mp h).resolve_left hturned
    rw [registry_handle_of_misshapen hpath hturned hmisshapen]
    split
    · exact .inr rfl
    · exact .inl rfl

end Gateway

/-! ## What does not depend on refused requests -/

namespace Registry

/-- The registry as if no attempt had broken a rule. -/
def withoutInvalid (r : Registry) : Registry :=
  { r with tally := { r.tally with invalid := 0 } }

theorem withoutInvalid_issue (r : Registry) (reading : Reading) (token : String) :
    (r.withoutInvalid.issue reading token).1 = (r.issue reading token).1 ∧
      (r.withoutInvalid.issue reading token).2.withoutInvalid =
        (r.issue reading token).2.withoutInvalid := by
  have hledger : r.withoutInvalid.ledger = r.ledger := rfl
  rw [issue_eq, issue_eq, hledger]
  refine ⟨rfl, ?_⟩
  split <;> rfl

theorem withoutInvalid_createAccount (r : Registry) (account : NewAccount) (drawn : Credentials) :
    (r.withoutInvalid.createAccount account drawn).1 = (r.createAccount account drawn).1 ∧
      (r.withoutInvalid.createAccount account drawn).2.withoutInvalid =
        (r.createAccount account drawn).2.withoutInvalid := by
  obtain ⟨authority, directory, outage, tally⟩ := r
  cases outage with
  | some reason => exact ⟨rfl, rfl⟩
  | none =>
      simp only [createAccount, withoutInvalid]
      rcases directory.register account drawn with ⟨_ | _, _⟩ <;> exact ⟨rfl, rfl⟩

theorem withoutInvalid_register (r : Registry) (reading : Reading) (attempt : Attempt)
    (drawn : Credentials) :
    (r.withoutInvalid.register reading attempt drawn).1 = (r.register reading attempt drawn).1 ∧
      (r.withoutInvalid.register reading attempt drawn).2.withoutInvalid =
        (r.register reading attempt drawn).2.withoutInvalid := by
  have hauthority : r.withoutInvalid.authority = r.authority := rfl
  unfold register
  rw [hauthority]
  cases attempt.validate with
  | error e => exact ⟨rfl, rfl⟩
  | ok _ =>
      rcases r.authority.decide reading attempt with ⟨e | reason | proof, authority⟩
      · exact ⟨rfl, rfl⟩
      · exact ⟨rfl, rfl⟩
      · let authorized : Registry := { r with authority }.countAuthorized
        obtain ⟨hanswer, hleft⟩ :=
          authorized.withoutInvalid_createAccount (proof.account attempt.displayName) drawn
        refine ⟨?_, hleft⟩
        exact congrArg (fun answer => Except.ok (Verdict.mk (Except.mapError .account answer) none))
          hanswer

end Registry

namespace Gateway

/-- The counts of requests are asked for. -/
def asksForCounts (r : Http.Request) : Bool :=
  Endpoint.ofPath? r.path == some .metrics

/-- What a request comes to, as far as it does not depend on refused ones. -/
def Handled.shown (r : Http.Request) (h : Handled) :
    Option (Except TimeOverflow Http.Response × Option DenialNotice) × Option Registry :=
  (if asksForCounts r then none else some (h.answer, h.notice),
    h.registry.map Registry.withoutInvalid)

/-- The gateway as if it had refused nothing, and with no requests counted. -/
def withoutRefusals (g : Gateway) : Gateway :=
  { g with registry := g.registry.map Registry.withoutInvalid, metrics := {} }

variable {g : Gateway} {reading : Reading} {c : Circumstances} {r : Http.Request}

theorem map_withoutInvalid_twice (registry : Option Registry) :
    (registry.map Registry.withoutInvalid).map Registry.withoutInvalid =
      registry.map Registry.withoutInvalid := by
  cases registry <;> rfl

/-- What leaves the registry as it is shows the same. -/
theorem shown_of_unchanged (answer : Except TimeOverflow Http.Response)
    (notice : Option DenialNotice) :
    Handled.shown r ⟨answer, notice, g.withoutRefusals.registry⟩ =
      Handled.shown r ⟨answer, notice, g.registry⟩ :=
  congrArg (Prod.mk _) (map_withoutInvalid_twice g.registry)

theorem shown_serveNonce : (g.withoutRefusals.serveNonce reading c).shown r =
    (g.serveNonce reading c).shown r := by
  cases hregistry : g.registry with
  | none =>
      have hregistry' : g.withoutRefusals.registry = none := by simp [withoutRefusals, hregistry]
      simp only [serveNonce, hregistry, hregistry']
      exact shown_of_unchanged _ _
  | some registry =>
      have hregistry' : g.withoutRefusals.registry = some registry.withoutInvalid := by
        simp [withoutRefusals, hregistry]
      obtain ⟨hanswer, hleft⟩ := registry.withoutInvalid_issue reading c.token
      rw [serveNonce_eq hregistry, serveNonce_eq hregistry']
      simp only [Handled.shown, Option.map_some]
      rw [hanswer, hleft]

theorem shown_serveAttempt : (g.withoutRefusals.serveAttempt reading c r).shown r =
    (g.serveAttempt reading c r).shown r := by
  cases hregistry : g.registry with
  | none =>
      have hregistry' : g.withoutRefusals.registry = none := by simp [withoutRefusals, hregistry]
      simp only [serveAttempt, hregistry, hregistry']
      exact shown_of_unchanged _ _
  | some registry =>
      have hregistry' : g.withoutRefusals.registry = some registry.withoutInvalid := by
        simp [withoutRefusals, hregistry]
      cases hread : readAttempt g.config.limits.maxRequestSize r with
      | error refusal =>
          rw [serveAttempt_of_unread hregistry hread, serveAttempt_of_unread hregistry' hread]
          exact shown_of_unchanged _ _
      | ok request =>
          obtain ⟨hanswer, hleft⟩ :=
            registry.withoutInvalid_register reading request.attempt c.drawn
          rw [serveAttempt_of_read hregistry hread, serveAttempt_of_read hregistry' hread]
          simp only [Handled.shown, Option.map_some]
          rw [hanswer, hleft]
          rfl

theorem shown_serveEndpoint {endpoint : Endpoint}
    (hendpoint : Endpoint.ofPath? r.path = some endpoint) :
    (g.withoutRefusals.serveEndpoint reading c r endpoint).shown r =
      (g.serveEndpoint reading c r endpoint).shown r := by
  cases endpoint with
  | nonce => exact shown_serveNonce
  | register => exact shown_serveAttempt
  | health =>
      have henabled : g.withoutRefusals.registry.isSome = g.registry.isSome := Option.isSome_map
      simp only [serveEndpoint, henabled]
      exact shown_of_unchanged _ _
  | metrics =>
      have hasks : asksForCounts r = true := by simp [asksForCounts, hendpoint]
      simp only [Handled.shown, hasks, if_true]
      exact congrArg (Prod.mk none) (map_withoutInvalid_twice g.registry)

theorem shown_dispatch : (g.withoutRefusals.dispatch reading c r).shown r =
    (g.dispatch reading c r).shown r := by
  have hsettings : g.withoutRefusals.config = g.config := rfl
  simp only [dispatch, hsettings]
  split
  · exact shown_of_unchanged _ _
  · cases hendpoint : Endpoint.ofPath? r.path with
    | none => exact shown_of_unchanged _ _
    | some endpoint =>
        simp only
        split
        · exact shown_serveEndpoint hendpoint
        · exact shown_of_unchanged _ _

theorem shown_serve : (g.withoutRefusals.serve reading c r).1.shown r =
    (g.serve reading c r).1.shown r := by
  cases hlate : isLate g.config.timeouts.request (g.waitsFor r) with
  | true =>
      rw [serve_of_late hlate, serve_of_late (g := g.withoutRefusals) hlate]
      exact shown_of_unchanged _ _
  | false =>
      rw [serve_of_timely hlate, serve_of_timely (g := g.withoutRefusals) hlate]
      exact shown_dispatch

/-- A request is answered whatever was refused before, unless it asks for the counts. -/
theorem handle_withoutRefusals (g : Gateway) (reading : Reading) (c : Circumstances)
    (r : Http.Request) :
    (asksForCounts r = false →
        (g.withoutRefusals.handle reading c r).1 = (g.handle reading c r).1) ∧
      (g.withoutRefusals.handle reading c r).2.withoutRefusals =
        (g.handle reading c r).2.withoutRefusals := by
  have hcheck : g.withoutRefusals.checkRate c.now r = g.checkRate c.now r := rfl
  have htwice := map_withoutInvalid_twice g.registry
  unfold handle
  rw [hcheck]
  rcases g.checkRate c.now r with ⟨e | _ | limited, limiter⟩
  · exact ⟨fun _ => rfl, congrArg (Gateway.mk g.config · limiter {}) htwice⟩
  · let checked : Gateway := { g with limiter }
    have hshown : (checked.withoutRefusals.serve reading c r).1.shown r =
        (checked.serve reading c r).1.shown r := shown_serve
    simp only [Handled.shown, Prod.mk.injEq] at hshown
    obtain ⟨hanswer, hleft⟩ := hshown
    refine ⟨?_, congrArg (Gateway.mk g.config · limiter {}) hleft⟩
    intro hother
    simp only [hother, Bool.false_eq_true, if_false, Option.some.injEq, Prod.mk.injEq] at hanswer
    obtain ⟨hanswer, hnotice⟩ := hanswer
    exact congrArg₂ (fun answer notice => Except.map
      (fun response => Reply.mk (finish r response) notice none (TraceParent.ofRequest? r)) answer)
      hanswer hnotice
  · exact ⟨fun _ => rfl, congrArg (Gateway.mk g.config · limiter {}) htwice⟩

/-- The limiter lets the caller of a request pass, however often the caller asks. -/
def exempts (g : Gateway) (r : Http.Request) : Bool :=
  g.limiter.isExempt (callerAddress g.limiter.settings.trustForwarded r)

theorem checkRate_of_exempt (hexempt : g.exempts r = true) (now : Nat) :
    g.checkRate now r = (.ok none, g.limiter) := by
  unfold exempts at hexempt
  unfold checkRate
  split
  · rfl
  · simp only [Limiter.check, hexempt, if_true]
    rfl

/-- A request of an exempt caller that is refused early leaves the gateway as it is, but for what is
counted of refusals. -/
theorem withoutRefusals_handle_of_futile (hpath : r.path = Wire.registerPath)
    (hexempt : g.exempts r = true) (h : isFutile g.config.limits.maxRequestSize r = true) :
    (g.handle reading c r).2.withoutRefusals = g.withoutRefusals := by
  have hregistry : (g.handle reading c r).2.registry.map Registry.withoutInvalid =
      g.registry.map Registry.withoutInvalid := by
    have hleft : (g.handle reading c r).2.registry = g.registry ∨
        (g.handle reading c r).2.registry = g.registry.map Registry.countInvalid :=
      registry_handle_of_futile hpath h
    rcases hleft with heq | heq
    · rw [heq]
    · rw [heq]
      cases g.registry <;> rfl
  have hlimiter : (g.handle reading c r).2.limiter = g.limiter := by
    unfold handle
    rw [checkRate_of_exempt hexempt]
  unfold withoutRefusals
  rw [hregistry, hlimiter, config_handle]

/-! ## Runs -/

theorem settings_handle (g : Gateway) (reading : Reading) (c : Circumstances) (r : Http.Request) :
    (g.handle reading c r).2.limiter.settings = g.limiter.settings := by
  have hcheck : (g.checkRate c.now r).2.settings = g.limiter.settings := by
    unfold checkRate
    split
    · rfl
    · exact Limiter.settings_check _ _ _ _
  unfold handle
  split
  next hlimiter => rw [hlimiter] at hcheck; exact hcheck
  next hlimiter => rw [hlimiter] at hcheck; exact hcheck
  next hlimiter => rw [hlimiter] at hcheck; exact hcheck

/-- A request to the register path that an exempt caller makes in vain. -/
def Action.isFutile (g : Gateway) : Action → Bool
  | .request _ r => r.path == Wire.registerPath && g.exempts r &&
      Gateway.isFutile g.config.limits.maxRequestSize r
  | _ => false

/-- A request for the counts. -/
def Action.asksForCounts : Action → Bool
  | .request _ r => Gateway.asksForCounts r
  | _ => false

namespace Session

def withoutRefusals (s : Session) : Session :=
  { s with gateway := s.gateway.withoutRefusals }

/-- The answer of an event, unless it tells the counts, and the state that it leaves, but for what
is counted of refusals. -/
def shown (e : Occurrence) : Option (Except TimeOverflow Answer) × Session :=
  (if e.action.asksForCounts then none else some e.answer, e.after.withoutRefusals)

theorem withoutRefusals_twice (s : Session) :
    s.withoutRefusals.withoutRefusals = s.withoutRefusals :=
  congrArg (fun registry => Session.mk s.clock ⟨s.gateway.config, registry, s.gateway.limiter, {}⟩)
    (map_withoutInvalid_twice s.gateway.registry)

/-- What was refused before does not show. -/
theorem shown_withoutRefusals (s : Session) (action : Action) :
    shown (eventOf step s.withoutRefusals action) = shown (eventOf step s action) := by
  cases action with
  | request found r =>
      obtain ⟨hanswer, hleft⟩ := s.gateway.handle_withoutRefusals s.clock.read found r
      have hgateway : s.withoutRefusals.gateway = s.gateway.withoutRefusals := rfl
      have hclock : s.withoutRefusals.clock = s.clock := rfl
      simp only [shown, eventOf, step_request, hgateway, hclock]
      refine Prod.ext ?_ (congrArg (Session.mk s.clock) hleft)
      by_cases hasks : (Action.request found r).asksForCounts = true
      · exact (if_pos hasks).trans (if_pos hasks).symm
      · have hreply := congrArg (Except.map Answer.reply) (hanswer (Bool.not_eq_true _ ▸ hasks))
        exact (if_neg hasks).trans ((congrArg some hreply).trans (if_neg hasks).symm)
  | sweep =>
      obtain ⟨clock, config, registry, limiter, metrics⟩ := s
      cases registry <;> rfl
  | advance span =>
      exact congrArg (fun s : Session => (some _, { s with clock := (s.clock.advance span).2 }))
        s.withoutRefusals_twice

theorem settings_step (s : Session) (action : Action) :
    (s.step action).2.gateway.limiter.settings = s.gateway.limiter.settings := by
  cases action with
  | request found r =>
      rw [step_request]
      exact settings_handle _ _ _ _
  | sweep =>
      simp only [step, sweep]
      split <;> rfl
  | advance span => rfl

/-- Whether a request is made in vain is up to the settings, which no action changes. -/
theorem isFutile_step (s : Session) (action later : Action) :
    later.isFutile (s.step action).2.gateway = later.isFutile s.gateway := by
  cases later with
  | request found r =>
      simp only [Action.isFutile, exempts, Limiter.isExempt, settings_step, config_step]
  | sweep => rfl
  | advance span => rfl

theorem withoutRefusals_step_of_futile {s : Session} {action : Action}
    (hfutile : action.isFutile s.gateway = true) :
    (s.step action).2.withoutRefusals = s.withoutRefusals := by
  cases action with
  | request found r =>
      simp only [Action.isFutile, Bool.and_eq_true, beq_iff_eq] at hfutile
      obtain ⟨⟨hpath, hexempt⟩, hfutile⟩ := hfutile
      rw [step_request]
      exact congrArg (Session.mk s.clock)
        (withoutRefusals_handle_of_futile hpath hexempt hfutile)
  | sweep => cases hfutile
  | advance span => cases hfutile

/-- What is observed of a run, oldest first: of futile requests, nothing. -/
def observations (g : Gateway) (trail : List Occurrence) :
    List (Option (Except TimeOverflow Answer) × Session) :=
  (trail.filter (!·.action.isFutile g)).map shown

variable {s s' : Session}

theorem shown_of_like (hlike : s'.withoutRefusals = s.withoutRefusals) (action : Action) :
    shown (eventOf step s' action) = shown (eventOf step s action) := by
  rw [← shown_withoutRefusals, ← shown_withoutRefusals s, hlike]

/-- Sessions that differ only in what is counted of refusals, with the settings of a gateway. -/
structure Alike (g : Gateway) (s s' : Session) : Prop where
  like : s'.withoutRefusals = s.withoutRefusals
  isFutile_eq : ∀ action : Action, action.isFutile s.gateway = action.isFutile g

namespace Alike

variable {g : Gateway} {action : Action}

theorem step_of_futile (h : Alike g s s') (hfutile : action.isFutile g = true) :
    Alike g (s.step action).2 s' where
  like := h.like.trans (withoutRefusals_step_of_futile ((h.isFutile_eq action).trans hfutile)).symm
  isFutile_eq later := (isFutile_step s action later).trans (h.isFutile_eq later)

theorem step (h : Alike g s s') (action : Action) :
    shown (eventOf Session.step s action) = shown (eventOf Session.step s' action) ∧
      Alike g (s.step action).2 (s'.step action).2 := by
  have hshown := shown_of_like h.like action
  exact ⟨hshown.symm, congrArg Prod.snd hshown,
    fun later => (isFutile_step s action later).trans (h.isFutile_eq later)⟩

/-- A run is observed like the run without its futile requests. -/
theorem observations_eq (h : Alike g s s') (actions : List Action) :
    let kept := actions.filter (!·.isFutile g)
    observations g (events Session.step s actions) = (events Session.step s' kept).map shown ∧
      Alike g (outcome Session.step s actions) (outcome Session.step s' kept) :=
  shown_without (fun _ hfutile h => h.step_of_futile hfutile) (fun action _ h => h.step action) h
    actions

end Alike

/-- In every state, a request to the register path that is limited or turned away leaves nonces,
accounts and counts as they are, and one whose attempt breaks a rule is counted as that and no more.
So from every run all such requests of exempt callers can be left out: every other request that does
not ask for the counts is answered as it was, with the same notice in the log, and every action
leaves the same state but for what is counted of refusals. -/
theorem refusals_unobserved (s : Session) :
    (∀ found r, r.path = Wire.registerPath →
      let limit := s.gateway.config.limits.maxRequestSize
      let left := (s.step (.request found r)).2.gateway.registry
      ((∃ wait, (s.gateway.checkRate found.now r).1 = .ok (some wait)) ∨ TurnedAway limit r →
        left = s.gateway.registry) ∧
      (¬ TurnedAway limit r → Misshapen r → left =
        if (s.gateway.checkRate found.now r).1 = .ok none ∧
            isLate s.gateway.config.timeouts.request (s.gateway.waitsFor r) = false
        then s.gateway.registry.map Registry.countInvalid else s.gateway.registry)) ∧
    ∀ actions : List Action,
      let kept := actions.filter (!·.isFutile s.gateway)
      observations s.gateway (events step s actions) = (events step s kept).map shown ∧
        (s.run actions).2.withoutRefusals = (s.run kept).2.withoutRefusals := by
  refine ⟨?_, ?_⟩
  · intro found r hpath
    rw [step_request]
    refine ⟨?_, registry_handle_of_misshapen hpath⟩
    rintro (⟨wait, hlimited⟩ | hturned)
    · refine registry_handle_of_limited ?_
      rw [hlimited]
      intro heq
      cases heq
    · exact registry_handle_of_turnedAway hpath hturned
  · intro actions kept
    have halike : Alike s.gateway s s := ⟨rfl, fun _ => rfl⟩
    obtain ⟨hobserved, hend⟩ := halike.observations_eq actions
    refine ⟨hobserved, ?_⟩
    simp only [run, run_eq]
    exact hend.like.symm

/-- Where a request to the register path is refused for its method and for its username, and then
served: the first two change nothing, and the third is answered as if it had come alone. -/
theorem attempt_answered_as_if_never_refused :
    let start : Session := ⟨.start, ⟨{}, some (.create ⟨.ofSeconds 60, 10, [], none, {}⟩
      ⟨[1], by decide⟩ (.create "server" (.ofSeconds 300))), .create {}, {}⟩⟩
    let found : Circumstances := ⟨0, "n", default, 0, 0⟩
    let post (method username : String) : Http.Request := ⟨method, Wire.registerPath,
      [("content-type", Utf8.encode "application/json")], Utf8.encode (Wire.registerRequest.render
        ⟨"n", username, "pw", false, none, none, ""⟩), some .localhost, .zero⟩
    let nonce : Action := .request found ⟨"GET", Wire.noncePath, [], [], some .localhost, .zero⟩
    let put := post "PUT" "alice"
    let actions : List Action := [nonce, .request found put,
      .request found (post "POST" "Not Valid"), .request found (post "POST" "alice")]
    TurnedAway start.gateway.config.limits.maxRequestSize put ∧
      (start.step (.request found put)).2.gateway.registry = start.gateway.registry ∧
      observations start.gateway (events step start actions) =
        (events step start [nonce, .request found (post "POST" "alice")]).map shown := by
  intro start found post nonce put actions
  have hput : TurnedAway start.gateway.config.limits.maxRequestSize put := .method (by decide)
  have hpath : put.path = Wire.registerPath := by decide +kernel
  obtain ⟨hrequest, hrun⟩ := refusals_unobserved start
  refine ⟨hput, (hrequest found put hpath).1 (.inr hput), ?_⟩
  have hkept : actions.filter (!·.isFutile start.gateway) =
      [nonce, .request found (post "POST" "alice")] := by
    have hmethod : (Action.request found put).isFutile start.gateway = true := by decide +kernel
    have husername : (Action.request found (post "POST" "Not Valid")).isFutile start.gateway =
        true := by decide +kernel
    have hserved : (Action.request found (post "POST" "alice")).isFutile start.gateway = false := by
      decide +kernel
    have hnonce : nonce.isFutile start.gateway = false := by decide +kernel
    have hkeep : ∀ {action : Action} {rest : List Action}, action.isFutile start.gateway = false →
        (action :: rest).filter (!·.isFutile start.gateway) =
          action :: rest.filter (!·.isFutile start.gateway) := fun h =>
      List.filter_cons_of_pos (by simp [h])
    have hdrop : ∀ {action : Action} {rest : List Action}, action.isFutile start.gateway = true →
        (action :: rest).filter (!·.isFutile start.gateway) =
          rest.filter (!·.isFutile start.gateway) := fun h =>
      List.filter_cons_of_neg (by simp [h])
    rw [hkeep hnonce, hdrop hmethod, hdrop husername, hkeep hserved, List.filter_nil]
  exact (hrun actions).1.trans (congrArg (fun kept => (events step start kept).map shown) hkept)

/-- A nonce is spent by a body that is no JSON as a whole, since what follows the attempt in it does
not matter. -/
theorem nonce_spent_by_attempt_and_more :
    let start : Session := ⟨.start, ⟨{}, some (.create ⟨.ofSeconds 60, 10, [], none, {}⟩
      ⟨[1], by decide⟩ (.create "server" (.ofSeconds 300))), .create {}, {}⟩⟩
    let found : Circumstances := ⟨0, "n", default, 0, 0⟩
    let s := (start.step (.request found
      ⟨"GET", Wire.noncePath, [], [], some .localhost, .zero⟩)).2
    let attempt : RegisterRequest := ⟨"n", "alice", "pw", false, none, none, ""⟩
    let r : Http.Request := ⟨"POST", Wire.registerPath,
      [("content-type", Utf8.encode "application/json")],
      Utf8.encode (Wire.registerRequest.render attempt ++ " and more"), some .localhost, .zero⟩
    r.path = Wire.registerPath ∧ Wire.registerRequest.parse r.body = .error .malformed ∧
      (s.step (.request found r)).2.gateway.registry ≠ s.gateway.registry := by
  decide +kernel

end Session

end Gateway

end Enrollment
