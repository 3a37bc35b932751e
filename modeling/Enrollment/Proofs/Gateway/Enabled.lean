import Enrollment.Proofs.Gateway.Runs
import Enrollment.Proofs.Ledger.Survival

/-!
# Gateways with registration enabled

What holds in every state of a gateway that was set up with registration enabled: it has a registry
with the secret, the lifetime and the server's name of its settings, whose ledger is coherent and
whose directory is within reach. A nonce that it handed out stays usable for as long as no attempt
of the right shape presents it.
-/

namespace Enrollment.Gateway

theorem exists_of_createRegistry {r : Config.Registration} {registry : Registry}
    (hcreate : createRegistry r = .ok registry) :
    ∃ secret ledger, r.secret = .ok secret ∧ Ledger.create r.nonceLifetime = .ok ledger ∧
      registry = .create (ledger.withCapacity r.maxOutstandingNonces.toNat) secret
        (.create r.serverName r.tokenLifetime) := by
  unfold createRegistry at hcreate
  cases hsecret : r.secret with
  | error e =>
      rw [hsecret] at hcreate
      cases hcreate
  | ok secret =>
      rw [hsecret] at hcreate
      cases hledger : Ledger.create r.nonceLifetime with
      | error e =>
          rw [hledger] at hcreate
          cases hcreate
      | ok ledger =>
          rw [hledger] at hcreate
          exact ⟨secret, ledger, rfl, rfl, (Except.ok.inj hcreate).symm⟩

theorem exists_of_create {c : Config} {g : Gateway} (hcreate : create c = .ok g)
    (henabled : c.registration.enabled = true) :
    ∃ registry, createRegistry c.registration = .ok registry ∧
      g = ⟨c, some registry, .create c.rateLimit, {}⟩ := by
  unfold create at hcreate
  split at hcreate
  next => cases hcreate
  next =>
    rw [if_pos henabled] at hcreate
    cases hregistry : createRegistry c.registration with
    | error e =>
        rw [hregistry] at hcreate
        cases hcreate
    | ok registry =>
        rw [hregistry] at hcreate
        exact ⟨registry, rfl, (Except.ok.inj hcreate).symm⟩

namespace Session

/-- What a session keeps to whose gateway was set up with registration enabled. -/
structure Enabled (c : Config) (secret : Secret) (s : Session) (registry : Registry) : Prop where
  config_eq : s.gateway.config = c
  registry_eq : s.gateway.registry = some registry
  secret_eq : registry.authority.secret = secret
  lifetime_eq : registry.ledger.lifetime = c.registration.nonceLifetime
  serverName_eq : registry.directory.serverName = c.registration.serverName
  outage_eq : registry.outage = none
  coherent : registry.ledger.Coherent s.clock.elapsed

theorem enabled_of_create {c : Config} {g : Gateway} {secret : Secret}
    (hcreate : create c = .ok g) (henabled : c.registration.enabled = true)
    (hsecret : c.registration.secret = .ok secret) (clock : Clock) :
    ∃ registry, Enabled c secret ⟨clock, g⟩ registry := by
  obtain ⟨registry, hregistry, rfl⟩ := exists_of_create hcreate henabled
  obtain ⟨secret', ledger, hsecret', hledger, rfl⟩ := exists_of_createRegistry hregistry
  obtain rfl : secret = secret' := Except.ok.inj (hsecret.symm.trans hsecret')
  refine ⟨_, rfl, rfl, rfl, ?_, rfl, rfl, Ledger.coherent_of_create hledger _ _⟩
  rw [Ledger.eq_of_create hledger]
  rfl

variable {c : Config} {secret : Secret} {s : Session} {registry : Registry}

/-- The registry's part of a run, and what is kept to at its end. -/
theorem Enabled.exists_calls (h : Enabled c secret s registry) (actions : List Action) :
    ∃ calls registry',
      ⟨(outcome step s actions).clock, registry'⟩ =
        outcome Registry.Session.step ⟨s.clock, registry⟩ calls ∧
      Enabled c secret (outcome step s actions) registry' ∧
      ∀ call ∈ calls, ∃ action ∈ actions, Causes c.limits.maxRequestSize action call := by
  have ht : s.registration? = some ⟨s.clock, registry⟩ := by
    rw [registration?, h.registry_eq]
    rfl
  obtain ⟨calls, hrun, hcaused⟩ := exists_calls_of_run ht actions
  obtain ⟨registry', hregistry', hend⟩ := Option.map_eq_some_iff.mp hrun
  rw [h.config_eq] at hcaused
  refine ⟨calls, registry', hend, ?_, hcaused⟩
  have hreached : registry' = (outcome Registry.Session.step ⟨s.clock, registry⟩ calls).registry :=
    congrArg Registry.Session.registry hend
  -- Nothing that is asked of a gateway puts the directory out of reach.
  have hinReach : ∀ outage, .setOutage outage ∉ calls := by
    intro outage hmem
    obtain ⟨action, -, hcauses⟩ := hcaused _ hmem
    exact hcauses
  have hcoherent := Ledger.Session.Coherent.outcome
    (s := Registry.Session.nonces ⟨s.clock, registry⟩) h.coherent
    (calls.flatMap Registry.Action.onNonces)
  rw [← Registry.Session.nonces_outcome, ← hend] at hcoherent
  refine ⟨?_, hregistry', ?_, ?_, ?_, ?_, hcoherent⟩
  · rw [config_outcome, h.config_eq]
  · rw [hreached, Registry.Session.secret_outcome, h.secret_eq]
  · rw [hreached, Registry.Session.lifetime_outcome, h.lifetime_eq]
  · rw [hreached, Registry.Session.directory_outcome]
    exact h.serverName_eq
  · rw [hreached, Registry.Session.outage_outcome hinReach]
    exact h.outage_eq

theorem Enabled.outcome (h : Enabled c secret s registry) (actions : List Action) :
    ∃ registry', Enabled c secret (outcome step s actions) registry' := by
  obtain ⟨-, registry', -, hend, -⟩ := h.exists_calls actions
  exact ⟨registry', hend⟩

/-- No attempt of the right shape that arrives in a run presents the token. -/
def Unpresented (limit : UInt64) (actions : List Action) (token : String) : Prop :=
  ∀ found r request, .request found r ∈ actions → readAttempt limit r = .ok request →
    request.attempt.validate = .ok () → request.nonce ≠ token

theorem Enabled.usable_outcome (h : Enabled c secret s registry) {actions : List Action}
    {token : String} (hunpresented : Unpresented c.limits.maxRequestSize actions token)
    {limit : Span} (hlimit : (Enrollment.outcome step s actions).clock.elapsed.nanos ≤ limit.nanos)
    (husable : Ledger.Session.UsableUntil ⟨s.clock, registry.ledger⟩ token limit) :
    ∃ registry', Enabled c secret (Enrollment.outcome step s actions) registry' ∧
      Ledger.Session.UsableUntil
        ⟨(Enrollment.outcome step s actions).clock, registry'.ledger⟩ token limit := by
  obtain ⟨calls, registry', hend, henabled, hcaused⟩ := h.exists_calls actions
  refine ⟨registry', henabled, ?_⟩
  have hnonces : (⟨(Enrollment.outcome step s actions).clock, registry'.ledger⟩ : Ledger.Session) =
      Enrollment.outcome Ledger.Session.step ⟨s.clock, registry.ledger⟩
        (calls.flatMap Registry.Action.onNonces) :=
    (congrArg Registry.Session.nonces hend).trans (Registry.Session.nonces_outcome _ _)
  -- Were the token presented, some request would carry an attempt of the right shape with it.
  have hunconsumed : .consume token ∉ calls.flatMap Registry.Action.onNonces := by
    intro hmem
    obtain ⟨call, hcall, hconsume⟩ := List.mem_flatMap.mp hmem
    obtain ⟨attempt, drawn, rfl, hvalid, htoken⟩ :=
      Registry.Action.consume_mem_onNonces_iff.mp hconsume
    obtain ⟨action, haction, found, r, request, rfl, hread, rfl, -⟩ := hcaused _ hcall
    exact hunpresented found r request haction hread hvalid htoken
  have hclock := congrArg Ledger.Session.clock hnonces
  rw [hnonces]
  refine Ledger.Session.UsableUntil.outcome (s := ⟨s.clock, registry.ledger⟩) h.coherent husable
    hunconsumed ?_
  rw [← hclock]
  exact hlimit

end Session

end Enrollment.Gateway
