import Enrollment.Config.Validation
import Enrollment.Gateway.Body
import Enrollment.Gateway.Caller
import Enrollment.Gateway.Endpoint
import Enrollment.Gateway.Layers
import Enrollment.Gateway.Limiter
import Enrollment.Gateway.Report

/-!
# The gateway

A gateway answers requests: it notes the caller's trace, limits how often a caller may ask, cuts off
what takes too long, turns away bodies that announce too much, and then serves the endpoint. Every
answer is counted. While registration is disabled its two endpoints refuse every request alike,
whatever the body.

All that a request finds when it is handled comes with it: the reading of the clock that nonces
follow, the time on the limiter's clock, the token and the texts that are drawn if they are needed.
A time out of range while a caller is checked, or while a nonce is issued or presented, leaves a
request without an answer, and it is not counted.
-/

namespace Enrollment

/-- A gateway. Without a registry registration is disabled. -/
structure Gateway where
  config : Config
  registry : Option Registry
  limiter : Gateway.Limiter
  metrics : Gateway.Metrics
  deriving DecidableEq

namespace Gateway

/-- Why a gateway does not start. -/
inductive StartError where
  | config (e : Config.Error)
  | setup (e : SetupError)
  deriving Repr, DecidableEq

/-- The report of a gateway that does not start. -/
def StartError.message : StartError → String
  | .config e => "configuration error: " ++ e.message
  | .setup e => "registration setup failed: " ++ e.message

/-- What a request finds when it is handled: the nanoseconds on the clock of the limiter, a fresh
token and texts for an account, how long the gateway has been up, and how long the answer takes. -/
structure Circumstances where
  now : Nat
  token : String
  drawn : Credentials
  uptimeSeconds : Nat
  latencyMillis : UInt64

/-- The answer to a request, and what is logged about it. -/
structure Reply where
  response : Http.Response
  notice : Option DenialNotice
  limited : Option (Address × EndpointClass)
  parent : Option TraceParent

/-- What handling a request comes to, before it is counted and sent. -/
structure Handled where
  answer : Except TimeOverflow Http.Response
  notice : Option DenialNotice
  registry : Option Registry

/-- The registry that settings ask for, with nothing issued yet. -/
def createRegistry (r : Config.Registration) : Except SetupError Registry := do
  let secret ← r.secret
  let ledger ← Ledger.create r.nonceLifetime
  .ok (.create (ledger.withCapacity r.maxOutstandingNonces.toNat) secret
    (.create r.serverName r.tokenLifetime))

/-- A gateway with valid settings that has answered nothing yet. -/
def create (c : Config) : Except StartError Gateway := do
  match c.validate with
  | .error v => .error (.config (.violation v))
  | .ok () =>
      let registry ←
        if c.registration.enabled then
          match createRegistry c.registration with
          | .ok registry => .ok (some registry)
          | .error e => .error (.setup e)
        else .ok none
      .ok ⟨c, registry, .create c.rateLimit, {}⟩

/-- The status of a denial: the one that is set, if it can be a status at all. -/
def denialStatus (g : Gateway) : UInt16 :=
  let status := g.config.registration.denialStatus
  if Http.isStatus status then status else 403

/-- A refusal that leaves everything as it is. -/
def refuse (g : Gateway) (r : Refusal) : Handled :=
  ⟨.ok r.response, none, g.registry⟩

def serveNonce (g : Gateway) (reading : Reading) (c : Circumstances) : Handled :=
  match g.registry with
  | none => g.refuse .disabled
  | some registry =>
      match registry.issue reading c.token with
      | (.error e, registry) => ⟨.error e, none, some registry⟩
      | (.ok (.error _), registry) => ⟨.ok Refusal.noncesExhausted.response, none, some registry⟩
      | (.ok (.ok token), registry) =>
          ⟨.ok (.json 200 (Wire.nonceResponse.render ⟨token⟩)), none, some registry⟩

def serveAttempt (g : Gateway) (reading : Reading) (c : Circumstances) (r : Http.Request) :
    Handled :=
  match g.registry with
  | none => g.refuse .disabled
  | some registry =>
      match readAttempt g.config.limits.maxRequestSize r with
      | .error refusal => g.refuse refusal
      | .ok request =>
          match registry.register reading request.attempt c.drawn with
          | (.error e, registry) => ⟨.error e, none, some registry⟩
          | (.ok verdict, registry) =>
              let response := match verdict.answer with
                | .ok info => .json 200 (Wire.accountInfo.render info)
                | .error e => (Refusal.ofRegistration g.denialStatus e).response
              ⟨.ok response, verdict.notice, some registry⟩

def serveEndpoint (g : Gateway) (reading : Reading) (c : Circumstances) (r : Http.Request) :
    Endpoint → Handled
  | .nonce => g.serveNonce reading c
  | .register => g.serveAttempt reading c r
  | .health =>
      ⟨.ok (.json 200 (Report.health g.registry.isSome c.uptimeSeconds).render), none, g.registry⟩
  | .metrics =>
      let snapshot := g.registry.map Registry.snapshot
      ⟨.ok (.json 200 (Report.metrics g.metrics g.limiter.size snapshot).render), none, g.registry⟩

/-- Handles a request that may pass. -/
def dispatch (g : Gateway) (reading : Reading) (c : Circumstances) (r : Http.Request) : Handled :=
  if announcesTooMuch g.config.limits.maxRequestSize r then ⟨.ok announcedTooMuch, none, g.registry⟩
  else
    match Endpoint.ofPath? r.path with
    | none => g.refuse .notFound
    | some endpoint =>
        if endpoint.allows r.method then g.serveEndpoint reading c r endpoint
        else ⟨.ok (.empty 405), none, g.registry⟩

def readsBody (g : Gateway) (r : Http.Request) : Bool :=
  !announcesTooMuch g.config.limits.maxRequestSize r &&
    Endpoint.ofPath? r.path == some .register && Endpoint.register.allows r.method &&
    isAnnouncedAsJson r

/-- Handles a request within the time limit. What is cut off is not done. -/
def serve (g : Gateway) (reading : Reading) (c : Circumstances) (r : Http.Request) :
    Handled × Metrics :=
  let limit := g.config.timeouts.request
  let taken := if g.readsBody r then r.arrival else .zero
  let handled :=
    if isLate limit taken then g.refuse .timeout else g.dispatch reading c r
  let (answer, metrics) := withDeadline limit taken g.metrics handled.answer
  ({ handled with answer }, metrics)

/-- What the limiter says of a request. Only two paths are limited. -/
def checkRate (g : Gateway) (now : Nat) (r : Http.Request) :
    Except TimeOverflow (Option (Nat × Address × EndpointClass)) × Limiter :=
  match EndpointClass.ofPath? r.path with
  | none => (.ok none, g.limiter)
  | some c =>
      let caller := callerAddress g.limiter.settings.trustForwarded r
      let (result, limiter) := g.limiter.check now caller c
      (result.map fun
        | .ok () => none
        | .error wait => some (wait, caller, c), limiter)

/-- An answer as the endpoint at its path sends it. -/
def finish (r : Http.Request) (response : Http.Response) : Http.Response :=
  match Endpoint.ofPath? r.path with
  | some endpoint => endpoint.finish r.method response
  | none => response

def handle (g : Gateway) (reading : Reading) (c : Circumstances) (r : Http.Request) :
    Except TimeOverflow Reply × Gateway :=
  let parent := TraceParent.ofRequest? r
  match g.checkRate c.now r with
  | (.error e, limiter) => (.error e, { g with limiter })
  | (.ok (some (wait, limited)), limiter) =>
      let response := (Refusal.rateLimited (Limiter.retryAfterMillis wait)).response
      let metrics := g.metrics.countRateLimited.record response.status c.latencyMillis
      (.ok ⟨finish r response, none, some limited, parent⟩, { g with limiter, metrics })
  | (.ok none, limiter) =>
      let (handled, metrics) := { g with limiter }.serve reading c r
      let metrics := counted c.latencyMillis metrics handled.answer
      (handled.answer.map fun response => ⟨finish r response, handled.notice, none, parent⟩,
        { g with registry := handled.registry, limiter, metrics })

/-- Removes expired nonces, where registration is enabled. -/
def sweep (g : Gateway) (reading : Reading) : Except TimeOverflow (Option Nat) × Gateway :=
  match g.registry with
  | none => (.ok none, g)
  | some registry =>
      let (result, registry) := registry.sweep reading
      (result.map some, { g with registry := some registry })

end Gateway

end Enrollment
