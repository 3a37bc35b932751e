import Enrollment.Net.Address
import Enrollment.Nonce.Ledger
import Enrollment.Secret
import Enrollment.Text.Inspect

/-!
# Settings of the gateway

The settings, their defaults, and how they are shown. The shared secret is never shown, only whether
there is one.
-/

namespace Enrollment

namespace Config

/-- Where the gateway listens. -/
structure Http where
  host : Address := .localhost
  port : UInt16 := 8008
  deriving Repr, DecidableEq, Inhabited

structure Registration where
  enabled : Bool := false
  sharedSecret : Option String := none
  nonceLifetime : Span := Ledger.defaultLifetime
  maxOutstandingNonces : UInt64 := 10000
  sweepInterval : Span := .ofSeconds 30
  denialStatus : UInt16 := 403
  serverName : String := "localhost"
  tokenLifetime : Span := .ofSeconds 3600
  deriving Repr, DecidableEq, Inhabited

structure RateLimit where
  enabled : Bool := true
  noncePerMinute : UInt32 := 3
  registerPerMinute : UInt32 := 2
  /-- How many requests may come at once; the rate of a minute where it is not set. -/
  burstSize : Option UInt32 := none
  /-- Addresses that are not limited. -/
  exempt : List Address := [.localhost, .localhostV6]
  /-- Whether the caller's address is taken from the headers of a proxy. -/
  trustForwarded : Bool := false
  bucketIdleTimeout : Span := .ofSeconds 300
  deriving Repr, DecidableEq, Inhabited

structure Limits where
  maxRequestSize : UInt64 := 65536
  deriving Repr, DecidableEq, Inhabited

structure Timeouts where
  request : Span := .ofSeconds 10
  deriving Repr, DecidableEq, Inhabited

def Http.inspect (h : Http) : String :=
  Inspect.record "HttpConfig" [("host", h.host.render), ("port", toString h.port)]

def Registration.inspect (r : Registration) : String :=
  Inspect.record "RegistrationConfig"
    [("enabled", Inspect.flag r.enabled),
      ("shared_secret", Inspect.optionalText (r.sharedSecret.map fun _ => "<redacted>")),
      ("nonce_ttl", r.nonceLifetime.inspect),
      ("max_outstanding_nonces", toString r.maxOutstandingNonces),
      ("sweep_interval", r.sweepInterval.inspect), ("denial_status", toString r.denialStatus),
      ("server_name", Text.quoted r.serverName), ("token_lifetime", r.tokenLifetime.inspect)]

def RateLimit.inspect (r : RateLimit) : String :=
  Inspect.record "RateLimitConfig"
    [("enabled", Inspect.flag r.enabled), ("nonce_per_minute", toString r.noncePerMinute),
      ("register_per_minute", toString r.registerPerMinute),
      ("burst_size", Inspect.option (fun n => toString n) r.burstSize),
      ("whitelist", Inspect.list (r.exempt.map Address.render)),
      ("trust_forwarded_for", Inspect.flag r.trustForwarded),
      ("bucket_idle_timeout", r.bucketIdleTimeout.inspect)]

def Limits.inspect (l : Limits) : String :=
  Inspect.record "LimitsConfig" [("max_request_size", toString l.maxRequestSize)]

def Timeouts.inspect (t : Timeouts) : String :=
  Inspect.record "TimeoutConfig" [("request", t.request.inspect)]

end Config

structure Config where
  http : Config.Http := {}
  registration : Config.Registration := {}
  rateLimit : Config.RateLimit := {}
  limits : Config.Limits := {}
  timeouts : Config.Timeouts := {}
  deriving Repr, DecidableEq, Inhabited

namespace Config

def standard : Config := {}

/-- Where the gateway listens, as address and port. -/
def listenAddress (c : Config) : String :=
  c.http.host.renderWithPort c.http.port

def inspect (c : Config) : String :=
  Inspect.record "GatewayConfig"
    [("http", c.http.inspect), ("registration", c.registration.inspect),
      ("rate_limit", c.rateLimit.inspect), ("limits", c.limits.inspect),
      ("timeouts", c.timeouts.inspect)]

/-- The secret that is set. -/
def Registration.secret (r : Registration) : Except SetupError Secret :=
  Secret.ofSetting r.sharedSecret

end Config

end Enrollment
