import Enrollment.Config
import Enrollment.Time.Clock
import Enrollment.Wire

/-!
# Limits on how often a caller may ask

Each caller has two allowances, one for nonces and one for registrations, kept from the caller's
first request on. An allowance is the earliest time at which its bucket would be full of requests:
each request that passes moves that time one interval ahead, an interval being a minute divided by
the rate, and a request passes as long as the time is not more than a whole burst of intervals
ahead of now. So at one moment exactly a burst of requests passes, and the next one passes one
interval later. A request that does not pass changes no allowance and is told how long to wait.

The burst of a quota is kept as a word of nanoseconds. Where a burst of intervals does not fit, no
allowance can be set up: a new caller is answered by that overflow and leaves no trace.

Callers that are exempt, and all callers where limiting is switched off, always pass and leave no
trace.
-/

namespace Enrollment.Gateway

/-- What a limited request asks for. -/
inductive EndpointClass where
  | nonce
  | register
  deriving Repr, DecidableEq

namespace EndpointClass

/-- The class of a path; other paths are not limited. -/
def ofPath? (path : String) : Option EndpointClass :=
  if path = Wire.noncePath then some .nonce
  else if path = Wire.registerPath then some .register
  else none

def inspect : EndpointClass → String
  | .nonce => "Nonce"
  | .register => "Register"

end EndpointClass

/-- How many requests pass: one for each interval, and so many at once. -/
structure Quota where
  interval : Nat
  burst : Nat
  deriving Repr, DecidableEq

namespace Quota

def minute : Nat := 60 * nanosPerSecond

/-- The quota of a rate per minute, at least one, and of a burst, if it is set and not zero. -/
def perMinute (rate : UInt32) (burst : Option UInt32) : Quota :=
  let rate := max rate.toNat 1
  let burst := ((burst.map UInt32.toNat).filter (· ≠ 0)).getD rate
  ⟨minute / rate, burst⟩

def tolerance (q : Quota) : Nat :=
  q.interval * q.burst

/-- Whether a burst of intervals fits in a word of nanoseconds. -/
def isKept (q : Quota) : Bool :=
  q.tolerance < UInt64.size

/-- Checks a request at a time against an allowance. A request that passes gives the new allowance,
one that does not the nanoseconds to wait. -/
def check (q : Quota) (now : Nat) (allowance : Option Nat) : Except Nat Nat :=
  let full := allowance.getD (now + q.interval)
  let earliest := full - q.tolerance
  if now < earliest then .error (earliest - now)
  else .ok (max full now + q.interval)

end Quota

/-- The allowances of a caller, and when the caller last asked. Times are nanoseconds. -/
structure Bucket where
  nonce : Option Nat
  register : Option Nat
  lastAccess : Nat
  deriving Repr, DecidableEq

namespace Bucket

/-- The bucket of a caller who has not asked before. -/
def fresh : Bucket := ⟨none, none, 0⟩

/-- The allowance for a class. -/
def allowance (b : Bucket) : EndpointClass → Option Nat
  | .nonce => b.nonce
  | .register => b.register

/-- The bucket with another allowance for a class. -/
def withAllowance (b : Bucket) (allowance : Nat) : EndpointClass → Bucket
  | .nonce => { b with nonce := some allowance }
  | .register => { b with register := some allowance }

end Bucket

/-- The buckets of all callers. -/
structure Limiter where
  settings : Config.RateLimit
  buckets : List (Address × Bucket)
  deriving DecidableEq

namespace Limiter

/-- A limiter that nobody has asked. -/
def create (settings : Config.RateLimit) : Limiter :=
  ⟨settings, []⟩

/-- The quota of a class. -/
def quota (l : Limiter) : EndpointClass → Quota
  | .nonce => .perMinute l.settings.noncePerMinute l.settings.burstSize
  | .register => .perMinute l.settings.registerPerMinute l.settings.burstSize

def isExempt (l : Limiter) (caller : Address) : Bool :=
  !l.settings.enabled || l.settings.exempt.contains caller

/-- The bucket of a caller. A new caller gets a fresh one, if both quotas can be kept. -/
def bucket (l : Limiter) (caller : Address) : Except TimeOverflow Bucket :=
  match l.buckets.lookup caller with
  | some b => .ok b
  | none =>
      if (l.quota .nonce).isKept && (l.quota .register).isKept then .ok .fresh else .error .nanos

/-- The limiter with a caller's bucket in place of any other the caller had. -/
def put (l : Limiter) (caller : Address) (b : Bucket) : Limiter :=
  { l with buckets := (caller, b) :: l.buckets.filter (·.1 != caller) }

/-- Checks a request of a caller at a time; one that does not pass is told how many nanoseconds to
wait. -/
def check (l : Limiter) (now : Nat) (caller : Address) (c : EndpointClass) :
    Except TimeOverflow (Except Nat Unit) × Limiter :=
  if l.isExempt caller then (.ok (.ok ()), l)
  else
    match l.bucket caller with
    | .error e => (.error e, l)
    | .ok b =>
        let b := { b with lastAccess := now }
        match (l.quota c).check now (b.allowance c) with
        | .ok allowance => (.ok (.ok ()), l.put caller (b.withAllowance allowance c))
        | .error wait => (.ok (.error wait), l.put caller b)

/-- Forgets callers who have not asked for longer than a span. -/
def forgetIdle (l : Limiter) (now : Nat) (maxAge : Span) : Limiter :=
  { l with buckets := l.buckets.filter fun entry => now - entry.2.lastAccess ≤ maxAge.nanos }

def size (l : Limiter) : Nat :=
  l.buckets.length

/-- The milliseconds to wait that a refused caller is told: the whole ones. -/
def retryAfterMillis (wait : Nat) : UInt64 :=
  UInt64.ofNat (wait / nanosPerMilli)

end Limiter

end Enrollment.Gateway
