import Enrollment.Http.Status
import Enrollment.Json.Value
import Enrollment.Number.Binary64

/-!
# Counts of requests

What the gateway counts of the requests it has answered. The counts are words, and wrap. The average
latency is the quotient of two counts, each rounded to a double before they are divided.
-/

namespace Enrollment.Gateway

/-- Counts of requests. -/
structure Metrics where
  total : UInt64 := 0
  success : UInt64 := 0
  clientError : UInt64 := 0
  serverError : UInt64 := 0
  rateLimited : UInt64 := 0
  timeouts : UInt64 := 0
  latencyMillis : UInt64 := 0
  deriving Repr, DecidableEq, Inhabited

namespace Metrics

/-- Counts an answer by the class of its status. -/
def record (m : Metrics) (status : UInt16) (latencyMillis : UInt64) : Metrics :=
  let m :=
    if Http.isServerError status then { m with serverError := m.serverError + 1 }
    else if Http.isClientError status then { m with clientError := m.clientError + 1 }
    else { m with success := m.success + 1 }
  { m with total := m.total + 1, latencyMillis := m.latencyMillis + latencyMillis }

/-- Counts a request that was refused because it came too soon. -/
def countRateLimited (m : Metrics) : Metrics :=
  { m with rateLimited := m.rateLimited + 1 }

def countTimeout (m : Metrics) : Metrics :=
  { m with timeouts := m.timeouts + 1 }

/-- The average latency in milliseconds, zero before the first answer. -/
def averageLatency (m : Metrics) : Binary64 :=
  if m.total = 0 then .ofNat 0
  else .ofNat m.latencyMillis.toNat / .ofNat m.total.toNat

def requestCounts (m : Metrics) : Json.Value :=
  .object
    [("client_error", .count m.clientError.toNat), ("server_error", .count m.serverError.toNat),
      ("success", .count m.success.toNat), ("timeouts", .count m.timeouts.toNat),
      ("total", .count m.total.toNat)]

end Metrics

end Enrollment.Gateway
