import Enrollment.Gateway.Metrics
import Enrollment.Registry

/-!
# Reports

What the gateway tells about itself: whether it is up, and what it has counted. The members of a
report stand in the order of their names.
-/

namespace Enrollment.Gateway.Report

open Json (Value)

def version : String := "0.1.0"

/-- That the gateway is up, for how long, and whether registration is enabled. -/
def health (registrationEnabled : Bool) (uptimeSeconds : Nat) : Value :=
  .object
    [("registration_enabled", .flag registrationEnabled), ("service", .text "bootstrap-gateway"),
      ("status", .text "healthy"), ("uptime_secs", .count uptimeSeconds),
      ("version", .text version)]

def nonces (t : NonceTally) (outstanding : Nat) : Value :=
  .object
    [("consumed", .count t.consumed.toNat), ("evicted", .count t.evicted.toNat),
      ("issued", .count t.issued.toNat), ("outstanding", .count outstanding),
      ("refused", .count t.refused.toNat), ("rejected", .count t.rejected.toNat)]

def registration (s : Snapshot) : Value :=
  let t := s.registration
  .object
    [("account_failures", .count t.accountFailures.toNat),
      ("accounts_created", .count t.accountsCreated.toNat),
      ("authorized", .count t.authorized.toNat), ("denied", .count t.denied.toNat),
      ("invalid", .count t.invalid.toNat), ("nonces", nonces s.nonces s.outstanding),
      ("nonces_issued", .count t.noncesIssued.toNat)]

/-- The counts of requests, of known callers and of registration; no registration is null. -/
def metrics (m : Metrics) (buckets : Nat) (s : Option Snapshot) : Value :=
  .object
    [("latency", .object [("average_ms", .real m.averageLatency)]),
      ("rate_limiting",
        .object [("buckets", .count buckets), ("rejected", .count m.rateLimited.toNat)]),
      ("registration", (s.map registration).getD .null), ("requests", m.requestCounts)]

end Enrollment.Gateway.Report
