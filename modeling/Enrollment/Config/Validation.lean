import Enrollment.Config.Error
import Enrollment.Unicode.Blank

/-!
# Valid settings

Which settings the gateway can run with. The rules are checked in a fixed order and the first one
that is broken is reported. A secret is asked for only where registration is enabled.
-/

namespace Enrollment.Config

/-- Reports a violation where a rule is broken. -/
def rule (holds : Bool) (v : Violation) : Except Violation Unit :=
  if holds then .ok () else .error v

def Registration.validate (r : Registration) : Except Violation Unit := do
  rule (!r.nonceLifetime.isZero) (.setup .noLifetime)
  rule (r.maxOutstandingNonces != 0) .maxOutstandingNoncesZero
  rule (!r.sweepInterval.isZero) .sweepIntervalZero
  rule (400 ≤ r.denialStatus && r.denialStatus ≤ 499) (.denialStatus r.denialStatus)
  rule (!(Unicode.trim r.serverName.toList).isEmpty) .serverNameEmpty
  if r.enabled then
    match r.secret with
    | .ok _ => .ok ()
    | .error e => .error (.setup e)
  else .ok ()

def validate (c : Config) : Except Violation Unit := do
  rule (c.rateLimit.noncePerMinute != 0) .noncePerMinuteZero
  rule (c.rateLimit.registerPerMinute != 0) .registerPerMinuteZero
  rule (c.rateLimit.burstSize != some 0) .burstSizeZero
  rule (c.limits.maxRequestSize != 0) .maxRequestSizeZero
  rule (!c.timeouts.request.isZero) .requestTimeoutZero
  c.registration.validate

end Enrollment.Config
