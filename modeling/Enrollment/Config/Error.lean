import Enrollment.Config
import Enrollment.Time.Notation

/-!
# Faulty settings

What can be wrong with settings, each with its report.
-/

namespace Enrollment.Config

/-- Settings whose values exclude the gateway from running. -/
inductive Violation where
  | noncePerMinuteZero
  | registerPerMinuteZero
  | burstSizeZero
  | maxRequestSizeZero
  | requestTimeoutZero
  | maxOutstandingNoncesZero
  | sweepIntervalZero
  | denialStatus (status : UInt16)
  | serverNameEmpty
  | setup (e : SetupError)
  deriving Repr, DecidableEq

def Violation.message : Violation → String
  | .noncePerMinuteZero => "invalid rate limit: nonce_per_minute cannot be 0"
  | .registerPerMinuteZero => "invalid rate limit: register_per_minute cannot be 0"
  | .burstSizeZero => "invalid rate limit: burst_size cannot be 0"
  | .maxRequestSizeZero => "invalid limit: max_request_size cannot be 0"
  | .requestTimeoutZero => "invalid timeout: request timeout cannot be 0"
  | .maxOutstandingNoncesZero =>
      "invalid registration config: max_outstanding_nonces cannot be 0"
  | .sweepIntervalZero => "invalid registration config: sweep_interval cannot be 0"
  | .denialStatus status =>
      "invalid registration config: denial_status must be a 4xx code, got " ++ toString status
  | .serverNameEmpty => "invalid registration config: server_name cannot be empty"
  | .setup e => e.message

/-- Why settings cannot be had or used. -/
inductive Error where
  /-- There is no readable file. -/
  | unreadable
  /-- The file does not hold settings; only about a faulty span is something said. -/
  | unparsable (cause : Option NotationError)
  /-- A variable has a value that it cannot have. -/
  | variable (name value : String)
  | violation (v : Violation)
  deriving Repr, DecidableEq

def Error.message : Error → String
  | .unreadable => "cannot read config"
  | .unparsable cause => "cannot parse config" ++ (cause.map (": " ++ ·.message)).getD ""
  | .variable name value => "invalid value for " ++ name ++ ": " ++ Text.quoted value
  | .violation v => v.message

end Enrollment.Config
