import Enrollment.Text.Inspect

/-!
# Faults that keep a service from starting
-/

namespace Enrollment

/-- What is wrong with the settings of a registration service. -/
inductive SetupError where
  /-- No shared secret, or an empty one. -/
  | missingSecret
  /-- With no lifetime every nonce would have expired when it is issued. -/
  | noLifetime
  /-- Any other fault, in words. -/
  | invalid (reason : String)
  deriving Repr, DecidableEq

namespace SetupError

def message : SetupError → String
  | .missingSecret => "shared secret is not configured"
  | .noLifetime => "nonce TTL must be greater than zero"
  | .invalid reason => "invalid configuration: " ++ reason

def inspect : SetupError → String
  | .missingSecret => "MissingSharedSecret"
  | .noLifetime => "ZeroTtl"
  | .invalid reason => Inspect.tagged "Invalid" (Text.quoted reason)

end SetupError

end Enrollment
