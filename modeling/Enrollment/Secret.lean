import Enrollment.Setup
import Enrollment.Text.Utf8

/-!
# Shared secrets

The key that the issuer of nonces and those who may register have in common. It is never empty, and
showing it tells its length only.
-/

namespace Enrollment

/-- A key of at least one byte. -/
structure Secret where
  key : List UInt8
  nonempty : key ≠ []
  deriving DecidableEq

namespace Secret

/-- A key from raw bytes. -/
def ofBytes (key : List UInt8) : Except SetupError Secret :=
  if h : key = [] then .error .missingSecret else .ok ⟨key, h⟩

/-- A key from a setting; a setting that is absent counts as empty. -/
def ofSetting (setting : Option String) : Except SetupError Secret :=
  ofBytes (Utf8.encode (setting.getD ""))

/-- The number of bytes of a key. -/
def size (s : Secret) : Nat :=
  s.key.length

def inspect (s : Secret) : String :=
  Inspect.tagged "SharedSecret" ("<redacted, " ++ toString s.size ++ " bytes>")

end Secret

end Enrollment
