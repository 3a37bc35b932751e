import Enrollment.Config.Validation
import Enrollment.Config.Document

/-!
# Settings from the environment

Six variables override settings. The secret and the name of the server are taken as they are; the
others are read without the white space around them, and the first one in the order of the list
whose value cannot be read is reported with its whole value.
-/

namespace Enrollment.Config

/-- The variables that are looked up. -/
inductive Variable where
  | file
  | sharedSecret
  | httpHost
  | httpPort
  | nonceLifetime
  | serverName
  | registrationEnabled
  deriving Repr, DecidableEq

def Variable.name : Variable → String
  | .file => "BOOTSTRAP_CONFIG"
  | .sharedSecret => "BOOTSTRAP_SHARED_SECRET"
  | .httpHost => "BOOTSTRAP_HTTP_HOST"
  | .httpPort => "BOOTSTRAP_HTTP_PORT"
  | .nonceLifetime => "BOOTSTRAP_NONCE_TTL_SECS"
  | .serverName => "BOOTSTRAP_SERVER_NAME"
  | .registrationEnabled => "BOOTSTRAP_REGISTRATION_ENABLED"

/-- The values of variables. -/
abbrev Environment := String → Option String

/-- A truth value in words, in any case of its letters. -/
def readFlag? (word : List Char) : Option Bool :=
  let lower := String.ofList (word.map Char.toLower)
  if ["1", "true", "yes", "on"].contains lower then some true
  else if ["0", "false", "no", "off"].contains lower then some false
  else none

/-- A value that is read without the white space around it. -/
def readVariable (v : Variable) (read? : List Char → Option α) (value : String) :
    Except Error α :=
  match read? (Unicode.trim value.toList) with
  | some a => .ok a
  | none => .error (.variable v.name value)

/-- Changes settings by the value of a variable, if it has one. -/
def override (env : Environment) (v : Variable) (c : Config)
    (apply : String → Except Error Config) : Except Error Config :=
  match env v.name with
  | some value => apply value
  | none => .ok c

/-- The settings with the overrides of an environment. -/
def withEnvironment (c : Config) (env : Environment) : Except Error Config := do
  let c ← override env .sharedSecret c fun value =>
    .ok { c with registration := { c.registration with sharedSecret := some value } }
  let c ← override env .httpHost c fun value => do
    let host ← readVariable .httpHost Address.parse? value
    .ok { c with http := { c.http with host } }
  let c ← override env .httpPort c fun value => do
    let port ← readVariable .httpPort (Decimal.read? max16) value
    .ok { c with http := { c.http with port := UInt16.ofNat port } }
  let c ← override env .nonceLifetime c fun value => do
    let seconds ← readVariable .nonceLifetime (Decimal.read? max64) value
    .ok { c with
      registration := { c.registration with nonceLifetime := .ofSeconds (UInt64.ofNat seconds) } }
  let c ← override env .serverName c fun value =>
    .ok { c with registration := { c.registration with serverName := value } }
  override env .registrationEnabled c fun value => do
    let enabled ← readVariable .registrationEnabled readFlag? value
    .ok { c with registration := { c.registration with enabled } }

/-- What a file of settings holds. -/
inductive Source where
  /-- No file is named. -/
  | standard
  /-- The file cannot be read. -/
  | missing
  | file (text : String)
  deriving Repr, DecidableEq

/-- Settings from a file, if there is one, with the overrides of an environment, if they are valid.
-/
def load (source : Source) (env : Environment) : Except Error Config := do
  let c ← match source with
    | .standard => .ok standard
    | .missing => .error .unreadable
    | .file text => ofToml text
  let c ← c.withEnvironment env
  match c.validate with
  | .ok () => .ok c
  | .error v => .error (.violation v)

end Enrollment.Config
