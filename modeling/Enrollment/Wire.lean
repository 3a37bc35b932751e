import Enrollment.Attempt
import Enrollment.Directory
import Enrollment.Json.Record

/-!
# Messages between the two sides

The bodies of requests and answers as JSON records, and the two paths they are exchanged on.
-/

namespace Enrollment

namespace Wire

/-- Where a nonce is asked for. -/
def noncePath : String := "/_synapse/admin/v1/register/nonce"

/-- Where an attempt is posted. -/
def registerPath : String := "/_synapse/admin/v1/register"

end Wire

/-- The answer with a fresh nonce. -/
structure NonceResponse where
  nonce : String
  deriving Repr, DecidableEq

/-- The body of an attempt. -/
structure RegisterRequest where
  nonce : String
  username : String
  password : String
  admin : Bool
  userType : Option String
  displayName : Option String
  mac : String
  deriving Repr, DecidableEq

structure ErrorResponse where
  errcode : String
  error : String
  retryAfterMillis : Option UInt64
  deriving Repr, DecidableEq

namespace RegisterRequest

/-- The attempt that a body asks for. -/
def attempt (r : RegisterRequest) : Attempt where
  fields := ⟨r.nonce, r.username, r.password, r.admin, r.userType⟩
  mac := r.mac
  displayName := r.displayName

/-- The body that asks for an attempt. -/
def ofAttempt (a : Attempt) : RegisterRequest where
  nonce := a.fields.nonce
  username := a.fields.username
  password := a.fields.password
  admin := a.fields.admin
  userType := a.fields.userType
  displayName := a.displayName
  mac := a.mac

def inspect (r : RegisterRequest) : String :=
  Inspect.partialRecord "RegisterRequest"
    [("username", Text.quoted r.username), ("admin", Inspect.flag r.admin),
      ("user_type", Inspect.optionalText r.userType),
      ("displayname", Inspect.optionalText r.displayName)]

@[simp] theorem attempt_ofAttempt (a : Attempt) : (ofAttempt a).attempt = a := rfl

end RegisterRequest

namespace Wire

open Json

def nonceResponse : Format NonceResponse where
  name := "NonceResponse"
  fields := [.required "nonce" .text]
  toRow r := (r.nonce, ())
  ofRow row := ⟨row.1⟩
  ofRow_toRow _ := rfl

def registerRequest : Format RegisterRequest where
  name := "RegisterRequest"
  fields :=
    [.required "nonce" .text, .required "username" .text, .required "password" .text,
      .withDefault "admin" .flag false, .optional "user_type" .text,
      .optional "displayname" .text, .required "mac" .text]
  toRow r :=
    (r.nonce, r.username, r.password, r.admin, r.userType, r.displayName, r.mac, ())
  ofRow row :=
    let (nonce, username, password, admin, userType, displayName, mac, ()) := row
    ⟨nonce, username, password, admin, userType, displayName, mac⟩
  ofRow_toRow _ := rfl

def accountInfo : Format AccountInfo where
  name := "AccountInfo"
  fields :=
    [.required "user_id" .text, .required "device_id" .text, .required "access_token" .text,
      .optional "refresh_token" .text, .required "expires_in" .count,
      .optional "home_server" .text]
  toRow r :=
    (r.userId, r.deviceId, r.accessToken, r.refreshToken, r.expiresIn, r.homeServer, ())
  ofRow row :=
    let (userId, deviceId, accessToken, refreshToken, expiresIn, homeServer, ()) := row
    ⟨userId, deviceId, accessToken, refreshToken, expiresIn, homeServer⟩
  ofRow_toRow _ := rfl

def errorResponse : Format ErrorResponse where
  name := "ErrorResponse"
  fields :=
    [.required "errcode" .text, .required "error" .text, .optional "retry_after_ms" .count]
  toRow r := (r.errcode, r.error, r.retryAfterMillis, ())
  ofRow row :=
    let (errcode, error, retryAfterMillis, ()) := row
    ⟨errcode, error, retryAfterMillis⟩
  ofRow_toRow _ := rfl

def renderToken (token : String) : String :=
  (Json.Value.text token).render

end Wire

end Enrollment
