import Enrollment.Text.Excerpt
import Enrollment.Text.Inspect

/-!
# Registration attempts

What a caller presents to have an account made, what an authorized attempt proves, and what is
handed on to the keeper of accounts. Passwords are never shown, and of a nonce only its leading
characters.
-/

namespace Enrollment

/-- Stands for a text that is not shown. -/
def redacted : String := "<redacted>"

/-- What a signature covers, in the order in which it is signed. -/
structure Fields where
  nonce : String
  username : String
  password : String
  admin : Bool
  userType : Option String
  deriving Repr, DecidableEq, Inhabited

/-- An attempt as it was received. The display name is not covered by the signature. -/
structure Attempt where
  fields : Fields
  mac : String
  displayName : Option String
  deriving Repr, DecidableEq, Inhabited

/-- Evidence that an attempt was authorized: its nonce, its digest and all that it signs. -/
structure Authorization where
  nonce : String
  digest : String
  fields : Fields
  deriving Repr, DecidableEq

/-- An account to be created. -/
structure NewAccount where
  username : String
  password : String
  admin : Bool
  displayName : Option String
  userType : Option String
  deriving Repr, DecidableEq

/-- The account that an authorized attempt asks for. -/
def Authorization.account (proof : Authorization) (displayName : Option String) : NewAccount where
  username := proof.fields.username
  password := proof.fields.password
  admin := proof.fields.admin
  displayName := displayName
  userType := proof.fields.userType

def inspectNonce (token : String) : String :=
  Inspect.tagged "NonceToken" (Text.excerpt token ++ "..")

def Fields.inspect (f : Fields) : String :=
  Inspect.record "RegistrationFields"
    [("nonce", Text.quoted (Text.excerpt f.nonce)), ("username", Text.quoted f.username),
      ("password", Text.quoted redacted), ("admin", Inspect.flag f.admin),
      ("user_type", Inspect.optionalText f.userType)]

def Attempt.inspect (a : Attempt) : String :=
  Inspect.record "RegistrationAttempt"
    [("fields", a.fields.inspect), ("mac", Text.quoted a.mac),
      ("display_name", Inspect.optionalText a.displayName)]

/-- How the evidence of an authorized attempt is shown. -/
def Authorization.inspect (proof : Authorization) : String :=
  Inspect.record "AuthorizationProof"
    [("nonce", inspectNonce proof.nonce), ("digest", Text.quoted proof.digest),
      ("fields", proof.fields.inspect)]

def NewAccount.inspect (a : NewAccount) : String :=
  Inspect.partialRecord "NewAccount"
    [("username", Text.quoted a.username), ("admin", Inspect.flag a.admin),
      ("display_name", Inspect.optionalText a.displayName),
      ("user_type", Inspect.optionalText a.userType)]

end Enrollment
