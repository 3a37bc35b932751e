import Enrollment.Attempt
import Enrollment.Text.Utf8

/-!
# The shape of an attempt

Checks made before a nonce is touched, so that a mistyped attempt does not spend its nonce. No text
that a signature covers may hold NUL, which separates the parts of the signed message; a username
has its own alphabet; and every text but the nonce has a greatest length, counted in characters
except for the password, which is counted in bytes. The first broken rule is reported, in the order
nonce, username, password, user type, display name.
-/

namespace Enrollment

/-- The texts of an attempt that have rules. -/
inductive Field where
  | nonce
  | username
  | password
  | userType
  | displayName
  deriving Repr, DecidableEq

/-- The name under which a field is reported. -/
def Field.name : Field → String
  | .nonce => "nonce"
  | .username => "username"
  | .password => "password"
  | .userType => "user_type"
  | .displayName => "displayname"

/-- What is wrong with a field. -/
inductive Defect where
  | empty
  | tooManyCharacters (limit : Nat)
  | tooManyBytes (limit : Nat)
  | badCharacter (c : Char)
  | holdsNul
  /-- A defect found elsewhere, in words. -/
  | described (reason : String)
  deriving Repr, DecidableEq

def Defect.reason : Defect → String
  | .empty => "must not be empty"
  | .tooManyCharacters limit => "must be at most " ++ toString limit ++ " characters"
  | .tooManyBytes limit => "must be at most " ++ toString limit ++ " bytes"
  | .badCharacter c => "contains invalid character " ++ Text.quotedChar c
  | .holdsNul => "must not contain NUL bytes"
  | .described reason => reason

/-- A field that breaks a rule. -/
structure FieldError where
  field : Field
  defect : Defect
  deriving Repr, DecidableEq

namespace FieldError

def message (e : FieldError) : String :=
  "invalid " ++ e.field.name ++ ": " ++ e.defect.reason

def inspect (e : FieldError) : String :=
  Inspect.record "ValidationError"
    [("field", Text.quoted e.field.name), ("reason", Text.quoted e.defect.reason)]

end FieldError

namespace Validation

def maxUsernameCharacters : Nat := 255
def maxPasswordBytes : Nat := 512
def maxUserTypeCharacters : Nat := 255
def maxDisplayNameCharacters : Nat := 256

/-- The alphabet of usernames. -/
def isUsernameCharacter (c : Char) : Bool :=
  ('a' ≤ c && c ≤ 'z') || ('0' ≤ c && c ≤ '9') || ['.', '_', '=', '-', '/'].contains c

def withoutNul (field : Field) (text : String) : Except FieldError Unit :=
  if text.toList.contains '\x00' then .error ⟨field, .holdsNul⟩ else .ok ()

/-- Refuses a text with more characters than a limit. -/
def atMost (limit : Nat) (field : Field) (text : String) : Except FieldError Unit :=
  if limit < text.length then .error ⟨field, .tooManyCharacters limit⟩ else .ok ()

def username (text : String) : Except FieldError Unit :=
  if text.isEmpty then .error ⟨.username, .empty⟩
  else do
    atMost maxUsernameCharacters .username text
    match text.toList.find? (fun c => !isUsernameCharacter c) with
    | some c => .error ⟨.username, .badCharacter c⟩
    | none => .ok ()

def password (text : String) : Except FieldError Unit :=
  if text.isEmpty then .error ⟨.password, .empty⟩
  else if maxPasswordBytes < text.utf8ByteSize then
    .error ⟨.password, .tooManyBytes maxPasswordBytes⟩
  else withoutNul .password text

def userType (text : String) : Except FieldError Unit := do
  withoutNul .userType text
  atMost maxUserTypeCharacters .userType text

end Validation

/-- The first broken rule of an attempt. Its signature is not looked at. -/
def Attempt.validate (a : Attempt) : Except FieldError Unit := do
  Validation.withoutNul .nonce a.fields.nonce
  Validation.username a.fields.username
  Validation.password a.fields.password
  a.fields.userType.forM Validation.userType
  a.displayName.forM (Validation.atMost Validation.maxDisplayNameCharacters .displayName)

end Enrollment
