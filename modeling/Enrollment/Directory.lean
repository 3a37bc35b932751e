import Enrollment.Attempt
import Enrollment.Time.Span

/-!
# Directories of accounts

A directory belongs to a server and keeps one account for each user identifier, which is made of
the username and the server's name. An account that exists is never changed. Passwords are not
kept. The identifiers and tokens of a new account are drawn by the caller.
-/

namespace Enrollment

/-- What a directory keeps of an account. -/
structure AccountRecord where
  userId : String
  admin : Bool
  displayName : Option String
  userType : Option String
  deviceId : String
  deriving Repr, DecidableEq

/-- The texts drawn for a new account. -/
structure Credentials where
  deviceId : String
  accessToken : String
  refreshToken : String
  deriving Repr, DecidableEq, Inhabited

/-- What the owner of a new account is told. -/
structure AccountInfo where
  userId : String
  deviceId : String
  accessToken : String
  refreshToken : Option String
  expiresIn : UInt64
  homeServer : Option String
  deriving Repr, DecidableEq, Inhabited

/-- Why no account was made. -/
inductive AccountError where
  | userInUse (userId : String)
  | unavailable (reason : String)
  deriving Repr, DecidableEq

namespace AccountError

/-- The report of an account that was not made. -/
def message : AccountError → String
  | .userInUse userId => "user ID already taken: " ++ userId
  | .unavailable reason => "account store unavailable: " ++ reason

def inspect : AccountError → String
  | .userInUse userId => Inspect.tagged "UserInUse" (Text.quoted userId)
  | .unavailable reason => Inspect.tagged "Unavailable" (Text.quoted reason)

end AccountError

/-- A directory, its newest account first. -/
structure Directory where
  serverName : String
  tokenLifetime : Span
  records : List AccountRecord
  deriving Repr, DecidableEq

namespace Directory

def create (serverName : String) (tokenLifetime : Span) : Directory :=
  ⟨serverName, tokenLifetime, []⟩

def userIdFor (d : Directory) (username : String) : String :=
  "@" ++ username ++ ":" ++ d.serverName

/-- The account with a user identifier. -/
def get? (d : Directory) (userId : String) : Option AccountRecord :=
  d.records.find? (·.userId == userId)

def size (d : Directory) : Nat :=
  d.records.length

def recordFor (d : Directory) (account : NewAccount) (drawn : Credentials) : AccountRecord where
  userId := d.userIdFor account.username
  admin := account.admin
  displayName := account.displayName
  userType := account.userType
  deviceId := drawn.deviceId

/-- What the owner of a new account is told. -/
def infoFor (d : Directory) (account : NewAccount) (drawn : Credentials) : AccountInfo where
  userId := d.userIdFor account.username
  deviceId := drawn.deviceId
  accessToken := drawn.accessToken
  refreshToken := some drawn.refreshToken
  expiresIn := d.tokenLifetime.wholeSeconds
  homeServer := some d.serverName

/-- Makes an account unless its user identifier is taken. -/
def register (d : Directory) (account : NewAccount) (drawn : Credentials) :
    Except AccountError AccountInfo × Directory :=
  match d.get? (d.userIdFor account.username) with
  | some _ => (.error (.userInUse (d.userIdFor account.username)), d)
  | none =>
      (.ok (d.infoFor account drawn), { d with records := d.recordFor account drawn :: d.records })

end Directory

end Enrollment
