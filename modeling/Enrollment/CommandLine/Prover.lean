import Enrollment.CommandLine
import Enrollment.Prover

/-!
# The command line of a prover

`nonce` fetches a nonce and prints it, which shows that the gateway can be reached. `register` has
an account made and prints what its owner needs, of the access token only the leading characters.
Where the gateway is and the secret may come from the environment; a switch goes before a variable,
and one after the command before one in front of it.
-/

namespace Enrollment.CommandLine

/-- What a prover is asked to do. -/
inductive ProverCommand where
  | nonce
  | register (request : AccountRequest) (secret : String)
  deriving Repr, DecidableEq

/-- A command and the gateway it concerns. -/
structure ProverInvocation where
  serverUrl : String
  command : ProverCommand
  deriving Repr, DecidableEq

namespace ProverInvocation

/-- The name and version of the program. -/
def title : String := "bootstrap-admin 0.1.0"

/-- Where the gateway is. -/
def urlSwitch : Switch := ⟨"server-url", none, true⟩

/-- Asks for an account that is not privileged. -/
def notAdminSwitch : Switch := ⟨"not-admin", none, false⟩

/-- The type of the account. -/
def userTypeSwitch : Switch := ⟨"user-type", none, true⟩

def secretSwitch : Switch := ⟨"secret", none, true⟩

/-- The account that words ask for. -/
def request? (w : Words) : Option AccountRequest :=
  let ask (username password : String) (displayName : Option String) : AccountRequest :=
    ⟨username, password, displayName, !w.gives notAdminSwitch, w.value? userTypeSwitch⟩
  match w.operands with
  | [username, password] => some (ask username password none)
  | [username, password, displayName] => some (ask username password (some displayName))
  | _ => none

/-- The command that words ask for, after its name. -/
def readCommand (env : String → Option String) (name : String) (words : List String) :
    Except Interruption (Option String × ProverCommand) :=
  match name with
  | "nonce" => do
      let w ← read [urlSwitch, .help] words
      if w.operands.isEmpty then .ok (w.value? urlSwitch, .nonce) else .error .misused
  | "register" => do
      let w ← read [urlSwitch, notAdminSwitch, userTypeSwitch, secretSwitch, .help] words
      match request? w, (w.value? secretSwitch).or (env "ADMIN_SECRET") with
      | some request, some secret => .ok (w.value? urlSwitch, .register request secret)
      | _, _ => .error .misused
  | "help" =>
      match words with
      | [] | ["nonce"] | ["register"] | ["help"] => .error .help
      | _ => .error .misused
  | _ => .error .misused

/-- What the words of a command line ask for. -/
def parse (env : String → Option String) (words : List String) :
    Except Interruption ProverInvocation := do
  let before ← readBefore [urlSwitch, .help, .version] words
  match before.rest with
  | some (name :: words) =>
      let (url, command) ← readCommand env name words
      let url := (url.or (before.value? urlSwitch)).or (env "SERVER_URL")
      .ok ⟨url.getD Prover.defaultUrl, command⟩
  | _ => .error .misused

/-- What is printed of an account. -/
def describe (info : AccountInfo) : List String :=
  ["user_id:      " ++ info.userId, "device_id:    " ++ info.deviceId,
    "access_token: " ++ Text.excerpt info.accessToken ++ "...",
    "expires_in:   " ++ toString info.expiresIn ++ "s"]

/-- The key of a prover that only fetches nonces, for which any key will do. -/
def placeholder : Secret := ⟨[0x2D], List.cons_ne_nil _ _⟩

/-- Does what is asked for. `carry` is told where the gateway is. -/
def run {m : Type → Type} [Monad m] (i : ProverInvocation)
    (carry : Prover → Prover.Call → m Prover.Reply) : m Ending := do
  match i.command with
  | .nonce =>
      match ← Prover.fetchNonce (carry (.create i.serverUrl placeholder)) with
      | .ok nonce => return .success [nonce]
      | .error fault =>
          return .failure ("fetching nonce: " ++ (Prover.Failure.nonce fault).message)
  | .register request secret =>
      match Secret.ofSetting (some secret) with
      | .error e => return .failure ("ADMIN_SECRET: " ++ e.message)
      | .ok secret =>
          let prover := Prover.create i.serverUrl secret
          match ← prover.register (carry prover) request with
          | .ok info => return .success (describe info)
          | .error e =>
              return .failure ("registering " ++ request.username ++ ": " ++ e.message)

end ProverInvocation

end Enrollment.CommandLine
