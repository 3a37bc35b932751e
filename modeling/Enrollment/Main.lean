import Enrollment.CommandLine.Gateway
import Enrollment.CommandLine.Prover
import Enrollment.Gateway
import Enrollment.Prover.Message
import Std.Async
import Std.Http

/-!
# The program

Ties both sides to the world. `gateway` serves requests over a network until it is interrupted;
`admin` registers accounts with a gateway elsewhere. Here are sockets, clocks, random bytes, files
and the environment, and nothing that is decided.
-/

namespace Enrollment.Program

open Std.Async

/-- The variables that the program looks up, with their values. -/
def environment : IO Config.Environment := do
  let settings : List Config.Variable :=
    [.file, .sharedSecret, .httpHost, .httpPort, .nonceLifetime, .serverName, .registrationEnabled]
  let names := settings.map Config.Variable.name ++ ["ADMIN_SECRET", "SERVER_URL"]
  let values ← names.filterMapM fun name => return (← IO.getEnv name).map (name, ·)
  return fun name => values.lookup name

def finish (e : CommandLine.Ending) : IO UInt32 := do
  for line in e.output do IO.println line
  for line in e.complaint do IO.eprintln ("Error: " ++ line)
  return e.exitCode.toUInt32

/-! ## The gateway -/

def drawHex (count : USize) : IO String := do
  return String.ofList (Hex.encode (← IO.getRandomBytes count).toList)

def drawCredentials : IO Credentials := do
  let letters := (← IO.getRandomBytes 10).toList.map fun b => Char.ofNat (65 + b.toNat % 26)
  return ⟨String.ofList letters, ← drawHex 32, ← drawHex 32⟩

/-- A socket address for an address and a port. -/
def toSocketAddress (a : Address) (port : UInt16) : Std.Net.SocketAddress :=
  match a with
  | .v4 a => .v4 ⟨⟨#v[a.a, a.b, a.c, a.d]⟩, port⟩
  | .v6 a => .v6 ⟨⟨⟨a.groups.toArray, by simp [a.length_groups]⟩⟩, port⟩

/-- The address in a socket address. -/
def ofSocketAddress : Std.Net.SocketAddress → Address
  | .v4 s => let o := s.addr.octets; .v4 ⟨o[0], o[1], o[2], o[3]⟩
  | .v6 s => .v6 ⟨s.addr.segments.toList, by simp⟩

/-- A gateway at work, when it started, and when it last put its tables in order. -/
structure Service where
  gateway : Std.Mutex (Gateway × Nat)
  started : Nat

/-- The span between two readings of the machine's clock. -/
def spanBetween (earlier later : Nat) : Span :=
  (Span.ofNanos? (later - earlier)).getD .zero

/-- The gateway without what has expired or been idle, if that is due. -/
def tidy (entry : Gateway × Nat) (reading : Reading) (now : Nat) : Gateway × Nat :=
  let (g, last) := entry
  if now - last < g.config.registration.sweepInterval.nanos then entry
  else
    let g := (g.sweep reading).2
    ({ g with limiter := g.limiter.forgetIdle now g.config.rateLimit.bucketIdleTimeout }, now)

/-- The bytes of a body, at most a few more than the limit. -/
def readBody (body : Std.Http.Body.Stream) (limit : Nat) : Async (Option ByteArray) := do
  let mut bytes := ByteArray.empty
  for chunk in body do
    bytes := bytes ++ chunk.data
    if limit < bytes.size then break
  return some bytes

/-- The request that has arrived, with its body if the gateway waits for it. -/
def receive (g : Gateway) (r : Std.Http.Request Std.Http.Body.Stream) : Async Http.Request := do
  let bare : Http.Request :=
    { method := toString r.line.method
      target := toString r.line.uri
      headers := r.line.headers.toList.map fun (name, value) =>
        (name.value, Utf8.encode value.value)
      body := []
      peer := (r.extensions.get Std.Http.Server.RemoteAddr).map fun a => ofSocketAddress a.addr
      arrival := .zero }
  if !g.readsBody bare then return bare
  let start ← IO.monoNanosNow
  let patience := g.config.timeouts.request.nanos / nanosPerMilli + 1
  let limit := Gateway.bodyLimit g.config.limits.maxRequestSize bare
  let body ← Async.race (readBody r.body limit) do
    sleep (.ofNat patience)
    return none
  let arrival := spanBetween start (← IO.monoNanosNow)
  return { bare with body := (body.getD .empty).toList, arrival }

/-- An answer as it is sent. -/
def send (r : Http.Response) : Async (Std.Http.Response Std.Http.Body.Full) := do
  let headers :=
    [("content-type", r.contentType), ("allow", r.allow), ("retry-after", r.retryAfter)]
  let status := (Std.Http.Status.ofCode none r.status).getD .internalServerError
  let builder := headers.foldl
    (fun builder (name, value) => (value.bind (builder.header? name)).getD builder)
    (Std.Http.Response.withStatus status)
  builder.fromBytes r.body.toUTF8

def answer (s : Service) (r : Std.Http.Request Std.Http.Body.Stream) :
    Async (Std.Http.Response Std.Http.Body.Full) := do
  let start ← IO.monoNanosNow
  let request ← receive (← s.gateway.atomically get).1 r
  let token ← drawHex 32
  let drawn ← drawCredentials
  let reply ← s.gateway.atomically do
    let now ← IO.monoNanosNow
    let reading := (Clock.mk (spanBetween s.started now)).read
    let (g, tidied) := tidy (← get) reading now
    let circumstances : Gateway.Circumstances :=
      { now
        token
        drawn
        uptimeSeconds := (now - s.started) / nanosPerSecond
        latencyMillis := UInt64.ofNat ((now - start) / nanosPerMilli) }
    let (result, g) := g.handle reading circumstances request
    set (g, tidied)
    return result
  match reply with
  | .error e => throw (.userError e.message)
  | .ok reply =>
      if let some notice := reply.notice then
        IO.eprintln s!"denied {notice.nonce} {notice.username}: {notice.reason.message}"
      if let some (caller, endpoint) := reply.limited then
        IO.eprintln s!"limited {caller.render}: {endpoint.inspect}"
      send reply.response

instance : Std.Http.Server.Handler Service where
  ResponseBody := Std.Http.Body.Full
  onRequest s r := answer s r

/-- Serves until the program is interrupted. -/
def serve (g : Gateway) : IO Unit := do
  let started ← IO.monoNanosNow
  let service : Service := ⟨← Std.Mutex.new (g, started), started⟩
  let interrupted ← Signal.Waiter.mk .sigint false
  Async.block do
    let socket := toSocketAddress g.config.http.host g.config.http.port
    let server ← Std.Http.Server.serve socket service
    IO.eprintln s!"listening on {g.config.listenAddress}"
    discard <| await (← interrupted.wait)
    server.shutdownAndWait

/-- The source of settings that a file's name stands for. -/
def source : Option String → IO Config.Source
  | none => return .standard
  | some name => try return .file (← IO.FS.readFile name) catch _ => return .missing

def runGateway (words : List String) : IO UInt32 := do
  let env ← environment
  match CommandLine.GatewayInvocation.parse env words with
  | .error e => finish (e.ending CommandLine.GatewayInvocation.title)
  | .ok file =>
      match Config.load (← source file) env with
      | .error e => finish (.failure ("loading configuration: " ++ e.message))
      | .ok config =>
          match Gateway.create config with
          | .error e => finish (.failure e.message)
          | .ok g =>
              try
                serve g
                return 0
              catch e => finish (.failure e.toString)

/-! ## The prover -/

/-- All bytes until a connection ends. -/
def receiveAll (client : TCP.Socket.Client) : Async ByteArray := do
  let mut bytes := ByteArray.empty
  repeat
    match ← client.recv? 65536 with
    | some more => bytes := bytes ++ more
    | none => break
  return bytes

/-- Makes a call of the server at a site. -/
def exchange (site : Prover.Site) (c : Prover.Call) : Async Prover.Reply := do
  let addresses ← DNS.getAddrInfo site.host ""
  match addresses[0]? with
  | none => return .lost
  | some address =>
      let client ← TCP.Socket.Client.mk
      client.connect (match address with
        | .v4 a => .v4 ⟨a, site.port⟩
        | .v6 a => .v6 ⟨a, site.port⟩)
      client.send (c.message site).toByteArray
      return .ofBytes (← receiveAll client).toList

/-- Makes a call of a prover's gateway, within ten seconds. -/
def carry (p : Prover) (c : Prover.Call) : IO Prover.Reply := do
  match Prover.Site.parse? p.baseUrl with
  | none => return .lost
  | some site =>
      let patience : Async (Option Prover.Reply) := do
        sleep 10000
        return none
      try
        return (← (Async.race (some <$> exchange site c) patience).block).getD .lost
      catch _ => return .lost

def runProver (words : List String) : IO UInt32 := do
  match CommandLine.ProverInvocation.parse (← environment) words with
  | .error e => finish (e.ending CommandLine.ProverInvocation.title)
  | .ok invocation => finish (← invocation.run carry)

end Enrollment.Program

/-- Runs the side that the first word names. -/
def main : List String → IO UInt32
  | "gateway" :: words => Enrollment.Program.runGateway words
  | "admin" :: words => Enrollment.Program.runProver words
  | _ => Enrollment.Program.finish (Enrollment.CommandLine.Interruption.misused.ending "")
