import Enrollment.Http.Message
import Enrollment.Unicode.Blank

/-!
# The caller's address

By which address a caller is told apart. Behind a proxy that is trusted it is the first one in
`X-Forwarded-For`, else the one in `X-Real-IP`; without one of them, or without such a proxy, it is
the address of the peer. Callers without any address share one.
-/

namespace Enrollment.Gateway

/-- An address with white space around it. -/
def paddedAddress? (cs : List Char) : Option Address :=
  Address.parse? (Unicode.trim cs)

/-- The address that a proxy passes on. -/
def forwardedAddress? (r : Http.Request) : Option Address :=
  let first := (r.headerText? "x-forwarded-for").map (List.takeWhile (· != ','))
  (first.bind paddedAddress?).or ((r.headerText? "x-real-ip").bind paddedAddress?)

/-- The address of the peer, or the one that stands for none. -/
def peerAddress (r : Http.Request) : Address :=
  r.peer.getD .unspecified

/-- The address by which a caller is told apart. -/
def callerAddress (trustForwarded : Bool) (r : Http.Request) : Address :=
  if trustForwarded then (forwardedAddress? r).getD (peerAddress r) else peerAddress r

end Enrollment.Gateway
