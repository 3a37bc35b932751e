import Enrollment.Prover

/-!
# Calls on the wire

How a call is sent to the server that an `http` URL names, and how its answer is read. A call is a
request of HTTP/1.0, so the body of its answer is not divided into chunks and ends where the
connection does. Bytes that are no answer count as none.
-/

namespace Enrollment.Prover

/-- Where a server is, and what stands in front of every path there. -/
structure Site where
  host : String
  port : UInt16
  root : String
  deriving Repr, DecidableEq

namespace Site

/-- The port of a server whose URL names none. -/
def defaultPort : UInt16 := 80

def scheme : List Char := "http://".toList

/-- The host and the text after it; an IPv6 address stands between brackets. -/
def splitHost : List Char → List Char × List Char
  | '[' :: cs => (cs.takeWhile (· != ']'), (cs.dropWhile (· != ']')).drop 1)
  | cs => (cs.takeWhile (· != ':'), cs.dropWhile (· != ':'))

def port? : List Char → Option UInt16
  | [] => some defaultPort
  | ':' :: digits => (Decimal.read? (UInt16.size - 1) digits).map UInt16.ofNat
  | _ => none

/-- The server that a URL names. -/
def parse? (url : String) : Option Site :=
  let cs := url.toList
  if scheme.isPrefixOf cs then
    let rest := cs.drop scheme.length
    let (host, after) := splitHost (rest.takeWhile (· != '/'))
    if host.isEmpty then none
    else
      (port? after).map fun port =>
        ⟨String.ofList host, port, String.ofList (rest.dropWhile (· != '/'))⟩
  else none

end Site

def lineEnd : String := "\r\n"

/-- The bytes of a call. -/
def Call.message (c : Call) (s : Site) : List UInt8 :=
  let headers := match c.body with
    | none => []
    | some body =>
        ["Content-Type: application/json",
          "Content-Length: " ++ toString (Utf8.encode body).length]
  let lines := [c.method ++ " " ++ s.root ++ c.path ++ " HTTP/1.0", "Host: " ++ s.host] ++ headers
  Utf8.encode (lineEnd.intercalate (lines ++ ["", c.body.getD ""]))

def afterHead? : List UInt8 → Option (List UInt8)
  | [] => none
  | b :: bs =>
      if [0x0D, 0x0A, 0x0D, 0x0A].isPrefixOf (b :: bs) then some (bs.drop 3) else afterHead? bs

/-- The status in the first line of an answer, its second word. -/
def status? (bytes : List UInt8) : Option UInt16 :=
  let word := ((bytes.dropWhile (· != 0x20)).drop 1).takeWhile fun b => 0x30 ≤ b && b ≤ 0x39
  let status := Decimal.read? (UInt16.size - 1) (word.map fun b => Char.ofNat b.toNat)
  (status.map UInt16.ofNat).filter Http.isStatus

/-- The answer in the bytes that came back. -/
def Reply.ofBytes (bytes : List UInt8) : Reply :=
  if (Utf8.encode "HTTP/1.").isPrefixOf bytes then
    match status? bytes, afterHead? bytes with
    | some status, some body => .answer status body
    | _, _ => .lost
  else .lost

end Enrollment.Prover
