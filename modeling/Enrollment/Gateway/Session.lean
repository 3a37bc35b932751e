import Enrollment.Gateway
import Enrollment.Run

/-!
# Gateways over time

A gateway together with the clock that its nonces follow, and runs of actions on the two. Each
request is answered with the state as the actions before it left it.
-/

namespace Enrollment.Gateway

structure Session where
  clock : Clock
  gateway : Gateway
  deriving DecidableEq

/-- What can happen to a gateway or its clock. -/
inductive Action where
  | request (found : Circumstances) (r : Http.Request)
  | sweep
  | advance (span : Span)

/-- What an action answers when no time out of range stops it. -/
inductive Answer where
  | reply (r : Reply)
  | swept (removed : Option Nat)
  | advanced

namespace Session

def step (s : Session) : Action → Except TimeOverflow Answer × Session
  | .request found r =>
      let (result, gateway) := s.gateway.handle s.clock.read found r
      (result.map .reply, { s with gateway })
  | .sweep =>
      let (result, gateway) := s.gateway.sweep s.clock.read
      (result.map .swept, { s with gateway })
  | .advance span =>
      let (result, clock) := s.clock.advance span
      (result.map fun _ => .advanced, { s with clock })

/-- The answers of a run, and the state it leaves. -/
def run (s : Session) (actions : List Action) : List (Except TimeOverflow Answer) × Session :=
  Enrollment.run step s actions

end Session

end Enrollment.Gateway
