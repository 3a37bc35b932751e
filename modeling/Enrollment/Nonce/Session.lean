import Enrollment.Nonce.Ledger
import Enrollment.Run

/-!
# Ledgers over time

A ledger together with the clock it reads. A run is a list of actions, each of which is answered
with the state as the actions before it left it; an action that a time out of range stops is
answered by that, and the run goes on.
-/

namespace Enrollment.Ledger

structure Session where
  clock : Clock
  ledger : Ledger
  deriving Repr, DecidableEq

/-- What can be done with a ledger, or to its clock. A fresh token comes with the action that needs
one. -/
inductive Action where
  | issue (token : String)
  | consume (token : String)
  | sweep
  | advance (span : Span)
  deriving Repr, DecidableEq

/-- What an action answers when no time out of range stops it. -/
inductive Answer where
  | issued (token : String)
  | full (e : TableFull)
  | consumed
  | rejected (e : NonceError)
  | swept (removed : Nat)
  | advanced
  deriving Repr, DecidableEq

/-- The answer to an attempt to issue. -/
def Answer.ofIssue : Except TableFull String → Answer
  | .ok token => .issued token
  | .error e => .full e

/-- The answer to a token that was presented. -/
def Answer.ofConsume : Except NonceError Unit → Answer
  | .ok () => .consumed
  | .error e => .rejected e

namespace Session

def step (s : Session) : Action → Except TimeOverflow Answer × Session
  | .issue token =>
      let (result, ledger) := s.ledger.issue s.clock.read token
      (result.map .ofIssue, { s with ledger })
  | .consume token =>
      let (result, ledger) := s.ledger.consume s.clock.read token
      (result.map .ofConsume, { s with ledger })
  | .sweep =>
      let (result, ledger) := s.ledger.sweep s.clock.read
      (result.map .swept, { s with ledger })
  | .advance span =>
      let (result, clock) := s.clock.advance span
      (result.map fun _ => .advanced, { s with clock })

/-- The answers of a run, and the state it leaves. -/
def run (s : Session) (actions : List Action) : List (Except TimeOverflow Answer) × Session :=
  Enrollment.run step s actions

end Session

end Enrollment.Ledger
