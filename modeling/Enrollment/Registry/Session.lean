import Enrollment.Registry
import Enrollment.Run

/-!
# Registries over time

A registry together with the clock it reads, and runs of actions on the two. Each action is
answered with the state as the actions before it left it; an action that a time out of range stops
is answered by that, and the run goes on.

A sweeper works in the background: it sweeps at once and then at every interval, for as long as it
is given. What stops it does not stop the run.
-/

namespace Enrollment.Registry

structure Session where
  clock : Clock
  registry : Registry
  deriving DecidableEq

/-- What can happen to a registry or its clock. Fresh tokens and drawn texts come with the action
that needs them. -/
inductive Action where
  | issue (token : String)
  | register (attempt : Attempt) (drawn : Credentials)
  | sweep
  /-- A sweeper works for a span, while the clock stands. -/
  | sweepEvery (interval span : Span)
  | advance (span : Span)
  | setOutage (outage : Option String)
  deriving Repr, DecidableEq

/-- What an action answers when no time out of range stops it. -/
inductive Answer where
  | issued (token : String)
  | full (e : TableFull)
  | verdict (v : Verdict)
  | swept (removed : Nat)
  | done

namespace Session

/-- What a sweeper leaves that works for a span while the clock stands. Its first sweep finds all
there is, so the later ones do nothing. Without any time it does not come to its first sweep, and
an interval of no time stops it before. -/
def sweepEvery (s : Session) (interval span : Span) : Session :=
  if interval.isZero || span.isZero then s
  else { s with registry := (s.registry.sweep s.clock.read).2 }

def step (s : Session) : Action → Except TimeOverflow Answer × Session
  | .issue token =>
      let (result, registry) := s.registry.issue s.clock.read token
      (result.map fun
        | .ok token => .issued token
        | .error e => .full e, { s with registry })
  | .register attempt drawn =>
      let (result, registry) := s.registry.register s.clock.read attempt drawn
      (result.map .verdict, { s with registry })
  | .sweep =>
      let (result, registry) := s.registry.sweep s.clock.read
      (result.map .swept, { s with registry })
  | .sweepEvery interval span => (.ok .done, s.sweepEvery interval span)
  | .advance span =>
      let (result, clock) := s.clock.advance span
      (result.map fun _ => .done, { s with clock })
  | .setOutage outage => (.ok .done, { s with registry := s.registry.setOutage outage })

/-- The answers of a run, and the state it leaves. -/
def run (s : Session) (actions : List Action) : List (Except TimeOverflow Answer) × Session :=
  Enrollment.run step s actions

end Session

end Enrollment.Registry
