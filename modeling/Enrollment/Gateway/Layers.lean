import Enrollment.Gateway.Metrics
import Enrollment.Gateway.Refusal

/-!
# Around a request

What is done around the handling of every request: it is cut off after a time limit, its answer is
counted, and the trace that its caller is part of is noted. A time limit that is reached exactly is
kept. Timers look ahead thirty years, and what takes longer counts as taking that long.
-/

namespace Enrollment.Gateway

/-- How far ahead a timer looks: thirty years of 365 days. -/
def timerReach : Span := .ofSeconds (30 * 365 * 86400)

/-- Whether handling that takes a given time is cut off. -/
def isLate (limit taken : Span) : Bool :=
  limit.nanos < min taken.nanos timerReach.nanos

/-- Answers within a limit or with a refusal. -/
def withDeadline (limit taken : Span) (m : Metrics) (answer : Except ε Http.Response) :
    Except ε Http.Response × Metrics :=
  if isLate limit taken then (.ok Refusal.timeout.response, m.countTimeout) else (answer, m)

/-- Counts an answer. A request whose handling failed is not counted. -/
def counted (latencyMillis : UInt64) (m : Metrics) (answer : Except ε Http.Response) : Metrics :=
  match answer with
  | .ok r => m.record r.status latencyMillis
  | .error _ => m

/-- The trace that a caller is part of. -/
structure TraceParent where
  traceId : String
  parentSpanId : String
  deriving Repr, DecidableEq

/-- Reads the header `traceparent`, four parts separated by hyphens. -/
def TraceParent.ofRequest? (r : Http.Request) : Option TraceParent :=
  match (r.headerText? "traceparent").map (List.splitOn '-') with
  | some [_, traceId, parentSpanId, _] =>
      some ⟨String.ofList traceId, String.ofList parentSpanId⟩
  | _ => none

end Enrollment.Gateway
