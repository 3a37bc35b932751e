import Enrollment.Time.Span

/-!
# Clocks moved by hand

A clock shows the time that has passed since its origin. It is moved by adding a span. The time
passed and the moments that can be represented have different limits, so a clock can be moved
beyond the last moment it can show; from then on it cannot be read.
-/

namespace Enrollment

/-- The times that can leave their range. -/
inductive TimeOverflow where
  /-- A moment plus a span is no moment that can be represented. -/
  | moment
  /-- Two spans add up to no span. -/
  | span
  /-- A span has more nanoseconds than fit in a word. -/
  | nanos
  deriving Repr, DecidableEq

def TimeOverflow.message : TimeOverflow → String
  | .moment => "overflow when adding duration to instant"
  | .span => "overflow when adding durations"
  | .nanos => "Duration is longer than 584 years: TryFromIntError(PosOverflow)"

/-- A clock and the time that has passed on it. -/
structure Clock where
  elapsed : Span
  deriving Repr, DecidableEq

namespace Clock

def start : Clock := ⟨.zero⟩

instance : Inhabited Clock := ⟨start⟩

/-- The moment a clock shows, while it can be represented. -/
def now? (clock : Clock) : Option Instant :=
  Instant.origin.after? clock.elapsed

/-- Moves a clock. A clock that cannot be moved so far stays as it is. -/
def advance (clock : Clock) (span : Span) : Except TimeOverflow Unit × Clock :=
  match clock.elapsed.add? span with
  | some elapsed => (.ok (), ⟨elapsed⟩)
  | none => (.error .span, clock)

/-- The moment a clock shows, or the sum that cannot be formed. -/
def read (clock : Clock) : Except TimeOverflow Instant :=
  match clock.now? with
  | some now => .ok now
  | none => .error .moment

theorem now?_eq_some_iff {clock : Clock} {now : Instant} :
    clock.now? = some now ↔ now.nanos = clock.elapsed.nanos := by
  simp [now?, Instant.after?_eq_some_iff, Instant.origin]

theorem read_eq_ok_iff {clock : Clock} {now : Instant} :
    clock.read = .ok now ↔ now.nanos = clock.elapsed.nanos := by
  rw [← now?_eq_some_iff, read]
  cases clock.now? <;> simp

/-- A clock that has not gone beyond a moment can be read. -/
theorem exists_read_of_le {clock : Clock} {now : Instant}
    (hle : clock.elapsed.nanos ≤ now.nanos) : ∃ moment, clock.read = .ok moment ∧ moment ≤ now :=
  ⟨⟨clock.elapsed.nanos, Nat.lt_of_le_of_lt hle now.inRange⟩, read_eq_ok_iff.mpr rfl, hle⟩

/-- A clock never goes back, moved or not. -/
theorem elapsed_le_advance (clock : Clock) (span : Span) :
    clock.elapsed.nanos ≤ (clock.advance span).2.elapsed.nanos := by
  unfold advance
  split
  next elapsed hadd =>
    have hsum := Span.add?_eq_some_iff.mp hadd
    exact hsum ▸ Nat.le_add_right _ _
  next => exact Nat.le_refl _

end Clock

end Enrollment
