import Enrollment.Number.Scale

/-!
# Lengths of time and moments

A `Span` is a length of time in whole nanoseconds, below `2 ^ 64` seconds. An `Instant` is a moment
in nanoseconds after a fixed origin, and the clock can represent only the moments below `2 ^ 63`
seconds. So both sums, of two spans and of an instant and a span, can fall outside their range:
`none` is that outcome, and whoever adds says what it means.
-/

namespace Enrollment

def nanosPerSecond : Nat := 1000000000

def nanosPerMilli : Nat := 1000000

/-- A length of time. -/
structure Span where
  nanos : Nat
  inRange : nanos < UInt64.size * nanosPerSecond
  deriving DecidableEq

namespace Span

theorem ext {s t : Span} (h : s.nanos = t.nanos) : s = t := by
  cases s; cases t; cases h; rfl

instance : Repr Span := ⟨fun s _ => repr s.nanos⟩

instance : Inhabited Span := ⟨⟨0, by decide⟩⟩

def zero : Span := ⟨0, by decide⟩

/-- The span of a number of nanoseconds, if it is in range. -/
def ofNanos? (nanos : Nat) : Option Span :=
  if h : nanos < UInt64.size * nanosPerSecond then some ⟨nanos, h⟩ else none

/-- A number of seconds that fits in a word. -/
def ofSeconds (seconds : UInt64) : Span :=
  ⟨seconds.toNat * nanosPerSecond, by
    have := seconds.toNat_lt_size; simp only [nanosPerSecond]; omega⟩

/-- A number of milliseconds that fits in a word. -/
def ofMillis (millis : UInt64) : Span :=
  ⟨millis.toNat * nanosPerMilli, by
    have := millis.toNat_lt_size; simp only [nanosPerSecond, nanosPerMilli]; omega⟩

def seconds (s : Span) : Nat :=
  s.nanos / nanosPerSecond

def subsecNanos (s : Span) : Nat :=
  s.nanos % nanosPerSecond

def millis (s : Span) : Nat :=
  s.nanos / nanosPerMilli

def isZero (s : Span) : Bool :=
  s.nanos == 0

/-- The sum of two spans, if it is in range. -/
def add? (s t : Span) : Option Span :=
  ofNanos? (s.nanos + t.nanos)

theorem seconds_lt (s : Span) : s.seconds < UInt64.size := by
  have := s.inRange
  simp only [seconds, nanosPerSecond] at this ⊢
  omega

/-- The whole seconds of a span, as the word they fit in. -/
def wholeSeconds (s : Span) : UInt64 :=
  UInt64.ofNatLT s.seconds s.seconds_lt

theorem ofNanos?_eq_some_iff {n : Nat} {s : Span} : ofNanos? n = some s ↔ s.nanos = n := by
  constructor
  · intro h
    simp only [ofNanos?] at h
    split at h
    · cases h; rfl
    · cases h
  · rintro rfl
    exact dif_pos s.inRange

theorem add?_eq_some_iff {s t u : Span} : s.add? t = some u ↔ u.nanos = s.nanos + t.nanos :=
  ofNanos?_eq_some_iff

theorem add?_eq_none_iff {s t : Span} :
    s.add? t = none ↔ UInt64.size * nanosPerSecond ≤ s.nanos + t.nanos := by
  simp [add?, ofNanos?]

end Span

/-- A moment that the clock can represent. -/
structure Instant where
  nanos : Nat
  inRange : nanos < signedSize * nanosPerSecond
  deriving DecidableEq

namespace Instant

theorem ext {s t : Instant} (h : s.nanos = t.nanos) : s = t := by
  cases s; cases t; cases h; rfl

instance : Repr Instant := ⟨fun s _ => repr s.nanos⟩

/-- The moment from which all others are counted. -/
def origin : Instant := ⟨0, by decide⟩

instance : Inhabited Instant := ⟨origin⟩

instance : LE Instant := ⟨fun s t => s.nanos ≤ t.nanos⟩
instance : LT Instant := ⟨fun s t => s.nanos < t.nanos⟩
instance (s t : Instant) : Decidable (s ≤ t) := inferInstanceAs (Decidable (s.nanos ≤ t.nanos))
instance (s t : Instant) : Decidable (s < t) := inferInstanceAs (Decidable (s.nanos < t.nanos))

theorem le_def {s t : Instant} : s ≤ t ↔ s.nanos ≤ t.nanos := Iff.rfl
theorem lt_def {s t : Instant} : s < t ↔ s.nanos < t.nanos := Iff.rfl

theorem le_refl (s : Instant) : s ≤ s := Nat.le_refl s.nanos

theorem le_trans {s t u : Instant} (hst : s ≤ t) (htu : t ≤ u) : s ≤ u :=
  Nat.le_trans hst htu

@[simp] theorem not_le {s t : Instant} : ¬ s ≤ t ↔ t < s := Nat.not_le

@[simp] theorem not_lt {s t : Instant} : ¬ s < t ↔ t ≤ s := Nat.not_lt

/-- The earlier of two moments. -/
def earlier (s t : Instant) : Instant :=
  if s ≤ t then s else t

theorem earlier_le_left (s t : Instant) : s.earlier t ≤ s := by
  unfold earlier
  split
  next => exact le_refl s
  next h => exact Nat.le_of_lt (not_le.mp h)

theorem earlier_le_right (s t : Instant) : s.earlier t ≤ t := by
  unfold earlier
  split
  next h => exact h
  next => exact le_refl t

theorem earlier_eq_or (s t : Instant) : s.earlier t = s ∨ s.earlier t = t := by
  unfold earlier
  split
  · exact Or.inl rfl
  · exact Or.inr rfl

/-- The moment a span after another, if the clock can represent it. -/
def after? (s : Instant) (span : Span) : Option Instant :=
  if h : s.nanos + span.nanos < signedSize * nanosPerSecond then some ⟨s.nanos + span.nanos, h⟩
  else none

theorem after?_eq_some_iff {s t : Instant} {span : Span} :
    s.after? span = some t ↔ t.nanos = s.nanos + span.nanos := by
  constructor
  · intro h
    simp only [after?] at h
    split at h
    · cases h; rfl
    · cases h
  · intro h
    have := t.inRange
    rw [h] at this
    simp only [after?, this, dite_true]
    exact congrArg some (Instant.ext h.symm)

end Instant

end Enrollment
