import Enrollment.Proofs.Events
import Enrollment.Time.Clock
import Mathlib.Algebra.Ring.Nat

/-!
# Clocks that are moved again and again

What has passed on a clock is exactly the sum of the spans it was moved by; a span that would take
it to the limit of spans does not move it at all. What the clock shows is that much later than when
it was started. Moments have a limit of their own, half as far, and a clock that was started late
comes to it early: beyond it the clock still moves, but shows nothing any more.
-/

namespace Enrollment

/-! ## Seconds and nanoseconds -/

/-- A time as seconds and the nanoseconds left over. -/
def parts (nanos : Nat) : Nat × Nat :=
  (nanos / nanosPerSecond, nanos % nanosPerSecond)

/-- The sum of two times in parts: a second is carried over where the nanoseconds make one. There is
no sum whose seconds come to the limit, with what is carried or without. -/
def carriedSum? (limit : Nat) (s t : Nat × Nat) : Option (Nat × Nat) :=
  let seconds := s.1 + t.1
  let nanos := s.2 + t.2
  if limit ≤ seconds then none
  else if nanos < nanosPerSecond then some (seconds, nanos)
  else if limit ≤ seconds + 1 then none
  else some (seconds + 1, nanos - nanosPerSecond)

/-- Carrying seconds over comes to adding nanoseconds. -/
theorem carriedSum?_parts (limit a b : Nat) : carriedSum? limit (parts a) (parts b) =
    if a + b < limit * nanosPerSecond then some (parts (a + b)) else none := by
  have hlt : a + b < limit * nanosPerSecond ↔ (a + b) / nanosPerSecond < limit :=
    (Nat.div_lt_iff_lt_mul (by decide)).symm
  simp only [hlt, carriedSum?, parts]
  by_cases hcarry : a % nanosPerSecond + b % nanosPerSecond < nanosPerSecond
  · have hseconds : (a + b) / nanosPerSecond = a / nanosPerSecond + b / nanosPerSecond := by
      simp only [nanosPerSecond] at hcarry ⊢
      omega
    have hnanos : (a + b) % nanosPerSecond = a % nanosPerSecond + b % nanosPerSecond := by
      simp only [nanosPerSecond] at hcarry ⊢
      omega
    simp only [hcarry, hseconds, hnanos, if_true, ← Nat.not_lt, ite_not]
  · have hseconds :
        (a + b) / nanosPerSecond = a / nanosPerSecond + b / nanosPerSecond + 1 := by
      simp only [nanosPerSecond] at hcarry ⊢
      omega
    have hnanos : (a + b) % nanosPerSecond =
        a % nanosPerSecond + b % nanosPerSecond - nanosPerSecond := by
      simp only [nanosPerSecond] at hcarry ⊢
      omega
    simp only [hcarry, hseconds, hnanos, if_false, ← Nat.not_lt, ite_not]
    -- What is short of the limit with a second more is short of it without.
    split
    next => rfl
    next hreached => rw [if_neg (by omega)]

theorem Span.add?_eq_carriedSum? (s t : Span) : (s.add? t).map (fun sum => parts sum.nanos) =
    carriedSum? UInt64.size (parts s.nanos) (parts t.nanos) := by
  rw [carriedSum?_parts, Span.add?, Span.ofNanos?]
  split <;> rfl

theorem Instant.after?_eq_carriedSum? (s : Instant) (span : Span) :
    (s.after? span).map (fun later => parts later.nanos) =
      carriedSum? signedSize (parts s.nanos) (parts span.nanos) := by
  rw [carriedSum?_parts, Instant.after?]
  split <;> rfl

/-! ## One move -/

namespace Clock

variable {clock : Clock} {span : Span} {origin now : Instant}

theorem advance_of_lt (hlt : clock.elapsed.nanos + span.nanos < UInt64.size * nanosPerSecond) :
    clock.advance span = (.ok (), ⟨⟨clock.elapsed.nanos + span.nanos, hlt⟩⟩) := by
  have hadd : clock.elapsed.add? span = some ⟨_, hlt⟩ := Span.add?_eq_some_iff.mpr rfl
  simp only [advance, hadd]

theorem advance_of_le (hle : UInt64.size * nanosPerSecond ≤ clock.elapsed.nanos + span.nanos) :
    clock.advance span = (.error .span, clock) := by
  have hadd : clock.elapsed.add? span = none := Span.add?_eq_none_iff.mpr hle
  simp only [advance, hadd]

/-- A clock is moved by the whole span or not at all. -/
theorem advance_cases (clock : Clock) (span : Span) :
    (clock.elapsed.nanos + span.nanos < UInt64.size * nanosPerSecond ∧
      (clock.advance span).1 = .ok () ∧
      (clock.advance span).2.elapsed.nanos = clock.elapsed.nanos + span.nanos) ∨
    (UInt64.size * nanosPerSecond ≤ clock.elapsed.nanos + span.nanos ∧
      clock.advance span = (.error .span, clock)) := by
  rcases Nat.lt_or_ge (clock.elapsed.nanos + span.nanos) (UInt64.size * nanosPerSecond) with
    hlt | hle
  · exact Or.inl ⟨hlt, by rw [advance_of_lt hlt], by rw [advance_of_lt hlt]⟩
  · exact Or.inr ⟨hle, advance_of_le hle⟩

/-! ## What is shown -/

/-- What a clock shows that was started at an origin, or the sum that cannot be formed. -/
def readFrom (clock : Clock) (origin : Instant) : Except TimeOverflow Instant :=
  match origin.after? clock.elapsed with
  | some now => .ok now
  | none => .error .moment

theorem readFrom_origin (clock : Clock) : clock.readFrom .origin = clock.read := rfl

theorem readFrom_eq_ok_iff :
    clock.readFrom origin = .ok now ↔ now.nanos = origin.nanos + clock.elapsed.nanos := by
  rw [← Instant.after?_eq_some_iff, readFrom]
  cases origin.after? clock.elapsed <;> simp

theorem readFrom_eq_error_iff {e : TimeOverflow} : clock.readFrom origin = .error e ↔
    e = .moment ∧ signedSize * nanosPerSecond ≤ origin.nanos + clock.elapsed.nanos := by
  unfold readFrom Instant.after?
  rw [← Nat.not_lt]
  by_cases hlt : origin.nanos + clock.elapsed.nanos < signedSize * nanosPerSecond
  · simp [hlt]
  · simp [hlt, eq_comm]

/-! ## Many moves -/

section Moves

/-- One move of a clock, with the clock before and after it. -/
abbrev Move : Type :=
  Event Clock Span (Except TimeOverflow Unit)

/-- The spans that a clock was really moved by. -/
def accepted (trail : List Move) : List Span :=
  (trail.filter (·.answer.isOk)).map (·.action)

variable {e : Move} {trail : List Move}

theorem accepted_cons_of_ok (hanswer : e.answer = .ok ()) :
    accepted (e :: trail) = e.action :: accepted trail := by
  rw [accepted, List.filter_cons_of_pos (by rw [hanswer]; rfl)]
  rfl

theorem accepted_cons_of_error {cause : TimeOverflow} (hanswer : e.answer = .error cause) :
    accepted (e :: trail) = accepted trail := by
  rw [accepted, List.filter_cons_of_neg (by rw [hanswer]; simp [Except.isOk, Except.toBool])]
  rfl

/-- What has passed on a clock is what had passed before, and the spans it was really moved by. -/
theorem elapsed_outcome (clock : Clock) (spans : List Span) :
    (outcome advance clock spans).elapsed.nanos =
      clock.elapsed.nanos + ((accepted (events advance clock spans)).map (·.nanos)).sum := by
  induction spans generalizing clock with
  | nil => rfl
  | cons span spans ih =>
      rw [outcome_cons, ih, events_cons]
      rcases clock.advance_cases span with ⟨-, hanswer, helapsed⟩ | ⟨-, hrefused⟩
      · rw [accepted_cons_of_ok hanswer, helapsed, List.map_cons, List.sum_cons, Nat.add_assoc]
        rfl
      · have hanswer : (eventOf advance clock span).answer = .error .span :=
          congrArg Prod.fst hrefused
        rw [accepted_cons_of_error hanswer, hrefused]

theorem elapsed_le_outcome (clock : Clock) (spans : List Span) :
    clock.elapsed.nanos ≤ (outcome advance clock spans).elapsed.nanos := by
  rw [elapsed_outcome]
  exact Nat.le_add_right _ _

end Moves

/-- However often a clock is moved: what has passed on it is exactly the sum of the spans that did
not overflow. One overflows exactly if it takes the clock to the limit of spans, which adding
seconds and nanoseconds apart and carrying over finds out, and then leaves the clock as it was. What
the clock shows, wherever it was started, is formed by such a sum too, with the limit of moments: it
is later than before by what has passed in between, and once there is no such sum, there never is
again. -/
theorem moves_add_up (spans later : List Span) (span : Span) (origin : Instant) :
    let clock := outcome advance start spans
    let after := outcome advance clock later
    clock.elapsed.nanos = ((accepted (events advance start spans)).map (·.nanos)).sum ∧
    (clock.elapsed.add? span).map (fun sum => parts sum.nanos) =
      carriedSum? UInt64.size (parts clock.elapsed.nanos) (parts span.nanos) ∧
    ((clock.advance span).1 = .error .span ↔
      UInt64.size * nanosPerSecond ≤ clock.elapsed.nanos + span.nanos) ∧
    ((clock.advance span).1 = .ok () ∨ clock.advance span = (.error .span, clock)) ∧
    clock.readFrom .origin = clock.read ∧
    (origin.after? clock.elapsed).map (fun now => parts now.nanos) =
      carriedSum? signedSize (parts origin.nanos) (parts clock.elapsed.nanos) ∧
    (∀ now now', clock.readFrom origin = .ok now → after.readFrom origin = .ok now' →
      now ≤ now' ∧ now'.nanos - now.nanos = after.elapsed.nanos - clock.elapsed.nanos) ∧
    ∀ e, clock.readFrom origin = .error e →
      e = .moment ∧ after.readFrom origin = .error .moment := by
  intro clock after
  have hle : clock.elapsed.nanos ≤ after.elapsed.nanos := elapsed_le_outcome clock later
  refine ⟨?sum, Span.add?_eq_carriedSum? _ _, ?overflow, ?refused, clock.readFrom_origin,
    Instant.after?_eq_carriedSum? _ _, ?readings, ?stopped⟩
  case sum => rw [elapsed_outcome, start, Span.zero, Nat.zero_add]
  case overflow =>
    rcases clock.advance_cases span with ⟨hlt, hanswer, -⟩ | ⟨hreached, hrefused⟩
    · simp [hanswer, Nat.not_le.mpr hlt]
    · simp [hrefused, hreached]
  case refused =>
    rcases clock.advance_cases span with ⟨-, hanswer, -⟩ | ⟨-, hrefused⟩
    · exact Or.inl hanswer
    · exact Or.inr hrefused
  case readings =>
    intro now now' hnow hnow'
    rw [readFrom_eq_ok_iff] at hnow hnow'
    rw [Instant.le_def]
    omega
  case stopped =>
    intro e he
    obtain ⟨rfl, hreached⟩ := readFrom_eq_error_iff.mp he
    exact ⟨rfl, readFrom_eq_error_iff.mpr ⟨rfl, by omega⟩⟩

-- Beyond the last moment that can be shown, a clock still moves.
example : (outcome advance start [.ofSeconds 9223372036854775808, .ofSeconds 60]).elapsed =
      .ofSeconds 9223372036854775868 ∧
    (outcome advance start [.ofSeconds 9223372036854775808, .ofSeconds 60]).now? = none := by
  decide

end Clock

end Enrollment
