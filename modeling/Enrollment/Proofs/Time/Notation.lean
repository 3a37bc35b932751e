import Enrollment.Proofs.Text.Decimal
import Enrollment.Proofs.Text.Trim
import Enrollment.Time.Notation

/-!
# Spans, written and read

The text of a span gives back the span where the text loses nothing of it: where it is a whole
number of seconds, or a whole number of milliseconds that fits in a word. Every span that was read
from a text is of that kind, whatever its unit was. Of other spans the text keeps the whole
milliseconds, and it is no written span only where these do not fit in a word.
-/

namespace Enrollment

theorem TimeUnit.isBlank_letters (u : TimeUnit) : ∀ c ∈ u.letters, Unicode.isBlank c = false := by
  cases u <;>
    simp only [letters, List.forall_mem_cons, List.not_mem_nil, false_implies, implies_true,
      and_true] <;>
    decide

namespace Span

/-- Nothing of the span is lost where it is written. -/
def IsExpressible (s : Span) : Prop :=
  s.subsecNanos = 0 ∨ (s.nanos % nanosPerMilli = 0 ∧ s.millis ≤ maxWord)

theorem isExpressible_ofSeconds (seconds : UInt64) : (ofSeconds seconds).IsExpressible :=
  Or.inl (Nat.mul_mod_left _ _)

/-! ## Written spans -/

section Written

variable {n : Nat}

theorem trim_write (n : Nat) (letters : List Char)
    (hletters : ∀ c ∈ letters, Unicode.isBlank c = false) :
    Unicode.trim (Decimal.write n ++ letters) = Decimal.write n ++ letters := by
  refine Unicode.trim_eq_self fun c hc => ?_
  rcases List.mem_append.mp hc with hdigit | hletter
  · exact Unicode.isBlank_of_isDigit (Decimal.isDigit_write hdigit)
  · exact hletters c hletter

theorem trim_write_self (n : Nat) : Unicode.trim (Decimal.write n) = Decimal.write n := by
  simpa using trim_write n [] (by simp)

theorem beforeUnit?_append (cs : List Char) (u : TimeUnit) :
    beforeUnit? (cs ++ u.letters) u = some cs := by
  have hsuffix : u.letters.isSuffixOf (cs ++ u.letters) = true :=
    List.isSuffixOf_iff_suffix.mpr (List.suffix_append cs _)
  simp [beforeUnit?, hsuffix]

theorem splitUnit_millis (n : Nat) :
    splitUnit (Decimal.write n ++ TimeUnit.millis.letters) = some (Decimal.write n, .millis) := by
  simp [splitUnit, beforeUnit?_append]

theorem splitUnit_seconds (n : Nat) :
    splitUnit (Decimal.write n ++ TimeUnit.seconds.letters) = some (Decimal.write n, .seconds) := by
  -- Milliseconds are looked for first, but no numeral ends with their first letter.
  have hmillis : beforeUnit? (Decimal.write n ++ TimeUnit.seconds.letters) .millis = none := by
    refine if_neg fun hsuffix => ?_
    obtain ⟨cs, hcs⟩ := List.isSuffixOf_iff_suffix.mp hsuffix
    have hwrite : cs ++ ['m'] = Decimal.write n := by
      have hs : (cs ++ ['m']) ++ ['s'] = Decimal.write n ++ ['s'] := by
        rw [List.append_assoc]
        exact hcs
      exact List.append_cancel_right hs
    exact Decimal.not_mem_write (c := 'm') rfl n (hwrite ▸ by simp)
  simp only [splitUnit, List.findSome?_cons, hmillis, beforeUnit?_append, Option.map_none,
    Option.map_some]

section Parse

variable {text : String} {u : TimeUnit}
  (htext : Unicode.trim text.toList = Decimal.write n ++ u.letters)
  (hsplit : splitUnit (Decimal.write n ++ u.letters) = some (Decimal.write n, u))

include htext hsplit

theorem parse_of_splitUnit {s : Span} (hn : n ≤ maxWord) (hs : ofUnits? n u = some s) :
    parse text = .ok s := by
  simp only [parse, htext, hsplit, trim_write_self, ofNumeral?, Decimal.read?_write hn,
    Option.bind_some, hs]

theorem parse_of_overflow (hn : maxWord < n) : parse text = .error (.unit u) := by
  simp only [parse, htext, hsplit, trim_write_self, ofNumeral?, Decimal.read?_write_of_lt hn,
    Option.bind_none]

end Parse

/-- A whole number of seconds is read back. -/
theorem parse_render_seconds {s : Span} (hs : s.subsecNanos = 0) : parse s.render = .ok s := by
  have hnanos : s.seconds * nanosPerSecond = s.nanos :=
    Nat.div_mul_cancel (Nat.dvd_of_mod_eq_zero hs)
  have hfits : s.seconds ≤ maxWord := Nat.le_sub_one_of_lt s.seconds_lt
  refine parse_of_splitUnit (u := .seconds) ?_ (splitUnit_seconds s.seconds) hfits ?_
  · rw [render, if_pos hs, String.toList_ofList]
    exact trim_write _ _ (TimeUnit.isBlank_letters .seconds)
  · rw [ofUnits?, if_pos hfits]
    exact ofNanos?_eq_some_iff.mpr hnanos.symm

theorem trim_render_millis {s : Span} (hs : s.subsecNanos ≠ 0) :
    Unicode.trim s.render.toList = Decimal.write s.millis ++ TimeUnit.millis.letters := by
  rw [render, if_neg hs, String.toList_ofList]
  exact trim_write _ _ (TimeUnit.isBlank_letters .millis)

/-- Any other span is read as its whole milliseconds, if they fit in a word. -/
theorem parse_render_millis {s : Span} (hs : s.subsecNanos ≠ 0) (hfits : s.millis ≤ maxWord)
    {whole : Span} (hwhole : whole.nanos = s.millis * nanosPerMilli) :
    parse s.render = .ok whole := by
  refine parse_of_splitUnit (trim_render_millis hs) (splitUnit_millis s.millis) hfits ?_
  rw [ofUnits?, if_pos hfits]
  exact ofNanos?_eq_some_iff.mpr hwhole

theorem parse_render_overflow {s : Span} (hs : s.subsecNanos ≠ 0) (hmillis : maxWord < s.millis) :
    parse s.render = .error (.unit .millis) :=
  parse_of_overflow (trim_render_millis hs) (splitUnit_millis s.millis) hmillis

/-- A span of which nothing is lost is read back. -/
theorem parse_render {s : Span} (hs : s.IsExpressible) : parse s.render = .ok s := by
  by_cases hwhole : s.subsecNanos = 0
  · exact parse_render_seconds hwhole
  · obtain ⟨hmillis, hfits⟩ := hs.resolve_left hwhole
    exact parse_render_millis hwhole hfits
      (Nat.div_mul_cancel (Nat.dvd_of_mod_eq_zero hmillis)).symm

end Written

/-! ## Spans that were read -/

theorem isExpressible_of_ofUnits? {count : Nat} {u : TimeUnit} {s : Span}
    (hs : ofUnits? count u = some s) : s.IsExpressible := by
  have hwhole : ∀ {seconds : Nat}, s.nanos = seconds * nanosPerSecond → s.IsExpressible := by
    intro seconds hnanos
    exact Or.inl (by rw [subsecNanos, hnanos]; exact Nat.mul_mod_left _ _)
  cases u with
  | millis =>
      simp only [ofUnits?] at hs
      split at hs
      next hfits =>
        have hnanos := ofNanos?_eq_some_iff.mp hs
        refine Or.inr ⟨by rw [hnanos]; exact Nat.mul_mod_left _ _, ?_⟩
        rw [millis, hnanos, Nat.mul_div_cancel _ (by decide)]
        exact hfits
      next => cases hs
  | _ =>
      simp only [ofUnits?] at hs
      split at hs
      next => exact hwhole (ofNanos?_eq_some_iff.mp hs)
      next => cases hs

theorem isExpressible_of_ofNumeral? {numeral : List Char} {u : TimeUnit} {s : Span}
    (hs : ofNumeral? numeral u = some s) : s.IsExpressible := by
  obtain ⟨count, -, hcount⟩ := Option.bind_eq_some_iff.mp hs
  exact isExpressible_of_ofUnits? hcount

/-- Writing a span that was read loses nothing of it. -/
theorem isExpressible_of_parse {text : String} {s : Span} (hs : parse text = .ok s) :
    s.IsExpressible := by
  simp only [parse] at hs
  split at hs
  · split at hs
    next hnumeral =>
      cases hs
      exact isExpressible_of_ofNumeral? hnumeral
    next => cases hs
  · split at hs
    next hnumeral =>
      cases hs
      exact isExpressible_of_ofNumeral? hnumeral
    next => cases hs

/-! ## What the text of a span keeps -/

/-- The whole milliseconds of a span. -/
def wholeMillis (s : Span) : Span :=
  ⟨s.millis * nanosPerMilli, Nat.lt_of_le_of_lt (Nat.div_mul_le_self _ _) s.inRange⟩

theorem wholeMillis_eq_self {s : Span} (hs : s.nanos % nanosPerMilli = 0) : s.wholeMillis = s :=
  Span.ext (Nat.div_mul_cancel (Nat.dvd_of_mod_eq_zero hs))

theorem mod_millis_of_subsecNanos_eq_zero {s : Span} (hs : s.subsecNanos = 0) :
    s.nanos % nanosPerMilli = 0 := by
  simp only [subsecNanos, nanosPerSecond, nanosPerMilli] at hs ⊢
  omega

/-- Where the milliseconds fit in a word, they are what is read. -/
theorem parse_render_of_fits {s : Span} (hfits : s.millis ≤ maxWord) :
    parse s.render = .ok s.wholeMillis := by
  by_cases hseconds : s.subsecNanos = 0
  · rw [wholeMillis_eq_self (mod_millis_of_subsecNanos_eq_zero hseconds)]
    exact parse_render_seconds hseconds
  · exact parse_render_millis hseconds hfits rfl

/-- The text of a span is not read exactly where the span is no whole number of seconds and has too
many milliseconds for a word. -/
theorem parse_render_eq_error_iff {s : Span} {e : NotationError} : parse s.render = .error e ↔
    e = .unit .millis ∧ s.nanos % nanosPerSecond ≠ 0 ∧ maxWord < s.millis := by
  constructor
  · intro herror
    by_cases hseconds : s.subsecNanos = 0
    · rw [parse_render_seconds hseconds] at herror
      cases herror
    by_cases hfits : s.millis ≤ maxWord
    · rw [parse_render_of_fits hfits] at herror
      cases herror
    have hmillis := Nat.not_le.mp hfits
    rw [parse_render_overflow hseconds hmillis] at herror
    cases herror
    exact ⟨rfl, hseconds, hmillis⟩
  · rintro ⟨rfl, hseconds, hmillis⟩
    exact parse_render_overflow hseconds hmillis

/-- The text of a span gives back the span where it is a whole number of seconds, or of milliseconds
that fit in a word; it gives the whole milliseconds of any span whose milliseconds fit. It is not
read exactly where a span that is no whole number of seconds has more milliseconds than fit. A span
that any text was read as is given back. -/
theorem rendered_spans_read (s : Span) :
    (s.nanos % nanosPerSecond = 0 → parse s.render = .ok s) ∧
      (s.nanos % nanosPerMilli = 0 → s.millis ≤ maxWord → parse s.render = .ok s) ∧
      (s.millis ≤ maxWord → parse s.render = .ok s.wholeMillis) ∧
      (∀ e, parse s.render = .error e ↔
        e = .unit .millis ∧ s.nanos % nanosPerSecond ≠ 0 ∧ maxWord < s.millis) ∧
      ∀ text, parse text = .ok s → parse s.render = .ok s := by
  refine ⟨parse_render_seconds, fun hmillis hfits => ?_, parse_render_of_fits,
    fun e => parse_render_eq_error_iff, fun text htext => ?_⟩
  · exact parse_render (.inr ⟨hmillis, hfits⟩)
  · exact parse_render (isExpressible_of_parse htext)

/-- Half a millisecond is lost; the longest span of all, a nanosecond short of `2 ^ 64` seconds, has
a text that is not read. -/
theorem rendered_fractions_read :
    let short : Span := ⟨1500500000, by decide⟩
    let longest : Span := ⟨UInt64.size * nanosPerSecond - 1, by decide⟩
    parse short.render = .ok (.ofMillis 1500) ∧ parse longest.render = .error (.unit .millis) := by
  intro short longest
  obtain ⟨-, -, hshort, -⟩ := rendered_spans_read short
  obtain ⟨-, -, -, hlongest, -⟩ := rendered_spans_read longest
  have hwhole : short.wholeMillis = .ofMillis 1500 := Span.ext (by decide)
  rw [hwhole] at hshort
  exact ⟨hshort (by decide), (hlongest _).mpr ⟨rfl, by decide, by decide⟩⟩

end Span

end Enrollment
