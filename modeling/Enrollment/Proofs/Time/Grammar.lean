import Enrollment.Proofs.Time.Notation

/-!
# The grammar of written spans

Which texts are written spans, said without the reader: between blanks stands a numeral, alone or
followed by blanks and a unit, and what it counts fits in a word. A numeral alone counts seconds.
The reader accepts exactly these texts and reads them as what they count. About every other text it
complains by the unit that the text ends with, the first in order where it ends with several.
-/

namespace Enrollment

/-! ## The grammar -/

namespace TimeUnit

/-- The seconds of a unit, or the milliseconds: what has to fit in a word. -/
def factor : TimeUnit → Nat
  | .millis => 1
  | .seconds => 1
  | .minutes => 60
  | .hours => 3600

/-- The nanoseconds of a unit. -/
def nanos : TimeUnit → Nat
  | .millis => nanosPerMilli
  | .seconds => nanosPerSecond
  | .minutes => 60 * nanosPerSecond
  | .hours => 3600 * nanosPerSecond

/-- The units that are looked for before a unit. -/
def earlier : TimeUnit → List TimeUnit
  | .millis => []
  | .seconds => [.millis]
  | .minutes => [.millis, .seconds]
  | .hours => [.millis, .seconds, .minutes]

def plural : TimeUnit → String
  | .millis => "milliseconds"
  | .seconds => "seconds"
  | .minutes => "minutes"
  | .hours => "hours"

theorem factor_pos (u : TimeUnit) : 0 < u.factor := by
  cases u <;> decide

end TimeUnit

namespace Span

/-- The texts that count a number of a unit: a numeral alone, which counts seconds, or a numeral and
the unit with blanks or nothing between them. -/
inductive Counts : List Char → Nat → TimeUnit → Prop
  | alone {numeral : List Char} {n : Nat} (h : Decimal.Spells numeral n) : Counts numeral n .seconds
  | ofUnit {numeral gap : List Char} {n : Nat} (u : TimeUnit) (h : Decimal.Spells numeral n)
      (hgap : ∀ c ∈ gap, Unicode.isBlank c = true) : Counts (numeral ++ gap ++ u.letters) n u

/-- Whether so many of a unit fit in a word: milliseconds and seconds as they are, minutes and hours
as seconds. -/
def Fits (n : Nat) (u : TimeUnit) : Prop :=
  n * u.factor ≤ maxWord

/-- The first unit in order that a text ends with. -/
def EndsIn (cs : List Char) (u : TimeUnit) : Prop :=
  u.letters <:+ cs ∧ ∀ v ∈ u.earlier, ¬ v.letters <:+ cs

/-- What is said about a text that is no written span. -/
inductive Complaint (cs : List Char) : String → Prop
  | ofUnit {u : TimeUnit} (h : EndsIn cs u) : Complaint cs ("invalid " ++ u.plural)
  | plain (h : ∀ u : TimeUnit, ¬ u.letters <:+ cs) : Complaint cs "invalid duration format"

variable {cs front gap numeral : List Char} {n : Nat} {u : TimeUnit} {s : Span}

/-! ## The unit of a text -/

theorem beforeUnit?_eq_some_iff : beforeUnit? cs u = some front ↔ cs = front ++ u.letters := by
  constructor
  · intro h
    simp only [beforeUnit?, Option.ite_none_right_eq_some, Option.some.injEq,
      List.isSuffixOf_iff_suffix] at h
    obtain ⟨⟨front, rfl⟩, rfl⟩ := h
    simp
  · rintro rfl
    exact beforeUnit?_append front u

theorem beforeUnit?_eq_none_iff : beforeUnit? cs u = none ↔ ¬ u.letters <:+ cs := by
  simp [beforeUnit?]

theorem exists_endsIn (h : u.letters <:+ cs) : ∃ v, EndsIn cs v := by
  by_cases hmillis : TimeUnit.millis.letters <:+ cs
  · exact ⟨.millis, hmillis, by simp [TimeUnit.earlier]⟩
  by_cases hseconds : TimeUnit.seconds.letters <:+ cs
  · exact ⟨.seconds, hseconds, by simp [TimeUnit.earlier, hmillis]⟩
  by_cases hminutes : TimeUnit.minutes.letters <:+ cs
  · exact ⟨.minutes, hminutes, by simp [TimeUnit.earlier, hmillis, hseconds]⟩
  by_cases hhours : TimeUnit.hours.letters <:+ cs
  · exact ⟨.hours, hhours, by simp [TimeUnit.earlier, hmillis, hseconds, hminutes]⟩
  cases u <;> contradiction

theorem splitUnit_of_endsIn (h : EndsIn (front ++ u.letters) u) :
    splitUnit (front ++ u.letters) = some (front, u) := by
  have hearlier (v : TimeUnit) (hv : v ∈ u.earlier) : beforeUnit? (front ++ u.letters) v = none :=
    beforeUnit?_eq_none_iff.mpr (h.2 v hv)
  have hown := beforeUnit?_append front u
  cases u <;> simp only [TimeUnit.earlier, List.forall_mem_cons] at hearlier <;>
    simp [splitUnit, hearlier, hown]

/-- A text is split at the first unit in order that it ends with. -/
theorem splitUnit_eq_some_iff :
    splitUnit cs = some (front, u) ↔ cs = front ++ u.letters ∧ EndsIn cs u := by
  constructor
  · intro h
    obtain ⟨u', -, hu'⟩ := List.exists_of_findSome?_eq_some h
    obtain ⟨front', hfront', hpair⟩ := Option.map_eq_some_iff.mp hu'
    cases hpair
    obtain rfl := beforeUnit?_eq_some_iff.mp hfront'
    -- Some unit is the first one that the text ends with, and the text is split there.
    obtain ⟨v, hv⟩ := exists_endsIn (List.suffix_append front u.letters)
    obtain ⟨rest, hrest⟩ := hv.1
    rw [← hrest] at h hv
    rw [splitUnit_of_endsIn hv] at h
    cases h
    exact ⟨rfl, hrest ▸ hv⟩
  · rintro ⟨rfl, h⟩
    exact splitUnit_of_endsIn h

theorem splitUnit_eq_none_iff : splitUnit cs = none ↔ ∀ u : TimeUnit, ¬ u.letters <:+ cs := by
  simp only [splitUnit, List.findSome?_eq_none_iff, Option.map_eq_none_iff, beforeUnit?_eq_none_iff]
  constructor
  · intro h u
    exact h u (by cases u <;> decide)
  · intro h u _
    exact h u

/-! ## Numerals and units -/

theorem exists_of_fits (h : Fits n u) : ∃ s : Span, s.nanos = n * u.nanos := by
  refine ⟨⟨n * u.nanos, ?_⟩, rfl⟩
  have hsize : 0 < UInt64.size := by decide
  cases u <;> simp only [Fits, TimeUnit.factor, TimeUnit.nanos, maxWord, nanosPerSecond,
    nanosPerMilli] at h ⊢ <;> omega

theorem ofUnits?_eq_some_iff : ofUnits? n u = some s ↔ Fits n u ∧ s.nanos = n * u.nanos := by
  cases u <;> simp [ofUnits?, Fits, TimeUnit.factor, TimeUnit.nanos, ofNanos?_eq_some_iff,
    Nat.mul_assoc]

theorem ofNumeral?_eq_some_iff : ofNumeral? numeral u = some s ↔
    ∃ n, Decimal.Spells numeral n ∧ Fits n u ∧ s.nanos = n * u.nanos := by
  constructor
  · intro h
    obtain ⟨n, hread, hn⟩ := Option.bind_eq_some_iff.mp h
    exact ⟨n, (Decimal.read?_eq_some_iff.mp hread).1, ofUnits?_eq_some_iff.mp hn⟩
  · rintro ⟨n, hspells, hfits, hnanos⟩
    have hword : n ≤ maxWord := Nat.le_trans (Nat.le_mul_of_pos_right n u.factor_pos) hfits
    refine Option.bind_eq_some_iff.mpr ⟨n, Decimal.read?_eq_some_iff.mpr ⟨hspells, hword⟩, ?_⟩
    exact ofUnits?_eq_some_iff.mpr ⟨hfits, hnanos⟩

theorem isBlank_of_spells (h : Decimal.Spells numeral n) :
    ∀ c ∈ numeral, Unicode.isBlank c = false := by
  obtain ⟨digits, hnumeral, -, hdigits, -⟩ := h
  intro c hc
  rcases hnumeral with rfl | rfl
  · exact Unicode.isBlank_of_isDigit (hdigits c hc)
  · rcases List.mem_cons.mp hc with rfl | hc
    · decide
    · exact Unicode.isBlank_of_isDigit (hdigits c hc)

/-- The last character before a unit, a digit or a blank, is no letter of a unit. -/
theorem exists_last (h : Decimal.Spells numeral n)
    (hgap : ∀ c ∈ gap, Unicode.isBlank c = true) :
    ∃ front c, numeral ++ gap = front ++ [c] ∧ c ≠ 'm' ∧ c ≠ 's' ∧ c ≠ 'h' := by
  rcases List.eq_nil_or_concat gap with rfl | ⟨front, c, rfl⟩
  · obtain ⟨front, c, rfl, hc⟩ := h.exists_last
    refine ⟨front, c, List.append_nil _, ?_, ?_, ?_⟩ <;>
    · rintro rfl
      cases hc
  · have hc := hgap c (by simp)
    refine ⟨numeral ++ front, c, by simp, ?_, ?_, ?_⟩ <;>
    · rintro rfl
      cases hc

theorem not_endsIn_of_spells (h : Decimal.Spells numeral n) (u : TimeUnit) :
    ¬ u.letters <:+ numeral := by
  obtain ⟨front, c, hlast, hm, hs, hh⟩ := exists_last h (List.forall_mem_nil _)
  rw [List.append_nil] at hlast
  rw [hlast, ← List.reverse_prefix]
  cases u <;> simp [TimeUnit.letters, hm.symm, hs.symm, hh.symm]

theorem endsIn_of_spells (h : Decimal.Spells numeral n)
    (hgap : ∀ c ∈ gap, Unicode.isBlank c = true) (u : TimeUnit) :
    EndsIn (numeral ++ gap ++ u.letters) u := by
  refine ⟨List.suffix_append _ _, fun v hv => ?_⟩
  obtain ⟨front, c, hlast, hm, -⟩ := exists_last h hgap
  rw [hlast, ← List.reverse_prefix]
  cases u <;> cases v <;> simp [TimeUnit.earlier, TimeUnit.letters, hm.symm] at hv ⊢

/-! ## What is read -/

/-- A text without a unit counts seconds if it is a numeral. -/
theorem counts_iff_of_splitUnit_eq_none {u' : TimeUnit} (h : splitUnit cs = none) :
    Counts cs n u' ↔ u' = .seconds ∧ Decimal.Spells cs n := by
  constructor
  · intro hcounts
    cases hcounts with
    | alone hspells => exact ⟨rfl, hspells⟩
    | ofUnit u hspells hgap =>
        exact absurd (List.suffix_append _ _) (splitUnit_eq_none_iff.mp h u')
  · rintro ⟨rfl, hspells⟩
    exact .alone hspells

/-- A text with a unit counts that unit if what is left before it, without blanks, is a numeral. -/
theorem counts_iff_of_splitUnit_eq_some {u' : TimeUnit} (hcs : Text.Stops Unicode.isBlank cs)
    (h : splitUnit cs = some (front, u)) :
    Counts cs n u' ↔ u' = u ∧ Decimal.Spells (Unicode.trim front) n := by
  constructor
  · intro hcounts
    cases hcounts with
    | alone hspells =>
        exact absurd (splitUnit_eq_some_iff.mp h).2.1 (not_endsIn_of_spells hspells u)
    | ofUnit u hspells hgap =>
        rw [splitUnit_of_endsIn (endsIn_of_spells hspells hgap u')] at h
        cases h
        rw [Unicode.trim_append_blanks (isBlank_of_spells hspells) hgap]
        exact ⟨rfl, hspells⟩
  · rintro ⟨rfl, hspells⟩
    obtain ⟨rfl, -⟩ := splitUnit_eq_some_iff.mp h
    obtain ⟨lead, trail, hfront, hlead, htrail, -⟩ := Unicode.exists_trim front
    -- The whole text is trimmed, so no blank stands in front.
    obtain rfl : lead = [] := by
      cases lead with
      | nil => rfl
      | cons c lead =>
          have hblank := hcs c (by rw [hfront]; rfl)
          rw [hlead c List.mem_cons_self] at hblank
          cases hblank
    rw [hfront, List.nil_append]
    exact .ofUnit _ hspells htrail

theorem parse_eq_ok_iff {text : String} : parse text = .ok s ↔
    ∃ n u, Counts (Unicode.trim text.toList) n u ∧ Fits n u ∧ s.nanos = n * u.nanos := by
  obtain ⟨-, -, -, -, -, hstops, -⟩ := Unicode.exists_trim text.toList
  generalize hcs : Unicode.trim text.toList = cs at hstops
  cases hsplit : splitUnit cs with
  | none =>
      have hparse : parse text = .ok s ↔ ofNumeral? cs .seconds = some s := by
        simp only [parse, hcs, hsplit]
        cases ofNumeral? cs .seconds <;> simp
      simp only [hparse, ofNumeral?_eq_some_iff, counts_iff_of_splitUnit_eq_none hsplit, and_assoc,
        exists_eq_left]
  | some split =>
      obtain ⟨front, u⟩ := split
      have hparse : parse text = .ok s ↔ ofNumeral? (Unicode.trim front) u = some s := by
        simp only [parse, hcs, hsplit]
        cases ofNumeral? (Unicode.trim front) u <;> simp
      simp only [hparse, ofNumeral?_eq_some_iff, counts_iff_of_splitUnit_eq_some hstops hsplit,
        and_assoc, exists_eq_left]

/-! ## What is not read -/

theorem EndsIn.unique {v : TimeUnit} (hu : EndsIn cs u) (hv : EndsIn cs v) : u = v := by
  obtain ⟨front, rfl⟩ := hu.1
  obtain ⟨rest, hrest⟩ := hv.1
  have hsplit := splitUnit_of_endsIn hu
  rw [← hrest] at hsplit hv
  rw [splitUnit_of_endsIn hv] at hsplit
  cases hsplit
  rfl

theorem Complaint.unique {first second : String} (hfirst : Complaint cs first)
    (hsecond : Complaint cs second) : first = second := by
  cases hfirst with
  | ofUnit hu =>
      cases hsecond with
      | ofUnit hv => rw [hu.unique hv]
      | plain hnone => exact absurd hu.1 (hnone _)
  | plain hnone =>
      cases hsecond with
      | ofUnit hv => exact absurd hv.1 (hnone _)
      | plain => rfl

/-- A text that is not read is complained about by its unit. -/
theorem complaint_of_parse {text : String} {e : NotationError} (h : parse text = .error e) :
    Complaint (Unicode.trim text.toList) e.message := by
  generalize hcs : Unicode.trim text.toList = cs at *
  cases hsplit : splitUnit cs with
  | none =>
      simp only [parse, hcs, hsplit] at h
      split at h
      next => cases h
      next =>
        cases h
        exact .plain (splitUnit_eq_none_iff.mp hsplit)
  | some split =>
      obtain ⟨front, u⟩ := split
      simp only [parse, hcs, hsplit] at h
      split at h
      next => cases h
      next =>
        cases h
        have hmessage : (NotationError.unit u).message = "invalid " ++ u.plural := by
          cases u <;> rfl
        exact hmessage ▸ .ofUnit (splitUnit_eq_some_iff.mp hsplit).2

/-- A text is read as a span exactly if, between blanks, it counts a number of a unit that fits in a
word, and the span is then that many units long. Every other text is complained about by the first
unit in order that it ends with, or as a whole where it ends with none. -/
theorem spans_read_by_grammar (text : String) :
    let cs := Unicode.trim text.toList
    (∀ s, parse text = .ok s ↔ ∃ n u, Counts cs n u ∧ Fits n u ∧ s.nanos = n * u.nanos) ∧
      ∀ message, (parse text).mapError NotationError.message = .error message ↔
        (¬ ∃ n u, Counts cs n u ∧ Fits n u) ∧ Complaint cs message := by
  intro cs
  refine ⟨fun s => parse_eq_ok_iff, fun message => ?_⟩
  cases hparse : parse text with
  | ok s =>
      obtain ⟨n, u, hcounts, hfits, -⟩ := parse_eq_ok_iff.mp hparse
      simp only [Except.mapError, reduceCtorEq, false_iff, not_and]
      exact fun hnone => absurd ⟨n, u, hcounts, hfits⟩ hnone
  | error e =>
      have hcomplaint := complaint_of_parse hparse
      have hunread : ¬ ∃ n u, Counts cs n u ∧ Fits n u := by
        rintro ⟨n, u, hcounts, hfits⟩
        obtain ⟨s, hnanos⟩ := exists_of_fits hfits
        have hread := parse_eq_ok_iff.mpr ⟨n, u, hcounts, hfits, hnanos⟩
        rw [hparse] at hread
        cases hread
      simp only [Except.mapError, Except.error.injEq]
      constructor
      · rintro rfl
        exact ⟨hunread, hcomplaint⟩
      · rintro ⟨-, hother⟩
        exact hcomplaint.unique hother

example : parse "5 m s" = .error (.unit .seconds) := rfl

example : parse "307445734561825861m" = .error (.unit .minutes) := rfl

end Span

end Enrollment
