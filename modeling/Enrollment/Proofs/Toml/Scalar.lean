import Enrollment.Proofs.Text.Decimal
import Enrollment.Proofs.Toml.Text
import Enrollment.Toml.Document

/-!
# Plain values of TOML, written and read

A numeral at the end of a value is read as an integer: it is no moment, because a date or a time of
day goes on with a dash or a colon, and no real number, because nothing after it makes it one. With
that every written string, number, truth value and list of texts is read back.
-/

namespace Enrollment.Toml

open Text (Stops stops_cons)

/-! ## Where values end -/

/-- A written value ends with its line, before a comma, or with the list that it is in. -/
def endsValue (c : Char) : Bool :=
  c == '\n' || c == ',' || c == ']'

/-- What may follow a written value. -/
def EndsValue (rest : List Char) : Prop :=
  ∃ c later, rest = c :: later ∧ endsValue c = true

variable {n : Nat} {ds rest : List Char}

theorem EndsValue.stops (hrest : EndsValue rest) {p : Char → Bool}
    (hp : ∀ c, endsValue c = true → p c = false) : Stops p rest := by
  obtain ⟨c, later, rfl, hc⟩ := hrest
  exact stops_cons (hp c hc)

theorem endsValue_cases {c : Char} (hc : endsValue c = true) : c = '\n' ∨ c = ',' ∨ c = ']' := by
  simpa [endsValue, or_assoc] using hc

theorem after?_eq_none {c : Char} {cs : List Char} (hcs : Stops (· == c) cs) :
    after? c cs = none := by
  cases cs with
  | nil => rfl
  | cons d cs => exact if_neg (by simpa using hcs d rfl)

theorem afterWord?_eq_none {c d : Char} (hne : c ≠ d) (word cs : List Char) :
    afterWord? (c :: word) (d :: cs) = none := by
  simp [afterWord?, hne]

/-- No digit and no end of a value is a given character, so it stands nowhere where a numeral and
what follows it are read. -/
theorem after?_digits {c : Char} (hdigit : c.isDigit = false) (hend : endsValue c = false)
    (hds : ∀ d ∈ ds, d.isDigit = true) (hrest : EndsValue rest) : after? c (ds ++ rest) = none := by
  refine after?_eq_none ?_
  cases ds with
  | nil =>
      refine hrest.stops fun d hd => ?_
      rw [beq_eq_false_iff_ne]
      rintro rfl
      exact absurd hd (Bool.eq_false_iff.mp hend)
  | cons d ds =>
      refine stops_cons ?_
      rw [beq_eq_false_iff_ne]
      rintro rfl
      exact absurd (hds d List.mem_cons_self) (Bool.eq_false_iff.mp hdigit)

/-! ## Digits -/

theorem isDigit_iff {c : Char} : c.isDigit = true ↔ '0' ≤ c ∧ c ≤ '9' := by
  simp [Char.isDigit, Char.le_def]

theorem digitIn?_eq_some {c : Char} (hc : c.isDigit = true) :
    digitIn? 10 c = some (c.toNat - '0'.toNat) := by
  have hrange := isDigit_iff.mp hc
  have hsmall : c.toNat - '0'.toNat < 10 := by
    have hhigh : c.toNat ≤ '9'.toNat := hrange.2
    simp only [Char.reduceToNat] at hhigh ⊢
    omega
  simp only [digitIn?, Hex.value?, if_pos hrange, Option.filter_some, hsmall, decide_true, if_true]

theorem digitIn?_eq_none {c : Char} (hc : c.isDigit = false) : digitIn? 10 c = none := by
  have hrange : ¬ ('0' ≤ c ∧ c ≤ '9') := fun h => Bool.eq_false_iff.mp hc (isDigit_iff.mpr h)
  unfold digitIn? Hex.value?
  rw [if_neg hrange]
  split_ifs <;> simp

/-- A row of digits is read to its end. -/
theorem readDigits_more {ds : List Char} (hds : ∀ d ∈ ds, d.isDigit = true)
    (hrest : Stops (fun c => c.isDigit || c == '_') rest) :
    readDigits.more (digitIn? 10) (ds ++ rest) = (ds.map fun d => d.toNat - '0'.toNat, rest) := by
  induction ds with
  | nil =>
      cases rest with
      | nil => rfl
      | cons c rest =>
          have hc := Bool.or_eq_false_iff.mp (hrest c rfl)
          unfold readDigits.more
          split
          next heq => cases (List.cons.inj heq).1; cases hc.2
          next heq =>
            obtain ⟨rfl, rfl⟩ := List.cons.inj heq
            simp [digitIn?_eq_none hc.1]
          next heq => cases heq
  | cons d ds ih =>
      have hd := hds d List.mem_cons_self
      have hmore := ih fun e he => hds e (List.mem_cons_of_mem d he)
      unfold readDigits.more
      split
      next heq => cases (List.cons.inj heq).1; cases hd
      next heq =>
        obtain ⟨rfl, rfl⟩ := List.cons.inj heq
        simp [digitIn?_eq_some hd, hmore]
      next heq => cases heq

theorem readDigits_append {d : Char} {ds : List Char} (hds : ∀ e ∈ d :: ds, e.isDigit = true)
    (hrest : Stops (fun c => c.isDigit || c == '_') rest) :
    readDigits (digitIn? 10) (d :: ds ++ rest) =
      some ((d :: ds).map fun d => d.toNat - '0'.toNat, rest) := by
  have hmore := readDigits_more (fun e he => hds e (List.mem_cons_of_mem d he)) hrest
  simp [readDigits, digitIn?_eq_some (hds d List.mem_cons_self), hmore]

/-! ## Numerals -/

/-- The values of the digits of a number. -/
def digitsOf (n : Nat) : List Nat :=
  (Decimal.write n).map fun c => c.toNat - '0'.toNat

theorem valueIn_digitsOf (n : Nat) : valueIn 10 (digitsOf n) = n := by
  have hvalue := Decimal.value_write n
  rw [Decimal.value, Nat.ofDigitChars_eq_foldl] at hvalue
  simpa [valueIn, digitsOf, List.foldl_map, Nat.mul_comm] using hvalue

theorem EndsValue.stops_digits (hrest : EndsValue rest) :
    Stops (fun c => c.isDigit || c == '_') rest :=
  hrest.stops fun c hc => by
    rcases endsValue_cases hc with rfl | rfl | rfl <;> rfl

theorem readWhole_write (n : Nat) (hrest : EndsValue rest) :
    readWhole (Decimal.write n ++ rest) = some (digitsOf n, rest) := by
  rcases Nat.eq_zero_or_pos n with rfl | hn
  · rfl
  · obtain ⟨d, ds, hwrite, hd⟩ := Decimal.exists_cons_of_write n
    have hds : ∀ e ∈ d :: ds, e.isDigit = true := fun e he => Decimal.isDigit_write (hwrite ▸ he)
    have hread := readDigits_append hds hrest.stops_digits
    have hzero : d ≠ '0' := by
      rintro rfl
      exact Decimal.head?_write_ne_zero hn (hwrite ▸ rfl)
    rw [digitsOf, hwrite, ← hread]
    unfold readWhole
    split
    next heq => exact absurd (List.cons.inj heq).1 hzero
    next => rfl

theorem readSign_of_isDigit {d : Char} (hd : d.isDigit = true) (cs : List Char) :
    readSign (d :: cs) = (false, d :: cs) := by
  unfold readSign
  split
  next heq => cases (List.cons.inj heq).1; cases hd
  next heq => cases (List.cons.inj heq).1; cases hd
  next => rfl

theorem readSign_write (n : Nat) (rest : List Char) :
    readSign (Decimal.write n ++ rest) = (false, Decimal.write n ++ rest) := by
  obtain ⟨d, ds, hwrite, hd⟩ := Decimal.exists_cons_of_write n
  rw [hwrite]
  exact readSign_of_isDigit hd _

/-- A numeral has no base in front of it: only that of zero starts with a zero, and no letter goes
on with it. -/
theorem readInteger_write (hn : n < signedSize) (hrest : EndsValue rest) :
    readInteger (Decimal.write n ++ rest) = some ((n : Int), rest) := by
  have hbase : ∀ c later, Decimal.write n ++ rest = '0' :: c :: later → endsValue c = true := by
    intro c later heq
    rcases Nat.eq_zero_or_pos n with rfl | hpos
    · obtain ⟨d, after, rfl, hd⟩ := hrest
      obtain ⟨rfl, -⟩ := List.cons.inj (List.cons.inj heq).2
      exact hd
    · obtain ⟨d, ds, hwrite, -⟩ := Decimal.exists_cons_of_write n
      rw [hwrite] at heq
      obtain ⟨rfl, -⟩ := List.cons.inj heq
      exact absurd (hwrite ▸ rfl) (Decimal.head?_write_ne_zero hpos)
  unfold readInteger
  split
  next heq => cases hbase _ _ heq
  next heq => cases hbase _ _ heq
  next heq => cases hbase _ _ heq
  next => simp [readSign_write, readWhole_write n hrest, valueIn_digitsOf, inWord?, hn]

/-- Nothing after a numeral makes it a real number. -/
theorem readReal_write (n : Nat) (hrest : EndsValue rest) :
    readReal (Decimal.write n ++ rest) = none := by
  have hword (c : Char) (word : List Char) (hc : c.isDigit = false) :
      afterWord? (c :: word) (Decimal.write n ++ rest) = none := by
    obtain ⟨d, ds, hwrite, hd⟩ := Decimal.exists_cons_of_write n
    rw [hwrite]
    refine afterWord?_eq_none ?_ _ _
    rintro rfl
    exact absurd hd (Bool.eq_false_iff.mp hc)
  have hafter (c : Char) (hc : endsValue c = false) : after? c rest = none :=
    after?_eq_none (hrest.stops fun d hd => by
      rw [beq_eq_false_iff_ne]
      rintro rfl
      exact absurd hd (Bool.eq_false_iff.mp hc))
  simp [readReal, readSign_write, hword, readWhole_write n hrest, readFraction, readExponent,
    hafter, endsValue]

/-! ## Moments -/

/-- A number of a fixed count of digits takes no more than the digits. -/
theorem exists_of_readBounded {width low high m : Nat} {left : List Char}
    (hds : ∀ d ∈ ds, d.isDigit = true) (hrest : EndsValue rest)
    (hread : readBounded width low high (ds ++ rest) = some (m, left)) :
    ∃ es, left = es ++ rest ∧ ∀ e ∈ es, e.isDigit = true := by
  unfold readBounded at hread
  dsimp only at hread
  split at hread
  next hbounds =>
      obtain ⟨-, rfl⟩ := Prod.mk.inj (Option.some.inj hread)
      have hdigits : ∀ c ∈ (ds ++ rest).take width, (digitIn? 10 c).isSome = true := by
        rw [← List.filterMap_length_eq_length]
        have hle := List.length_filterMap_le (digitIn? 10) ((ds ++ rest).take width)
        have hwidth := List.length_take_le width (ds ++ rest)
        omega
      have hfits : width ≤ ds.length := by
        refine Nat.le_of_not_lt fun hshort => ?_
        obtain ⟨c, later, rfl, hc⟩ := hrest
        have hmem : c ∈ (ds ++ c :: later).take width := by
          rw [List.take_append, List.take_of_length_le (Nat.le_of_lt hshort)]
          obtain ⟨k, hk⟩ := Nat.exists_eq_add_of_lt hshort
          have hleft : width - ds.length = k + 1 := by omega
          rw [hleft]
          simp
        have hdigit := hdigits c hmem
        rcases endsValue_cases hc with rfl | rfl | rfl <;> cases hdigit
      refine ⟨ds.drop width, List.drop_append_of_le_length hfits, fun e he => ?_⟩
      exact hds e (List.mem_of_mem_drop he)
  next => cases hread

/-- After a numeral stands no character that a moment needs. -/
theorem after?_of_readBounded {width low high m : Nat} {left : List Char} {c : Char}
    (hread : readBounded width low high (Decimal.write n ++ rest) = some (m, left))
    (hdigit : c.isDigit = false) (hend : endsValue c = false) (hrest : EndsValue rest) :
    after? c left = none := by
  obtain ⟨es, rfl, hes⟩ := exists_of_readBounded (fun _ => Decimal.isDigit_write) hrest hread
  exact after?_digits hdigit hend hes hrest

theorem afterMoment?_write (n : Nat) (hrest : EndsValue rest) :
    afterMoment? (Decimal.write n ++ rest) = none := by
  have hdate : afterDate? (Decimal.write n ++ rest) = none := by
    cases hyear : readBounded 4 0 9999 (Decimal.write n ++ rest) with
    | none => simp [afterDate?, hyear]
    | some read =>
        have hdash := after?_of_readBounded (c := '-') hyear rfl rfl hrest
        simp [afterDate?, hyear, hdash]
  have htime : afterTime? (Decimal.write n ++ rest) = none := by
    cases hhour : readBounded 2 0 23 (Decimal.write n ++ rest) with
    | none => simp [afterTime?, hhour]
    | some read =>
        have hcolon := after?_of_readBounded (c := ':') hhour rfl rfl hrest
        simp [afterTime?, hhour, hcolon]
  simp [afterMoment?, hdate, htime]

/-! ## Values -/

theorem exists_cons_of_writeString (s : String) :
    ∃ c cs, writeString s = c :: cs ∧ (c = '"' ∨ c = '\'') := by
  unfold writeString
  dsimp only
  split
  · exact ⟨_, _, rfl, Or.inl rfl⟩
  · exact ⟨_, _, rfl, Or.inr rfl⟩
  · exact ⟨_, _, rfl, Or.inl rfl⟩
  · exact ⟨_, _, rfl, Or.inr rfl⟩

theorem readScalar_writeString (s : String)
    (hrest : Stops (fun c => c == '"' || c == '\'') rest) :
    readScalar (writeString s ++ rest) = some (.text s, rest) := by
  have hread := readString_writeString s hrest
  obtain ⟨c, cs, hwrite, hquote⟩ := exists_cons_of_writeString s
  rw [hwrite] at hread ⊢
  rw [List.cons_append] at hread ⊢
  simp [readScalar, hquote, hread]

theorem readScalar_write (hn : n < signedSize) (hrest : EndsValue rest) :
    readScalar (Decimal.write n ++ rest) = some (.integer n, rest) := by
  have hmoment := afterMoment?_write n hrest
  have hreal := readReal_write n hrest
  have hinteger := readInteger_write hn hrest
  obtain ⟨d, ds, hwrite, hd⟩ := Decimal.exists_cons_of_write n
  rw [hwrite, List.cons_append] at hmoment hreal hinteger ⊢
  have hquote : ¬ (d = '"' ∨ d = '\'') := by
    rintro (rfl | rfl) <;> cases hd
  have hword (c : Char) (word : List Char) (hc : c.isDigit = false) :
      afterWord? (c :: word) (d :: (ds ++ rest)) = none := by
    refine afterWord?_eq_none ?_ _ _
    rintro rfl
    exact absurd hd (Bool.eq_false_iff.mp hc)
  simp [readScalar, hquote, hword, hmoment, hreal, hinteger]

theorem readScalar_flag (b : Bool) (rest : List Char) :
    readScalar ((if b then "true".toList else "false".toList) ++ rest) =
      some (.flag b, rest) := by
  cases b <;> rfl

end Enrollment.Toml
