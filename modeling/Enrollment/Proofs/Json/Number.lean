import Enrollment.Json.Kind
import Enrollment.Proofs.Json.Text
import Enrollment.Proofs.Text.Decimal

/-!
# Counts of JSON, written and read

The shortest numeral of a number that fits in a word is read back as that number, if what stands
after it ends a member of a record: the numeral has no leading zero, and neither a comma nor a brace
goes on with it.
-/

namespace Enrollment

namespace Json

open Utf8 (bytesOf)

/-- What goes on after a member of a record: the next one, or the end of the object. -/
def EndsMember (rest : Bytes) : Prop :=
  ∃ s, rest = byte ',' :: s ∨ rest = byte '}' :: s

/-- The values of the digits of a number. -/
def digitValues (n : Nat) : List Nat :=
  (Decimal.write n).map fun c => c.toNat - '0'.toNat

theorem valueOf_digitValues (n : Nat) : Numeral.valueOf (digitValues n) = n := by
  have hvalue := Decimal.value_write n
  rw [Decimal.value, Nat.ofDigitChars_eq_foldl] at hvalue
  simpa [Numeral.valueOf, digitValues, List.foldl_map, Nat.mul_comm] using hvalue

theorem digitValues_ne_nil (n : Nat) : digitValues n ≠ [] := by
  simp [digitValues, Decimal.write]

theorem isWhole_digitValues (n : Nat) :
    ((digitValues n).length == 1 || (digitValues n).head? != some 0) = true := by
  rcases Nat.eq_zero_or_pos n with rfl | hn
  · decide
  · rw [Bool.or_eq_true]
    refine Or.inr ?_
    rw [bne_iff_ne, digitValues, List.head?_map]
    intro hzero
    obtain ⟨c, hhead, hvalue⟩ := Option.map_eq_some_iff.mp hzero
    -- A digit of the value zero is the digit zero.
    obtain ⟨hlow, -⟩ := Decimal.isDigit_of_mem_write (List.mem_of_head? hhead)
    have hc : c = '0' := Char.toNat_inj.mp (by omega)
    exact Decimal.head?_write_ne_zero hn (hc ▸ hhead)

theorem bytesOf_write (n : Nat) : bytesOf (Decimal.write n) = (Decimal.write n).map byte := by
  refine bytesOf_of_ascii fun c hc => ?_
  obtain ⟨-, hhigh⟩ := Decimal.isDigit_of_mem_write hc
  exact Nat.lt_of_le_of_lt hhigh (by decide)

theorem toNat_byte_of_mem_write {n : Nat} {c : Char} (hc : c ∈ Decimal.write n) :
    (byte c).toNat = c.toNat := by
  obtain ⟨-, hhigh⟩ := Decimal.isDigit_of_mem_write hc
  have hsmall : c.toNat < 256 := Nat.lt_of_le_of_lt hhigh (by decide)
  simp [byte, Nat.mod_eq_of_lt hsmall]

theorem isDigit_byte {n : Nat} {c : Char} (hc : c ∈ Decimal.write n) :
    isDigit (byte c) = true := by
  have hdigit := Decimal.isDigit_of_mem_write hc
  simp only [isDigit, Bool.and_eq_true, decide_eq_true_eq, UInt8.le_iff_toNat_le,
    toNat_byte_of_mem_write hc]
  exact hdigit

variable {n : Nat} {rest : Bytes}

theorem digits_write (hrest : EndsMember rest) :
    digits (bytesOf (Decimal.write n) ++ rest) = (digitValues n, rest) := by
  have hall : ∀ b ∈ bytesOf (Decimal.write n), isDigit b = true := by
    rw [bytesOf_write]
    intro b hb
    obtain ⟨c, hc, rfl⟩ := List.mem_map.mp hb
    exact isDigit_byte hc
  have hvalues : (bytesOf (Decimal.write n)).map (fun b => b.toNat - '0'.toNat) =
      digitValues n := by
    rw [bytesOf_write, List.map_map]
    refine List.map_congr_left fun c hc => ?_
    rw [Function.comp_apply, toNat_byte_of_mem_write hc]
  -- Neither a comma nor a brace is a digit, so the digits end where the numeral does.
  have hstop : rest.takeWhile isDigit = [] ∧ rest.dropWhile isDigit = rest := by
    obtain ⟨s, rfl | rfl⟩ := hrest <;> exact ⟨rfl, rfl⟩
  rw [digits, List.takeWhile_append_of_pos hall, List.dropWhile_append_of_pos hall, hstop.1,
    hstop.2, List.append_nil, hvalues]

theorem wholePart?_write (hrest : EndsMember rest) :
    wholePart? (bytesOf (Decimal.write n) ++ rest) = some (digitValues n, rest) := by
  simp [wholePart?, someDigits?, digits_write hrest, digitValues_ne_nil, Option.filter,
    isWhole_digitValues]

/-- A written count starts with a digit, and so with no sign and no blank. -/
theorem exists_digit_of_write (n : Nat) (rest : Bytes) :
    ∃ b s, bytesOf (Decimal.write n) ++ rest = b :: s ∧ isDigit b = true := by
  obtain ⟨c, cs, hwrite⟩ := List.exists_cons_of_ne_nil (Nat.toDigits_ne_nil (n := n) (b := 10))
  have hc : c ∈ Decimal.write n := by
    rw [Decimal.write, hwrite]
    exact List.mem_cons_self
  refine ⟨byte c, cs.map byte ++ rest, ?_, isDigit_byte hc⟩
  rw [bytesOf_write, Decimal.write, hwrite]
  rfl

theorem ne_of_isDigit {b : UInt8} (hdigit : isDigit b = true) {other : UInt8}
    (hother : isDigit other = false) : b ≠ other := by
  rintro rfl
  rw [hdigit] at hother
  cases hother

theorem numeral?_write (hrest : EndsMember rest) :
    numeral? (bytesOf (Decimal.write n) ++ rest) =
      some (⟨false, digitValues n, [], none, false⟩, rest) := by
  have hsign : after? '-' (bytesOf (Decimal.write n) ++ rest) = none := by
    obtain ⟨b, s, heq, hdigit⟩ := exists_digit_of_write n rest
    rw [heq]
    exact if_neg (ne_of_isDigit hdigit (by decide))
  have hdecimals : decimalPart? rest = some (none, rest) := by
    obtain ⟨s, rfl | rfl⟩ := hrest <;> rfl
  have hexponent : exponentPart? rest = some (none, rest) := by
    obtain ⟨s, rfl | rfl⟩ := hrest <;> rfl
  simp [numeral?, hsign, wholePart?_write hrest, hdecimals, hexponent]

theorem readNumber_write (hn : n < UInt64.size) (hrest : EndsMember rest) :
    readNumber (bytesOf (Decimal.write n) ++ rest) = .ok (.count n, rest) := by
  have hnumber : (⟨false, digitValues n, [], none, false⟩ : Numeral).toNumber? =
      some (.count n) := by
    simp [Numeral.toNumber?, valueOf_digitValues, Nat.not_le.mpr hn]
  simp [readNumber, numeral?_write hrest, hnumber, orMalformed, bind, Except.bind]

theorem isBlank_of_isDigit {b : UInt8} (hdigit : isDigit b = true) : isBlank b = false := by
  rw [Bool.eq_false_iff]
  intro hblank
  simp only [isBlank, Bool.or_eq_true, beq_iff_eq] at hblank
  rcases hblank with ((rfl | rfl) | rfl) | rfl <;> cases hdigit

theorem skipBlanks_cons {b : UInt8} (hb : isBlank b = false) (s : Bytes) :
    skipBlanks (b :: s) = b :: s := by
  simp [skipBlanks, hb]

/-- A count that was written is read back. -/
theorem readCount_write (hn : n < UInt64.size) (hrest : EndsMember rest) :
    readCount (bytesOf (Decimal.write n) ++ rest) = .ok (UInt64.ofNat n, rest) := by
  have hnumber := readNumber_write hn hrest
  obtain ⟨b, s, heq, hdigit⟩ := exists_digit_of_write n rest
  rw [heq] at hnumber ⊢
  have hstarts : startsNumber (b :: s) = true := by simp [startsNumber, hdigit]
  simp only [readCount, skipBlanks_cons (isBlank_of_isDigit hdigit), hstarts, if_true, hnumber]

end Json

end Enrollment
