import Enrollment.Text.Decimal

/-!
# Numerals, written and read

The shortest numeral of a number consists of digits, has a leading zero only if it is that of zero,
and is read as the number wherever the number is within bounds. Numerals in general may have a plus
sign and leading zeros, and exactly these are read.
-/

namespace Enrollment.Decimal

/-- The numeral of a number above zero has no leading zero. -/
theorem head?_write_ne_zero {n : Nat} (hn : 0 < n) : (write n).head? ≠ some '0' := by
  unfold write
  induction n using Nat.base_induction 10 (by decide) with
  | single m hm => simp [Nat.toDigits_of_lt_base hm, Nat.ne_of_gt hn]
  | digit m k hk hm ih =>
      rw [← Nat.toDigits_append_toDigits (by decide) hm hk, List.head?_append]
      cases hhead : (Nat.toDigits 10 m).head? with
      | none => exact absurd (List.head?_eq_none_iff.mp hhead) Nat.toDigits_ne_nil
      | some c => simpa [hhead] using ih hm

theorem write_ne_nil (n : Nat) : write n ≠ [] :=
  Nat.toDigits_ne_nil

theorem isDigit_write {n : Nat} {c : Char} (hc : c ∈ write n) : c.isDigit = true :=
  Nat.isDigit_of_mem_toDigits (by decide) (by decide) hc

theorem isDigit_of_mem_write {n : Nat} {c : Char} (hc : c ∈ write n) :
    '0'.toNat ≤ c.toNat ∧ c.toNat ≤ '9'.toNat := by
  simpa [Char.isDigit, UInt32.le_iff_toNat_le] using isDigit_write hc

/-- A character that is no digit is in no numeral. -/
theorem not_mem_write {c : Char} (hc : c.isDigit = false) (n : Nat) : c ∉ write n := by
  intro hmem
  rw [isDigit_write hmem] at hc
  cases hc

theorem exists_cons_of_write (n : Nat) : ∃ c cs, write n = c :: cs ∧ c.isDigit = true := by
  obtain ⟨c, cs, hwrite⟩ := List.exists_cons_of_ne_nil (write_ne_nil n)
  exact ⟨c, cs, hwrite, isDigit_write (hwrite ▸ List.mem_cons_self)⟩

theorem isNumeral_write (n : Nat) : isNumeral (write n) = true := by
  have hall : (write n).all Char.isDigit = true :=
    List.all_eq_true.mpr fun _ hc => isDigit_write hc
  rw [isNumeral, hall, List.isEmpty_eq_false_iff.mpr (write_ne_nil n)]
  rfl

/-- A written number is read back, if it is within the bound. -/
theorem read?_write {n bound : Nat} (hn : n ≤ bound) : read? bound (write n) = some n := by
  have hunsigned : unsigned (write n) = write n := by
    obtain ⟨c, cs, hwrite, hc⟩ := exists_cons_of_write n
    rw [hwrite]
    -- A digit is no sign.
    unfold unsigned
    split
    next heq => cases heq; cases hc
    next => rfl
  simp [read?, hunsigned, isNumeral_write, value_write, hn]

/-- No two numbers are written alike. -/
theorem toString_inj {m n : Nat} : toString m = toString n ↔ m = n := by
  refine ⟨fun heq => ?_, congrArg toString⟩
  rw [Nat.toString_eq_ofList_toDigits, Nat.toString_eq_ofList_toDigits, String.ofList_inj] at heq
  rw [← value_write m, ← value_write n]
  exact congrArg value heq

/-! ## All numerals -/

/-- The numerals of a number: digits of that value, at least one, after a plus sign or none. -/
def Spells (cs : List Char) (n : Nat) : Prop :=
  ∃ digits, (cs = digits ∨ cs = '+' :: digits) ∧ digits ≠ [] ∧
    (∀ c ∈ digits, c.isDigit = true) ∧ value digits = n

variable {cs : List Char} {n bound : Nat}

theorem isNumeral_iff {digits : List Char} :
    isNumeral digits = true ↔ digits ≠ [] ∧ ∀ c ∈ digits, c.isDigit = true := by
  simp [isNumeral]

/-- A text is read as a number if it is a numeral of it and the number is within the bound. -/
theorem read?_eq_some_iff : read? bound cs = some n ↔ Spells cs n ∧ n ≤ bound := by
  constructor
  · intro hread
    simp only [read?, Option.ite_none_right_eq_some, Option.some.injEq, Bool.and_eq_true,
      decide_eq_true_eq, isNumeral_iff] at hread
    obtain ⟨⟨⟨hne, hdigits⟩, hbound⟩, rfl⟩ := hread
    refine ⟨⟨unsigned cs, ?_, hne, hdigits, rfl⟩, hbound⟩
    unfold unsigned
    split
    next => exact Or.inr rfl
    next => exact Or.inl rfl
  · rintro ⟨⟨digits, hcs, hne, hdigits, rfl⟩, hbound⟩
    have hunsigned : unsigned cs = digits := by
      rcases hcs with rfl | rfl
      · unfold unsigned
        split
        next => cases hdigits '+' List.mem_cons_self
        next => rfl
      · rfl
    have hnumeral : isNumeral digits = true := isNumeral_iff.mpr ⟨hne, hdigits⟩
    simp [read?, hunsigned, hnumeral, hbound]

theorem spells_write (n : Nat) : Spells (write n) n :=
  (read?_eq_some_iff.mp (read?_write (Nat.le_refl n))).1

theorem Spells.unique {m : Nat} (hm : Spells cs m) (hn : Spells cs n) : m = n := by
  have hread := read?_eq_some_iff.mpr ⟨hm, Nat.le_max_left m n⟩
  rw [read?_eq_some_iff.mpr ⟨hn, Nat.le_max_right m n⟩] at hread
  exact (Option.some.inj hread).symm

/-- A number above the bound is not read, though it is written. -/
theorem read?_write_of_lt (hn : bound < n) : read? bound (write n) = none := by
  rw [Option.eq_none_iff_forall_ne_some]
  intro m hm
  obtain ⟨hspells, hbound⟩ := read?_eq_some_iff.mp hm
  exact Nat.not_le.mpr hn (hspells.unique (spells_write n) ▸ hbound)

/-- A numeral ends with a digit. -/
theorem Spells.exists_last (h : Spells cs n) : ∃ front c, cs = front ++ [c] ∧ c.isDigit = true := by
  obtain ⟨digits, hcs, hne, hdigits, -⟩ := h
  have hlast := hdigits _ (List.getLast_mem hne)
  have hsplit := List.dropLast_concat_getLast hne
  rcases hcs with rfl | rfl
  · exact ⟨_, _, hsplit.symm, hlast⟩
  · exact ⟨'+' :: digits.dropLast, digits.getLast hne, by rw [List.cons_append, hsplit], hlast⟩

end Enrollment.Decimal
