import Enrollment.Signature

/-!
# Comparing signatures

The comparison that looks at every position answers equality: the collected differences are zero
exactly if each of them is, and texts of different bytes are different texts. So a text verifies
exactly if it is the signature. Rows that differ in zeros at the end are alike once padded; their
lengths tell them apart.
-/

namespace Enrollment

theorem foldl_or_eq_zero_iff {differences : List UInt8} {collected : UInt8} :
    differences.foldl (· ||| ·) collected = 0 ↔ collected = 0 ∧ ∀ d ∈ differences, d = 0 := by
  induction differences generalizing collected with
  | nil => simp
  | cons d ds ih =>
      rw [List.foldl_cons, ih, UInt8.or_eq_zero_iff, List.forall_mem_cons, and_assoc]

/-- Rows of one length without a difference are the same row. -/
theorem zipWith_xor_eq_zero_iff {a b : List UInt8} (hlength : a.length = b.length) :
    (∀ d ∈ List.zipWith (· ^^^ ·) a b, d = 0) ↔ a = b := by
  induction a generalizing b with
  | nil =>
      obtain rfl := List.eq_nil_of_length_eq_zero hlength.symm
      simp
  | cons x xs ih =>
      cases b with
      | nil => cases hlength
      | cons y ys =>
          rw [List.zipWith_cons_cons, List.forall_mem_cons, ih (Nat.succ.inj hlength),
            UInt8.xor_eq_zero_iff, List.cons.injEq]

@[simp] theorem paddedTo_length (bytes : List UInt8) : paddedTo bytes.length bytes = bytes := by
  simp [paddedTo]

/-- The comparison answers equality. -/
theorem sameBytes_iff {a b : List UInt8} : sameBytes a b = true ↔ a = b := by
  unfold sameBytes
  rw [Bool.and_eq_true, beq_iff_eq, beq_iff_eq]
  constructor
  · rintro ⟨hzero, hlength⟩
    rw [hlength, Nat.max_self, paddedTo_length, ← hlength, paddedTo_length] at hzero
    exact (zipWith_xor_eq_zero_iff hlength).mp (foldl_or_eq_zero_iff.mp hzero).2
  · rintro rfl
    rw [Nat.max_self, paddedTo_length]
    exact ⟨foldl_or_eq_zero_iff.mpr ⟨rfl, (zipWith_xor_eq_zero_iff rfl).mpr rfl⟩, rfl⟩

/-- A text verifies exactly if it is the signature of the message. -/
theorem Secret.verify_iff {s : Secret} {message : List UInt8} {provided : String} :
    s.verify message provided = true ↔ provided = s.sign message := by
  unfold verify
  rw [sameBytes_iff]
  constructor
  · exact fun hbytes => (Utf8.encode_injective hbytes).symm
  · rintro rfl
    rfl

/-- A signature is as long as the hexadecimal text of a digest. -/
theorem Secret.length_sign (s : Secret) (message : List UInt8) :
    (s.sign message).length = 64 := by
  simp [sign, Hex.length_encode]

/-! ## Padding -/

/-- A buffer with a row of bytes copied to its front, if the row does not reach beyond its end. -/
def copyToFront? (buffer bytes : List UInt8) : Option (List UInt8) :=
  if bytes.length ≤ buffer.length then some (bytes ++ buffer.drop bytes.length) else none

/-- A row is padded by copying it to the front of a buffer of zeros that is wide enough. -/
theorem copyToFront?_zeros {bytes : List UInt8} {width : Nat} (hfits : bytes.length ≤ width) :
    copyToFront? (List.replicate width 0) bytes = some (paddedTo width bytes) := by
  simp [copyToFront?, hfits, paddedTo]

theorem paddedTo_eq_iff {a b : List UInt8} (hle : a.length ≤ b.length) :
    paddedTo b.length a = b ↔
      ∃ zeros, b = a ++ List.replicate zeros 0 ∨ a = b ++ List.replicate zeros 0 := by
  constructor
  · exact fun heq => ⟨b.length - a.length, Or.inl heq.symm⟩
  · rintro ⟨zeros, rfl | rfl⟩
    · simp [paddedTo]
    · -- A row that is no longer than the other has no zeros more.
      rw [List.length_append, List.length_replicate] at hle
      obtain rfl : zeros = 0 := by omega
      simp [paddedTo]

/-- Padding imitates zeros at the end of a row, and nothing else. -/
theorem paddedTo_max_eq_iff {a b : List UInt8} :
    paddedTo (max a.length b.length) a = paddedTo (max a.length b.length) b ↔
      ∃ zeros, b = a ++ List.replicate zeros 0 ∨ a = b ++ List.replicate zeros 0 := by
  rcases Nat.le_total a.length b.length with hle | hle
  · rw [Nat.max_eq_right hle, paddedTo_length, paddedTo_eq_iff hle]
  · rw [Nat.max_eq_left hle, paddedTo_length, eq_comm, paddedTo_eq_iff hle]
    exact exists_congr fun zeros => or_comm

/-! ## Tampering -/

/-- What can become of a text that is tampered with. -/
inductive IsTampered : List Char → List Char → Prop
  | truncated {kept lost : List Char} (hlost : lost ≠ []) : IsTampered (kept ++ lost) kept
  /-- By whatever characters, NUL among them. -/
  | extended {text added : List Char} (hadded : added ≠ []) : IsTampered text (text ++ added)
  | doubled {text : List Char} (htext : text ≠ []) : IsTampered text (text ++ text)
  | replaced {front back : List Char} {c d : Char} (hne : d ≠ c) :
      IsTampered (front ++ c :: back) (front ++ d :: back)
  /-- In letters of another case. A text without letters is written in one way only. -/
  | recased {text other : List Char} (hne : other ≠ text)
      (hcase : other.map Char.toLower = text.map Char.toLower) : IsTampered text other

theorem IsTampered.ne {text other : List Char} (h : IsTampered text other) : other ≠ text := by
  cases h with
  | truncated hlost => simpa using hlost.symm
  | extended hadded => simpa using hadded
  | doubled htext => simpa using htext
  | replaced hne => simpa using hne
  | recased hne _ => exact hne

namespace Hex

/-- The digits that bytes are written in. -/
def digits : List Char :=
  ['0', '1', '2', '3', '4', '5', '6', '7', '8', '9', 'a', 'b', 'c', 'd', 'e', 'f']

theorem digit_mem_digits : ∀ n < 16, digit n ∈ digits := by
  decide

theorem mem_digits_of_mem_encode {bytes : List UInt8} {c : Char} (hc : c ∈ encode bytes) :
    c ∈ digits := by
  obtain ⟨b, -, hc⟩ := List.mem_flatMap.mp hc
  have hb := b.toNat_lt
  simp only [ofByte, List.mem_cons, List.not_mem_nil, or_false] at hc
  rcases hc with rfl | rfl
  · exact digit_mem_digits _ (by omega)
  · exact digit_mem_digits _ (by omega)

end Hex

/-- The comparison that pads both rows answers equality for rows of any lengths: each row fits into
the common width, and where padding makes rows alike, their lengths still tell them apart. So a
signature is accepted exactly as it is written, in sixty-four lowercase digits, and nothing that
tampering makes of it is. -/
theorem comparison_is_equality (a b : List UInt8) (s : Secret) (message : List UInt8) :
    let width := max a.length b.length
    (sameBytes a b = true ↔ a = b) ∧
    copyToFront? (List.replicate width 0) a = some (paddedTo width a) ∧
    copyToFront? (List.replicate width 0) b = some (paddedTo width b) ∧
    (paddedTo width a = paddedTo width b ↔
      ∃ zeros, b = a ++ List.replicate zeros 0 ∨ a = b ++ List.replicate zeros 0) ∧
    (s.sign message).length = 64 ∧ (∀ c ∈ (s.sign message).toList, c ∈ Hex.digits) ∧
    (∀ provided, s.verify message provided = true ↔ provided = s.sign message) ∧
    ∀ provided, IsTampered (s.sign message).toList provided.toList →
      s.verify message provided = false := by
  refine ⟨sameBytes_iff, copyToFront?_zeros (Nat.le_max_left _ _),
    copyToFront?_zeros (Nat.le_max_right _ _), paddedTo_max_eq_iff, s.length_sign message, ?_,
    fun provided => Secret.verify_iff, ?_⟩
  · intro c hc
    rw [Secret.sign, String.toList_ofList] at hc
    exact Hex.mem_digits_of_mem_encode hc
  · intro provided htampered
    rw [Bool.eq_false_iff, ne_eq, Secret.verify_iff]
    rintro rfl
    exact htampered.ne rfl

end Enrollment
