import Enrollment.Text.Utf8
import Mathlib.Tactic.SplitIfs

/-!
# The bytes of characters

A character below U+0080 is its own byte, and all other characters consist of bytes from `0x80` on,
so an ASCII byte never stands inside another character. The reading that never fails gives back the
text whose bytes it is given: it takes up a lead byte, then as many continuation bytes as are due,
and each of these moves the bits read so far by six.
-/

namespace Enrollment.Utf8

theorem encode_ofList (cs : List Char) :
    encode (String.ofList cs) = cs.flatMap String.utf8EncodeChar := by
  rw [encode, String.toList_ofList]

/-! ## Which bytes occur -/

theorem encodeChar_of_ascii {c : Char} (hc : c.toNat < 0x80) :
    String.utf8EncodeChar c = [UInt8.ofNat c.toNat] :=
  if_pos (Nat.le_of_lt_succ hc)

theorem le_of_mem_encodeChar {c : Char} (hc : 0x80 ≤ c.toNat) {b : UInt8}
    (hb : b ∈ String.utf8EncodeChar c) : 0x80 ≤ b.toNat := by
  have hlarge : ¬ c.val.toNat ≤ 0x7F := Nat.not_le.mpr hc
  simp only [String.utf8EncodeChar, if_neg hlarge] at hb
  split at hb
  · simp only [List.mem_cons, List.not_mem_nil, or_false] at hb
    rcases hb with rfl | rfl <;> simp <;> omega
  · split at hb <;> simp only [List.mem_cons, List.not_mem_nil, or_false] at hb
    · rcases hb with rfl | rfl | rfl <;> simp <;> omega
    · rcases hb with rfl | rfl | rfl | rfl <;> simp <;> omega

theorem zero_mem_encodeChar_iff {c : Char} : 0 ∈ String.utf8EncodeChar c ↔ c = '\x00' := by
  constructor
  · intro hzero
    by_cases hc : c.toNat < 0x80
    · rw [encodeChar_of_ascii hc, List.mem_singleton, ← UInt8.toNat_inj] at hzero
      have hnul : c.toNat = '\x00'.toNat := by
        have hsmall : c.toNat % 256 = c.toNat := Nat.mod_eq_of_lt (Nat.lt_trans hc (by decide))
        simpa [hsmall] using hzero.symm
      exact Char.toNat_inj.mp hnul
    · have hlarge := le_of_mem_encodeChar (Nat.not_lt.mp hc) hzero
      cases hlarge
  · rintro rfl
    decide

/-- The bytes of a text have a zero exactly if the text has a NUL. -/
theorem zero_mem_encode_iff {s : String} : 0 ∈ encode s ↔ '\x00' ∈ s.toList := by
  simp [encode, zero_mem_encodeChar_iff]

/-! ## Reading without failing -/

section Lossy

variable {b b₁ b₂ b₃ b₄ : UInt8} {n bits due : Nat} {lead : Option UInt8} (rest : List UInt8)

/-- Whether a byte may stand next in a character under way. -/
def continues (lead : Option UInt8) (b : UInt8) : Bool :=
  (lead.map (mayFollow · b)).getD (isContinuation b)

theorem lossyFrom_ascii (hb : b.toNat < 0x80) :
    lossyFrom none (b :: rest) = Char.ofNat b.toNat :: lossyFrom none rest := by
  have hlt : b < 0x80 := UInt8.lt_iff_toNat_lt.mpr hb
  simp only [lossyFrom, lossyFrom.start, if_pos hlt]

theorem lossyFrom_lead (hlead : 0xC2 ≤ b.toNat) (hdue : followers? b = some due) :
    lossyFrom none (b :: rest) =
      lossyFrom (some (b.toNat % (if due = 1 then 32 else if due = 2 then 16 else 8), due, some b))
        rest := by
  have hlarge : ¬ b < 0x80 := by
    rw [UInt8.lt_iff_toNat_lt]
    exact Nat.not_lt.mpr (Nat.le_trans (by decide) hlead)
  simp only [lossyFrom, lossyFrom.start, if_neg hlarge, hdue]
  simp only [followers?] at hdue
  split_ifs at hdue <;> cases hdue <;> simp

theorem lossyFrom_last (hb : continues lead b = true) :
    lossyFrom (some (bits, 1, lead)) (b :: rest) =
      Char.ofNat (append bits b) :: lossyFrom none rest := by
  unfold continues at hb
  simp only [lossyFrom, if_pos hb]

theorem lossyFrom_next (hb : continues lead b = true) :
    lossyFrom (some (bits, due + 2, lead)) (b :: rest) =
      lossyFrom (some (append bits b, due + 1, none)) rest := by
  unfold continues at hb
  simp only [lossyFrom, if_pos hb]

theorem continues_none (hb : b.toNat = n % 64 + 0x80) : continues none b = true := by
  simp [continues, isContinuation, UInt8.le_iff_toNat_le, hb]
  omega

theorem append_eq (hb : b.toNat = n % 64 + 0x80) : append bits b = bits * 64 + n % 64 := by
  unfold append
  omega

theorem mayFollow_iff {lead second : UInt8} : mayFollow lead second = true ↔
    (0x80 ≤ second.toNat ∧ second.toNat ≤ 0xBF) ∧
      (lead.toNat = 0xE0 → 0xA0 ≤ second.toNat) ∧ (lead.toNat = 0xED → second.toNat ≤ 0x9F) ∧
      (lead.toNat = 0xF0 → 0x90 ≤ second.toNat) ∧ (lead.toNat = 0xF4 → second.toNat ≤ 0x8F) := by
  simp only [mayFollow, isContinuation, UInt8.le_iff_toNat_le, ← UInt8.toNat_inj,
    UInt8.reduceToNat]
  split_ifs <;> simp only [Bool.and_eq_true, decide_eq_true_eq] <;> omega

theorem lossyFrom_two (hlow : 0x80 ≤ n) (hhigh : n ≤ 0x7FF) (h₁ : b₁.toNat = n / 64 + 0xC0)
    (h₂ : b₂.toNat = n % 64 + 0x80) :
    lossyFrom none (b₁ :: b₂ :: rest) = Char.ofNat n :: lossyFrom none rest := by
  have hdue : followers? b₁ = some 1 := by
    simp [followers?, UInt8.le_iff_toNat_le, h₁]
    omega
  have hnext : continues (some b₁) b₂ = true := mayFollow_iff.mpr (by omega)
  have hvalue : b₁.toNat % 32 * 64 + n % 64 = n := by omega
  rw [lossyFrom_lead _ (by omega) hdue, lossyFrom_last _ hnext, append_eq h₂, if_pos rfl, hvalue]

theorem lossyFrom_three (hlow : 0x800 ≤ n) (hhigh : n ≤ 0xFFFF)
    (hscalar : n < 0xD800 ∨ 0xDFFF < n) (h₁ : b₁.toNat = n / 4096 + 0xE0)
    (h₂ : b₂.toNat = n / 64 % 64 + 0x80) (h₃ : b₃.toNat = n % 64 + 0x80) :
    lossyFrom none (b₁ :: b₂ :: b₃ :: rest) = Char.ofNat n :: lossyFrom none rest := by
  have hdue : followers? b₁ = some 2 := by
    simp [followers?, UInt8.le_iff_toNat_le, h₁]
    omega
  -- No overlong form and no surrogate: that is what `mayFollow` asks of the second byte.
  have hnext : continues (some b₁) b₂ = true := mayFollow_iff.mpr (by omega)
  have hvalue : (b₁.toNat % 16 * 64 + n / 64 % 64) * 64 + n % 64 = n := by omega
  rw [lossyFrom_lead _ (by omega) hdue, lossyFrom_next _ hnext,
    lossyFrom_last _ (continues_none h₃), append_eq h₂, append_eq h₃, if_neg (by decide),
    if_pos rfl, hvalue]

theorem lossyFrom_four (hlow : 0x10000 ≤ n) (hhigh : n ≤ 0x10FFFF)
    (h₁ : b₁.toNat = n / 262144 + 0xF0) (h₂ : b₂.toNat = n / 4096 % 64 + 0x80)
    (h₃ : b₃.toNat = n / 64 % 64 + 0x80) (h₄ : b₄.toNat = n % 64 + 0x80) :
    lossyFrom none (b₁ :: b₂ :: b₃ :: b₄ :: rest) = Char.ofNat n :: lossyFrom none rest := by
  have hdue : followers? b₁ = some 3 := by
    simp [followers?, UInt8.le_iff_toNat_le, h₁]
    omega
  have hnext : continues (some b₁) b₂ = true := mayFollow_iff.mpr (by omega)
  have hvalue : ((b₁.toNat % 8 * 64 + n / 4096 % 64) * 64 + n / 64 % 64) * 64 + n % 64 = n := by
    omega
  rw [lossyFrom_lead _ (by omega) hdue, lossyFrom_next _ hnext,
    lossyFrom_next _ (continues_none h₃), lossyFrom_last _ (continues_none h₄), append_eq h₂,
    append_eq h₃, append_eq h₄, if_neg (by decide), if_neg (by decide), hvalue]

theorem lossyFrom_encodeChar (c : Char) :
    lossyFrom none (String.utf8EncodeChar c ++ rest) = c :: lossyFrom none rest := by
  suffices h : lossyFrom none (String.utf8EncodeChar c ++ rest) =
      Char.ofNat c.val.toNat :: lossyFrom none rest from
    h.trans (congrArg (· :: lossyFrom none rest) (Char.ofNat_toNat c))
  have hscalar := c.valid
  rw [UInt32.isValidChar, Nat.isValidChar] at hscalar
  simp only [String.utf8EncodeChar]
  generalize c.val.toNat = n at hscalar
  -- One case for each number of bytes.
  split_ifs with hone htwo hthree
  · have hb : (UInt8.ofNat n).toNat = n := by simp; omega
    have hascii := lossyFrom_ascii rest (b := UInt8.ofNat n) (by omega)
    rwa [hb] at hascii
  · exact lossyFrom_two rest (by omega) htwo (by simp; omega) (by simp; omega)
  · exact lossyFrom_three rest (by omega) hthree (by omega) (by simp; omega) (by simp; omega)
      (by simp; omega)
  · exact lossyFrom_four rest (by omega) (by omega) (by simp; omega) (by simp; omega)
      (by simp; omega) (by simp; omega)

end Lossy

/-- The reading that never fails gives back a text from its bytes. -/
theorem decodeLossy_encode (s : String) : decodeLossy (encode s) = s := by
  have hchars : ∀ cs : List Char, lossyFrom none (cs.flatMap String.utf8EncodeChar) = cs := by
    intro cs
    induction cs with
    | nil => simp [lossyFrom]
    | cons c cs ih => rw [List.flatMap_cons, lossyFrom_encodeChar, ih]
  rw [decodeLossy, encode, hchars, String.ofList_toList]

end Enrollment.Utf8
