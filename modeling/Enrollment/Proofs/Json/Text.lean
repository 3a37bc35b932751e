import Enrollment.Json.Scan
import Enrollment.Json.Value
import Enrollment.Proofs.Text.Utf8

/-!
# Strings of JSON, written and read

A string that was written between quotes is read back, whatever stands after it. Character by
character: an escape is read as the character it was written for, and a character that stands for
itself consists of bytes that end nothing and start no escape.
-/

namespace Enrollment

namespace Utf8

/-- The bytes of characters. -/
def bytesOf (cs : List Char) : List UInt8 :=
  cs.flatMap String.utf8EncodeChar

@[simp] theorem bytesOf_nil : bytesOf [] = [] := rfl

theorem bytesOf_append (first second : List Char) :
    bytesOf (first ++ second) = bytesOf first ++ bytesOf second :=
  List.flatMap_append

theorem bytesOf_cons (c : Char) (cs : List Char) :
    bytesOf (c :: cs) = String.utf8EncodeChar c ++ bytesOf cs :=
  List.flatMap_cons

end Utf8

namespace Json

open Utf8 (bytesOf bytesOf_append bytesOf_cons)

theorem bytesOf_of_ascii {cs : List Char} (hascii : ∀ c ∈ cs, c.toNat < 0x80) :
    bytesOf cs = cs.map byte := by
  induction cs with
  | nil => rfl
  | cons c cs ih =>
      rw [bytesOf_cons, Utf8.encodeChar_of_ascii (hascii c List.mem_cons_self),
        ih fun c' hc' => hascii c' (List.mem_cons_of_mem c hc')]
      rfl

/-! ## What stands in a string -/

section Parts

variable {b e c : UInt8} {h₁ h₂ h₃ h₄ : UInt8} {unit : Nat} (read rest : Bytes)

theorem stringBytes?_end :
    stringBytes? read (byte '"' :: rest) = some (read.reverse, rest) := by
  simp [stringBytes?.eq_def]

theorem stringBytes?_short (he : e ≠ byte 'u') (hescape : shortEscape? e = some c) :
    stringBytes? read (byte '\\' :: e :: rest) = stringBytes? (c :: read) rest := by
  have hquote : byte '\\' ≠ byte '"' := by decide
  rw [stringBytes?.eq_def]
  simp only [if_neg hquote, if_neg he, hescape, if_true]

theorem stringBytes?_unit (hquad : hexQuad? h₁ h₂ h₃ h₄ = some unit)
    (hlow : isLowSurrogate unit = false) (hhigh : isHighSurrogate unit = false) :
    stringBytes? read (byte '\\' :: byte 'u' :: h₁ :: h₂ :: h₃ :: h₄ :: rest) =
      stringBytes? ((String.utf8EncodeChar (Char.ofNat unit)).reverse ++ read) rest := by
  have hquote : byte '\\' ≠ byte '"' := by decide
  rw [stringBytes?.eq_def]
  simp only [if_neg hquote, hquad, hlow, hhigh, if_true, Bool.false_eq_true, if_false]
  rfl

/-- A byte that is read as itself inside a string. -/
def IsPlain (b : UInt8) : Prop :=
  b ≠ byte '"' ∧ b ≠ byte '\\' ∧ ¬ b < 0x20

theorem stringBytes?_cons_of_plain (hplain : IsPlain b) :
    stringBytes? read (b :: rest) = stringBytes? (b :: read) rest := by
  obtain ⟨hquote, hescape, hcontrol⟩ := hplain
  rw [stringBytes?.eq_def]
  simp only [if_neg hquote, if_neg hescape, if_neg hcontrol]

theorem stringBytes?_of_plain {bytes : Bytes} (hplain : ∀ b ∈ bytes, IsPlain b) :
    stringBytes? read (bytes ++ rest) = stringBytes? (bytes.reverse ++ read) rest := by
  induction bytes generalizing read with
  | nil => rfl
  | cons b bytes ih =>
      rw [List.cons_append, stringBytes?_cons_of_plain _ _ (hplain b List.mem_cons_self),
        ih _ fun b' hb' => hplain b' (List.mem_cons_of_mem b hb')]
      simp

end Parts

theorem isPlain_of_mem_encodeChar {c : Char} (hquote : c ≠ '"') (hescape : c ≠ '\\')
    (hcontrol : ¬ c.toNat < 0x20) : ∀ b ∈ String.utf8EncodeChar c, IsPlain b := by
  intro b hb
  unfold IsPlain
  by_cases hascii : c.toNat < 0x80
  · rw [Utf8.encodeChar_of_ascii hascii, List.mem_singleton] at hb
    have hvalue : b.toNat = c.toNat := by
      rw [hb]
      simp
      omega
    refine ⟨?_, ?_, ?_⟩
    · rintro rfl
      exact hquote (Char.toNat_inj.mp hvalue.symm)
    · rintro rfl
      exact hescape (Char.toNat_inj.mp hvalue.symm)
    · rwa [UInt8.lt_iff_toNat_lt, hvalue]
  · -- The bytes of a longer character are beyond all of ASCII.
    have hlarge := Utf8.le_of_mem_encodeChar (Nat.not_lt.mp hascii) hb
    refine ⟨?_, ?_, ?_⟩
    · rintro rfl
      exact absurd hlarge (by decide)
    · rintro rfl
      exact absurd hlarge (by decide)
    · rw [UInt8.lt_iff_toNat_lt]
      exact Nat.not_lt.mpr (Nat.le_trans (by decide) hlarge)

/-! ## What is written for a character -/

theorem hexQuad?_of_control : ∀ n < 0x20, hexQuad? (byte '0') (byte '0')
    (byte (Nat.digitChar (n / 16))) (byte (Nat.digitChar (n % 16))) = some n := by
  decide

theorem encodeChar_digitChar : ∀ n < 16,
    String.utf8EncodeChar (Nat.digitChar n) = [byte (Nat.digitChar n)] := by
  decide

theorem stringBytes?_control {c : Char} (hcontrol : c.toNat < 0x20) (read rest : Bytes) :
    stringBytes? read (bytesOf ['\\', 'u', '0', '0', Nat.digitChar (c.toNat / 16),
      Nat.digitChar (c.toNat % 16)] ++ rest) =
        stringBytes? ((String.utf8EncodeChar c).reverse ++ read) rest := by
  have hbytes : bytesOf ['\\', 'u', '0', '0', Nat.digitChar (c.toNat / 16),
      Nat.digitChar (c.toNat % 16)] = [byte '\\', byte 'u', byte '0', byte '0',
        byte (Nat.digitChar (c.toNat / 16)), byte (Nat.digitChar (c.toNat % 16))] := by
    simp only [bytesOf_cons, Utf8.bytesOf_nil, encodeChar_digitChar (c.toNat / 16) (by omega),
      encodeChar_digitChar (c.toNat % 16) (by omega)]
    rfl
  have hunit := stringBytes?_unit read rest (hexQuad?_of_control c.toNat hcontrol)
    (by simp [isLowSurrogate]; omega) (by simp [isHighSurrogate]; omega)
  rw [Char.ofNat_toNat] at hunit
  rw [hbytes]
  exact hunit

/-- What is written for a character is read as the bytes of that character. -/
theorem stringBytes?_escape (c : Char) (read rest : Bytes) :
    stringBytes? read (bytesOf (escape c) ++ rest) =
      stringBytes? ((String.utf8EncodeChar c).reverse ++ read) rest := by
  unfold escape
  split_ifs with hquote hescape _ _ _ _ _ hcontrol
  -- Quote, backslash and the five control characters that have an escape of one letter.
  iterate 7
    · subst c
      exact stringBytes?_short read rest (by decide) (by decide)
  · exact stringBytes?_control hcontrol read rest
  · rw [bytesOf_cons, Utf8.bytesOf_nil, List.append_nil]
    exact stringBytes?_of_plain read rest (isPlain_of_mem_encodeChar hquote hescape hcontrol)

/-! ## Strings -/

theorem stringBytes?_flatMap_escape (cs : List Char) (read rest : Bytes) :
    stringBytes? read (bytesOf (cs.flatMap escape) ++ byte '"' :: rest) =
      some (read.reverse ++ bytesOf cs, rest) := by
  -- What has been read is kept in reverse, so the induction is for any of it.
  induction cs generalizing read with
  | nil => simpa using stringBytes?_end read rest
  | cons c cs ih =>
      rw [List.flatMap_cons, bytesOf_append, List.append_assoc, stringBytes?_escape, ih,
        bytesOf_cons]
      simp

/-- A string that was written is read back, whatever follows its closing quote. -/
theorem string?_flatMap_escape (s : String) (rest : Bytes) :
    string? (bytesOf (s.toList.flatMap escape) ++ byte '"' :: rest) = some (s, rest) := by
  have hdecode : Utf8.decode? (bytesOf s.toList) = some s := Utf8.decode?_encode s
  simp [string?, stringBytes?_flatMap_escape, hdecode]

theorem bytesOf_quote (s : String) :
    bytesOf (quote s) = byte '"' :: (bytesOf (s.toList.flatMap escape) ++ [byte '"']) := by
  unfold quote
  rw [bytesOf_append, bytesOf_append]
  rfl

end Json

end Enrollment
