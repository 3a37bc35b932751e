import Enrollment.Proofs.Net.Address
import Enrollment.Text.Quoted
import Mathlib.Tactic.SplitIfs

/-!
# Quoted text tells its text

Escapes can be told apart: what stands at the front of quoted text is read back as the character
that was written, whatever follows. So no two strings are quoted alike.
-/

namespace Enrollment.Text

/-- The character at the front of text between double quotes, and the text after it. -/
def unescape? : List Char → Option (Char × List Char)
  | [] => none
  | '\\' :: '0' :: rest => some ('\x00', rest)
  | '\\' :: 't' :: rest => some ('\t', rest)
  | '\\' :: 'r' :: rest => some ('\r', rest)
  | '\\' :: 'n' :: rest => some ('\n', rest)
  | '\\' :: 'u' :: '{' :: rest =>
      let digits := rest.takeWhile (· != '}')
      some (Char.ofNat (AddressV6.hexValue digits), (rest.dropWhile (· != '}')).drop 1)
  | '\\' :: c :: rest => some (c, rest)
  | c :: rest => some (c, rest)

variable {rest : List Char}

theorem digitChar_ne_brace : ∀ n < 16, Nat.digitChar n ≠ '}' := by
  decide

theorem unescape?_codePoint (c : Char) :
    unescape? (codePointEscape c ++ rest) = some (c, rest) := by
  have hdigits : ∀ d ∈ Nat.toDigits 16 c.toNat, (d != '}') = true := by
    intro d hd
    obtain ⟨n, hn, rfl⟩ := AddressV6.exists_digitChar_of_mem hd
    exact bne_iff_ne.mpr (digitChar_ne_brace n hn)
  have hstops : Stops (· != '}') ('}' :: rest) := stops_cons rfl
  simp only [codePointEscape, List.cons_append, List.nil_append, List.append_assoc, unescape?,
    takeWhile_append hdigits hstops, dropWhile_append hdigits hstops,
    AddressV6.hexValue_toDigits, Char.ofNat_toNat, List.drop_succ_cons, List.drop_zero]

/-- A written character is read back. -/
theorem unescape?_escape (c : Char) : unescape? (escape '"' c ++ rest) = some (c, rest) := by
  unfold escape
  split_ifs with hnul htab hreturn hline hbackslash hquote hcode
  · subst c
    rfl
  · subst c
    rfl
  · subst c
    rfl
  · subst c
    rfl
  · subst c
    rfl
  · subst c
    rfl
  · exact unescape?_codePoint c
  · simp [unescape?, hbackslash]

theorem flatMap_escape_inj {cs ds : List Char} :
    cs.flatMap (escape '"') = ds.flatMap (escape '"') ↔ cs = ds := by
  refine ⟨fun heq => ?_, congrArg _⟩
  induction cs generalizing ds with
  | nil =>
      cases ds with
      | nil => rfl
      | cons d ds =>
          have hread := congrArg unescape? heq
          rw [List.flatMap_cons, unescape?_escape] at hread
          cases hread
  | cons c cs ih =>
      have hread := congrArg unescape? heq
      rw [List.flatMap_cons, unescape?_escape] at hread
      cases ds with
      | nil => cases hread
      | cons d ds =>
          rw [List.flatMap_cons, unescape?_escape, Option.some.injEq, Prod.mk.injEq] at hread
          rw [hread.1, ih hread.2]

/-- No two strings are quoted alike. -/
theorem quoted_inj {s t : String} : quoted s = quoted t ↔ s = t := by
  rw [quoted, quoted, String.ofList_inj, List.append_left_inj, List.append_right_inj,
    flatMap_escape_inj, String.toList_inj]

end Enrollment.Text
