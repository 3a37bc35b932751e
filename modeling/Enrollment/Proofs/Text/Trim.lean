import Enrollment.Proofs.Text.Front
import Enrollment.Unicode.Blank
import Mathlib.Data.List.TakeWhile

/-!
# Trimmed texts

What is left of a text when blanks are removed from both ends: the part that neither starts nor ends
with a blank and has nothing but blanks around it. It is the whole text where there are none.
-/

namespace Enrollment.Unicode

open Text (Stops)

variable {cs core gap : List Char}

theorem isBlank_of_isDigit {c : Char} (hc : c.isDigit = true) : isBlank c = false := by
  have hrange : 48 ≤ c.toNat ∧ c.toNat ≤ 57 := by
    simpa [Char.isDigit, UInt32.le_iff_toNat_le] using hc
  simp only [isBlank, Bool.or_eq_false_iff, Bool.and_eq_false_iff, decide_eq_false_iff_not,
    beq_eq_false_iff_ne]
  omega

theorem stops_dropWhile (cs : List Char) : Stops isBlank (cs.dropWhile isBlank) := by
  intro c hc
  have hhead := List.head?_dropWhile_not isBlank cs
  rw [hc] at hhead
  simpa using hhead

/-- Blanks are removed in front of a text that starts otherwise. -/
theorem dropWhile_eq_iff : cs.dropWhile isBlank = core ↔
    ∃ lead, cs = lead ++ core ∧ (∀ c ∈ lead, isBlank c = true) ∧ Stops isBlank core := by
  constructor
  · rintro rfl
    refine ⟨cs.takeWhile isBlank, List.takeWhile_append_dropWhile.symm, fun c hc => ?_,
      stops_dropWhile cs⟩
    exact List.mem_takeWhile_imp hc
  · rintro ⟨lead, rfl, hlead, hcore⟩
    exact Text.dropWhile_append hlead hcore

theorem trimEnd_eq_iff : trimEnd cs = core ↔
    ∃ trail, cs = core ++ trail ∧ (∀ c ∈ trail, isBlank c = true) ∧
      Stops isBlank core.reverse := by
  rw [trimEnd, List.reverse_eq_iff, dropWhile_eq_iff]
  constructor
  · rintro ⟨lead, hcs, hlead, hcore⟩
    refine ⟨lead.reverse, ?_, fun c hc => hlead c (List.mem_reverse.mp hc), hcore⟩
    rw [List.reverse_eq_iff.mp hcs, List.reverse_append, List.reverse_reverse]
  · rintro ⟨trail, rfl, htrail, hcore⟩
    exact ⟨trail.reverse, List.reverse_append, fun c hc => htrail c (List.mem_reverse.mp hc), hcore⟩

/-- A text is trimmed to what stands between blanks and neither starts nor ends with one. -/
theorem trim_eq_iff : trim cs = core ↔
    ∃ lead trail, cs = lead ++ core ++ trail ∧ (∀ c ∈ lead, isBlank c = true) ∧
      (∀ c ∈ trail, isBlank c = true) ∧ Stops isBlank core ∧ Stops isBlank core.reverse := by
  rw [trim, trimEnd_eq_iff]
  constructor
  · rintro ⟨trail, hrest, htrail, hback⟩
    obtain ⟨lead, hcs, hlead, hfront⟩ := dropWhile_eq_iff.mp hrest
    refine ⟨lead, trail, by rw [hcs, List.append_assoc], hlead, htrail, fun c hc => ?_, hback⟩
    exact hfront c (by rw [List.head?_append, hc]; rfl)
  · rintro ⟨lead, trail, rfl, hlead, htrail, hfront, hback⟩
    cases core with
    | nil =>
        refine ⟨[], ?_, by simp, hback⟩
        rw [List.nil_append, List.append_nil, List.dropWhile_eq_nil_iff]
        intro c hc
        exact (List.mem_append.mp hc).elim (hlead c) (htrail c)
    | cons c core =>
        refine ⟨trail, dropWhile_eq_iff.mpr ⟨lead, List.append_assoc _ _ _, hlead, ?_⟩, htrail,
          hback⟩
        exact Text.stops_cons (hfront c rfl)

theorem exists_trim (cs : List Char) :
    ∃ lead trail, cs = lead ++ trim cs ++ trail ∧ (∀ c ∈ lead, isBlank c = true) ∧
      (∀ c ∈ trail, isBlank c = true) ∧ Stops isBlank (trim cs) ∧ Stops isBlank (trim cs).reverse :=
  trim_eq_iff.mp rfl

/-- Blanks after a text that has none are removed. -/
theorem trim_append_blanks (hcore : ∀ c ∈ core, isBlank c = false)
    (hgap : ∀ c ∈ gap, isBlank c = true) : trim (core ++ gap) = core := by
  refine trim_eq_iff.mpr ⟨[], gap, rfl, by simp, hgap, fun c hc => ?_, fun c hc => ?_⟩
  · exact hcore c (List.mem_of_head? hc)
  · exact hcore c (List.mem_reverse.mp (List.mem_of_head? hc))

/-- Nothing is removed from a text without blanks. -/
theorem trim_eq_self (hcs : ∀ c ∈ cs, isBlank c = false) : trim cs = cs := by
  have htrim := trim_append_blanks hcs (List.forall_mem_nil _)
  rwa [List.append_nil] at htrim

end Enrollment.Unicode
