import Enrollment.Attempt.Validation

/-!
# Attempts of the right shape

What the checks that are made before a nonce is touched let through. Each check is one rule about
one text, and an attempt passes if all of its texts do. What matters to those who read the texts
later is that none that a signature covers holds NUL, which would end it early in the message, and
that no username holds a colon, which would end it early in a user identifier.
-/

namespace Enrollment

/-- Two checks in a row let through what both of them do. -/
theorem both_eq_ok_iff {first second : Except FieldError Unit} :
    (first >>= fun _ => second) = .ok () ↔ first = .ok () ∧ second = .ok () := by
  cases first <;> simp [bind, Except.bind]

theorem forM_eq_ok_iff {text? : Option String} {check : String → Except FieldError Unit} :
    text?.forM check = .ok () ↔ ∀ text, text? = some text → check text = .ok () := by
  cases text? <;> simp [Option.forM, pure, Except.pure]

namespace Validation

variable {text : String}

theorem withoutNul_eq_ok_iff {field : Field} :
    withoutNul field text = .ok () ↔ '\x00' ∉ text.toList := by
  unfold withoutNul
  split <;> simp_all

theorem atMost_eq_ok_iff {limit : Nat} {field : Field} :
    atMost limit field text = .ok () ↔ text.length ≤ limit := by
  unfold atMost
  split <;> simp_all

theorem username_eq_ok_iff : username text = .ok () ↔
    text ≠ "" ∧ text.length ≤ maxUsernameCharacters ∧
      ∀ c ∈ text.toList, isUsernameCharacter c = true := by
  unfold username
  split
  next hempty => simp_all
  next hnonempty =>
    have htext : text ≠ "" := by simpa using hnonempty
    rw [both_eq_ok_iff, atMost_eq_ok_iff]
    refine (and_congr_right fun _ => ?_).trans (and_iff_right htext).symm
    -- The search stops at a character outside the alphabet, if there is one.
    cases hfind : text.toList.find? (fun c => !isUsernameCharacter c) with
    | some c =>
        have hbad := List.find?_some hfind
        have hmem := List.mem_of_find?_eq_some hfind
        simp only [reduceCtorEq, false_iff]
        intro hall
        simp [hall c hmem] at hbad
    | none => simpa using List.find?_eq_none.mp hfind

theorem password_eq_ok_iff : password text = .ok () ↔
    text ≠ "" ∧ text.utf8ByteSize ≤ maxPasswordBytes ∧ '\x00' ∉ text.toList := by
  unfold password
  split
  next hempty => simp_all
  next hnonempty =>
    split
    next hlong => simp [Nat.not_le.mpr hlong]
    next hshort =>
      rw [withoutNul_eq_ok_iff]
      simp_all

theorem userType_eq_ok_iff : userType text = .ok () ↔
    '\x00' ∉ text.toList ∧ text.length ≤ maxUserTypeCharacters := by
  unfold userType
  rw [both_eq_ok_iff, withoutNul_eq_ok_iff, atMost_eq_ok_iff]

/-- A character outside the alphabet of usernames is in no username that passes. -/
theorem not_mem_of_username {c : Char} (hvalid : username text = .ok ())
    (hc : isUsernameCharacter c = false) : c ∉ text.toList := by
  intro hmem
  have hall := (username_eq_ok_iff.mp hvalid).2.2 c hmem
  rw [hc] at hall
  cases hall

end Validation

namespace Attempt

variable {a : Attempt}

theorem validate_eq_ok_iff : a.validate = .ok () ↔
    Validation.withoutNul .nonce a.fields.nonce = .ok () ∧
      Validation.username a.fields.username = .ok () ∧
      Validation.password a.fields.password = .ok () ∧
      (∀ userType, a.fields.userType = some userType → Validation.userType userType = .ok ()) ∧
      ∀ name, a.displayName = some name →
        Validation.atMost Validation.maxDisplayNameCharacters .displayName name = .ok () := by
  unfold validate
  simp only [both_eq_ok_iff, forM_eq_ok_iff]

/-- No text that a signature covers holds NUL. -/
theorem not_nul_mem_parts (hvalid : a.validate = .ok ()) :
    '\x00' ∉ a.fields.nonce.toList ∧ '\x00' ∉ a.fields.username.toList ∧
      '\x00' ∉ a.fields.password.toList ∧
      ∀ userType, a.fields.userType = some userType → '\x00' ∉ userType.toList := by
  obtain ⟨hnonce, husername, hpassword, huserType, -⟩ := validate_eq_ok_iff.mp hvalid
  refine ⟨Validation.withoutNul_eq_ok_iff.mp hnonce,
    Validation.not_mem_of_username husername (by decide),
    (Validation.password_eq_ok_iff.mp hpassword).2.2, ?_⟩
  intro userType hsome
  exact (Validation.userType_eq_ok_iff.mp (huserType userType hsome)).1

end Attempt

end Enrollment
