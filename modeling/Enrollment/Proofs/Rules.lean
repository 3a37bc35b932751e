import Enrollment.Proofs.Shape

/-!
# The rules of an attempt

What an attempt has to keep to, said without the checks: one rule for each of its texts. An attempt
passes exactly if it keeps all of them. Of an attempt that does not, the field that is reported is
the first one whose rule is broken, in the order nonce, username, password, user type, display name,
and what is reported of it is the first thing that is wrong with it: its length before its
characters, except for a user type, and of the characters of a username the first one outside the
alphabet.
-/

namespace Enrollment

/-! ## The rules -/

/-- The fields whose rules come before that of a field. -/
def Field.earlier : Field → List Field
  | .nonce => []
  | .username => [.nonce]
  | .password => [.nonce, .username]
  | .userType => [.nonce, .username, .password]
  | .displayName => [.nonce, .username, .password, .userType]

/-- The characters of usernames: lower case letters and digits of ASCII, and five signs. -/
def IsNameCharacter (c : Char) : Prop :=
  c.isLower = true ∨ c.isDigit = true ∨ c ∈ ['.', '_', '=', '-', '/']

instance (c : Char) : Decidable (IsNameCharacter c) :=
  inferInstanceAs (Decidable (_ ∨ _ ∨ _))

/-- A username of one to 255 characters, whatever they are. -/
def HasNameLength (name : String) : Prop :=
  1 ≤ name.length ∧ name.length ≤ 255

instance (name : String) : Decidable (HasNameLength name) :=
  inferInstanceAs (Decidable (_ ∧ _))

namespace Attempt

variable (a : Attempt)

/-- The rule of each field. -/
def Keeps : Field → Prop
  | .nonce => '\x00' ∉ a.fields.nonce.toList
  | .username => HasNameLength a.fields.username ∧
      ∀ c ∈ a.fields.username.toList, IsNameCharacter c
  | .password => 1 ≤ a.fields.password.utf8ByteSize ∧ a.fields.password.utf8ByteSize ≤ 512 ∧
      '\x00' ∉ a.fields.password.toList
  | .userType => ∀ userType, a.fields.userType = some userType →
      '\x00' ∉ userType.toList ∧ userType.length ≤ 255
  | .displayName => ∀ name, a.displayName = some name → name.length ≤ 256

/-- The ways to break a rule, and what is said of each. -/
inductive Breaks : FieldError → Prop
  | nulInNonce (h : '\x00' ∈ a.fields.nonce.toList) : Breaks ⟨.nonce, .holdsNul⟩
  | noUsername (h : a.fields.username.length = 0) : Breaks ⟨.username, .empty⟩
  | longUsername (h : 255 < a.fields.username.length) :
      Breaks ⟨.username, .tooManyCharacters 255⟩
  | strangeUsername {front rest : List Char} {c : Char} (hlength : HasNameLength a.fields.username)
      (hname : a.fields.username.toList = front ++ c :: rest)
      (hfront : ∀ d ∈ front, IsNameCharacter d) (hc : ¬ IsNameCharacter c) :
      Breaks ⟨.username, .badCharacter c⟩
  | noPassword (h : a.fields.password.utf8ByteSize = 0) : Breaks ⟨.password, .empty⟩
  | longPassword (h : 512 < a.fields.password.utf8ByteSize) :
      Breaks ⟨.password, .tooManyBytes 512⟩
  | nulInPassword (hlength : a.fields.password.utf8ByteSize ≤ 512)
      (h : '\x00' ∈ a.fields.password.toList) : Breaks ⟨.password, .holdsNul⟩
  | nulInUserType {userType : String} (hsome : a.fields.userType = some userType)
      (h : '\x00' ∈ userType.toList) : Breaks ⟨.userType, .holdsNul⟩
  | longUserType {userType : String} (hsome : a.fields.userType = some userType)
      (hnul : '\x00' ∉ userType.toList) (h : 255 < userType.length) :
      Breaks ⟨.userType, .tooManyCharacters 255⟩
  | longDisplayName {name : String} (hsome : a.displayName = some name)
      (h : 256 < name.length) : Breaks ⟨.displayName, .tooManyCharacters 256⟩

end Attempt

/-! ## Checks that fail -/

section Checks

variable {e : FieldError}

/-- Of two checks in a row the first one that fails is reported. -/
theorem both_eq_error_iff {first second : Except FieldError Unit} :
    (first >>= fun _ => second) = .error e ↔
      first = .error e ∨ (first = .ok () ∧ second = .error e) := by
  cases first <;> simp [bind, Except.bind]

theorem forM_eq_error_iff {text? : Option String} {check : String → Except FieldError Unit} :
    text?.forM check = .error e ↔ ∃ text, text? = some text ∧ check text = .error e := by
  cases text? <;> simp [Option.forM, pure, Except.pure]

namespace Validation

variable {text : String}

theorem withoutNul_eq_error_iff {field : Field} :
    withoutNul field text = .error e ↔ '\x00' ∈ text.toList ∧ e = ⟨field, .holdsNul⟩ := by
  unfold withoutNul
  split <;> simp_all [eq_comm]

theorem atMost_eq_error_iff {limit : Nat} {field : Field} :
    atMost limit field text = .error e ↔
      limit < text.length ∧ e = ⟨field, .tooManyCharacters limit⟩ := by
  unfold atMost
  split
  next hlong => simp [hlong, eq_comm]
  next hshort => simp [hshort]

theorem isUsernameCharacter_iff {c : Char} :
    isUsernameCharacter c = true ↔ IsNameCharacter c := by
  have hlower : c.isLower = (decide ('a' ≤ c) && decide (c ≤ 'z')) := rfl
  have hdigit : c.isDigit = (decide ('0' ≤ c) && decide (c ≤ '9')) := rfl
  simp only [isUsernameCharacter, IsNameCharacter, hlower, hdigit, Bool.or_eq_true,
    Bool.and_eq_true, decide_eq_true_eq, List.contains_iff_mem, or_assoc]

/-- The search for a bad character stops at the first one outside the alphabet. -/
theorem find?_isUsernameCharacter_iff {cs : List Char} {c : Char} :
    cs.find? (fun c => !isUsernameCharacter c) = some c ↔
      ∃ front rest, cs = front ++ c :: rest ∧ (∀ d ∈ front, IsNameCharacter d) ∧
        ¬ IsNameCharacter c := by
  simp only [List.find?_eq_some_iff_append, Bool.not_eq_true', Bool.not_not,
    ← isUsernameCharacter_iff, Bool.not_eq_true]
  exact ⟨fun ⟨hc, front, rest, hcs, hfront⟩ => ⟨front, rest, hcs, hfront, hc⟩,
    fun ⟨front, rest, hcs, hfront, hc⟩ => ⟨hc, front, rest, hcs, hfront⟩⟩

theorem username_eq_error_iff : username text = .error e ↔
    (text.length = 0 ∧ e = ⟨.username, .empty⟩) ∨
      (255 < text.length ∧ e = ⟨.username, .tooManyCharacters 255⟩) ∨
      (HasNameLength text ∧ ∃ c, text.toList.find? (fun c => !isUsernameCharacter c) = some c ∧
        e = ⟨.username, .badCharacter c⟩) := by
  unfold username HasNameLength
  split
  next hempty =>
    have htext : text = "" := by simpa using hempty
    simp [htext, eq_comm]
  next hnonempty =>
    have hzero : text.length ≠ 0 := by
      rw [Ne, String.length_eq_zero_iff]
      simpa using hnonempty
    rw [both_eq_error_iff, atMost_eq_error_iff, atMost_eq_ok_iff]
    generalize text.toList.find? (fun c => !isUsernameCharacter c) = bad
    cases bad <;> simp [maxUsernameCharacters, hzero, Nat.one_le_iff_ne_zero, eq_comm]

theorem password_eq_error_iff : password text = .error e ↔
    (text.utf8ByteSize = 0 ∧ e = ⟨.password, .empty⟩) ∨
      (512 < text.utf8ByteSize ∧ e = ⟨.password, .tooManyBytes 512⟩) ∨
      (text.utf8ByteSize ≤ 512 ∧ '\x00' ∈ text.toList ∧ e = ⟨.password, .holdsNul⟩) := by
  unfold password
  split
  next hempty =>
    have htext : text = "" := by simpa using hempty
    simp [htext, eq_comm]
  next hnonempty =>
    have hzero : text.utf8ByteSize ≠ 0 := by
      rw [Ne, String.utf8ByteSize_eq_zero_iff]
      simpa using hnonempty
    split
    next hlong =>
      have hlong' : 512 < text.utf8ByteSize := hlong
      simp [hzero, hlong', Nat.not_le.mpr hlong', maxPasswordBytes, eq_comm]
    next hshort =>
      have hshort' : text.utf8ByteSize ≤ 512 := Nat.not_lt.mp hshort
      simp [withoutNul_eq_error_iff, hzero, hshort', Nat.not_lt.mpr hshort']

theorem userType_eq_error_iff : userType text = .error e ↔
    ('\x00' ∈ text.toList ∧ e = ⟨.userType, .holdsNul⟩) ∨
      ('\x00' ∉ text.toList ∧ 255 < text.length ∧ e = ⟨.userType, .tooManyCharacters 255⟩) := by
  unfold userType
  rw [both_eq_error_iff, withoutNul_eq_error_iff, withoutNul_eq_ok_iff, atMost_eq_error_iff]
  rfl

end Validation

end Checks

/-! ## Attempts that are turned away -/

namespace Attempt

variable {a : Attempt} {e : FieldError}

/-- The check of one field. -/
def check (a : Attempt) : Field → Except FieldError Unit
  | .nonce => Validation.withoutNul .nonce a.fields.nonce
  | .username => Validation.username a.fields.username
  | .password => Validation.password a.fields.password
  | .userType => a.fields.userType.forM Validation.userType
  | .displayName =>
      a.displayName.forM (Validation.atMost Validation.maxDisplayNameCharacters .displayName)

theorem validate_eq (a : Attempt) : a.validate = (do
    a.check .nonce; a.check .username; a.check .password; a.check .userType
    a.check .displayName) :=
  rfl

theorem check_eq_ok_iff {f : Field} : a.check f = .ok () ↔ a.Keeps f := by
  cases f with
  | nonce => exact Validation.withoutNul_eq_ok_iff
  | username =>
      simp only [check, Keeps, Validation.username_eq_ok_iff, HasNameLength,
        Validation.isUsernameCharacter_iff, Nat.one_le_iff_ne_zero, Ne,
        String.length_eq_zero_iff, and_assoc]
      rfl
  | password =>
      simp only [check, Keeps, Validation.password_eq_ok_iff, Nat.one_le_iff_ne_zero, Ne,
        String.utf8ByteSize_eq_zero_iff]
      rfl
  | userType =>
      simp only [check, Keeps, forM_eq_ok_iff, Validation.userType_eq_ok_iff]
      rfl
  | displayName =>
      simp only [check, Keeps, forM_eq_ok_iff, Validation.atMost_eq_ok_iff]
      rfl

/-- A check that fails reports how the rule of its field is broken. -/
theorem check_eq_error_iff {f : Field} : a.check f = .error e ↔ e.field = f ∧ a.Breaks e := by
  constructor
  · intro hcheck
    cases f with
    | nonce =>
        obtain ⟨hnul, rfl⟩ := Validation.withoutNul_eq_error_iff.mp hcheck
        exact ⟨rfl, .nulInNonce hnul⟩
    | username =>
        rcases Validation.username_eq_error_iff.mp hcheck with
          ⟨hempty, rfl⟩ | ⟨hlong, rfl⟩ | ⟨hlength, c, hfind, rfl⟩
        · exact ⟨rfl, .noUsername hempty⟩
        · exact ⟨rfl, .longUsername hlong⟩
        · obtain ⟨front, rest, hname, hfront, hc⟩ :=
            Validation.find?_isUsernameCharacter_iff.mp hfind
          exact ⟨rfl, .strangeUsername hlength hname hfront hc⟩
    | password =>
        rcases Validation.password_eq_error_iff.mp hcheck with
          ⟨hempty, rfl⟩ | ⟨hlong, rfl⟩ | ⟨hlength, hnul, rfl⟩
        · exact ⟨rfl, .noPassword hempty⟩
        · exact ⟨rfl, .longPassword hlong⟩
        · exact ⟨rfl, .nulInPassword hlength hnul⟩
    | userType =>
        obtain ⟨userType, hsome, hfails⟩ := forM_eq_error_iff.mp hcheck
        rcases Validation.userType_eq_error_iff.mp hfails with ⟨hnul, rfl⟩ | ⟨hnul, hlong, rfl⟩
        · exact ⟨rfl, .nulInUserType hsome hnul⟩
        · exact ⟨rfl, .longUserType hsome hnul hlong⟩
    | displayName =>
        obtain ⟨name, hsome, hfails⟩ := forM_eq_error_iff.mp hcheck
        obtain ⟨hlong, rfl⟩ := Validation.atMost_eq_error_iff.mp hfails
        exact ⟨rfl, .longDisplayName hsome hlong⟩
  · rintro ⟨rfl, hbreaks⟩
    cases hbreaks with
    | nulInNonce hnul => exact Validation.withoutNul_eq_error_iff.mpr ⟨hnul, rfl⟩
    | noUsername hempty => exact Validation.username_eq_error_iff.mpr (.inl ⟨hempty, rfl⟩)
    | longUsername hlong => exact Validation.username_eq_error_iff.mpr (.inr (.inl ⟨hlong, rfl⟩))
    | strangeUsername hlength hname hfront hc =>
        have hfind := Validation.find?_isUsernameCharacter_iff.mpr ⟨_, _, hname, hfront, hc⟩
        exact Validation.username_eq_error_iff.mpr (.inr (.inr ⟨hlength, _, hfind, rfl⟩))
    | noPassword hempty => exact Validation.password_eq_error_iff.mpr (.inl ⟨hempty, rfl⟩)
    | longPassword hlong => exact Validation.password_eq_error_iff.mpr (.inr (.inl ⟨hlong, rfl⟩))
    | nulInPassword hlength hnul =>
        exact Validation.password_eq_error_iff.mpr (.inr (.inr ⟨hlength, hnul, rfl⟩))
    | nulInUserType hsome hnul =>
        have hfails := Validation.userType_eq_error_iff.mpr (.inl ⟨hnul, rfl⟩)
        exact forM_eq_error_iff.mpr ⟨_, hsome, hfails⟩
    | longUserType hsome hnul hlong =>
        have hfails := Validation.userType_eq_error_iff.mpr (.inr ⟨hnul, hlong, rfl⟩)
        exact forM_eq_error_iff.mpr ⟨_, hsome, hfails⟩
    | longDisplayName hsome hlong =>
        exact forM_eq_error_iff.mpr ⟨_, hsome, Validation.atMost_eq_error_iff.mpr ⟨hlong, rfl⟩⟩

theorem keeps_or_breaks (a : Attempt) (f : Field) : a.Keeps f ∨ ∃ d, a.Breaks ⟨f, d⟩ := by
  cases hcheck : a.check f with
  | ok _ => exact .inl (check_eq_ok_iff.mp hcheck)
  | error e =>
      obtain ⟨rfl, hbreaks⟩ := check_eq_error_iff.mp hcheck
      exact .inr ⟨e.defect, hbreaks⟩

/-- What breaks a rule does not keep it. -/
theorem Breaks.not_keeps (h : a.Breaks e) : ¬ a.Keeps e.field := by
  intro hkeeps
  have hcheck := check_eq_error_iff.mpr ⟨rfl, h⟩
  rw [check_eq_ok_iff.mpr hkeeps] at hcheck
  cases hcheck

theorem validate_eq_error_iff : a.validate = .error e ↔
    a.Breaks e ∧ ∀ f ∈ e.field.earlier, a.Keeps f := by
  simp only [validate_eq, both_eq_error_iff, check_eq_error_iff, check_eq_ok_iff]
  obtain ⟨field, defect⟩ := e
  cases field <;> simp [Field.earlier, and_assoc, and_left_comm, and_comm]

theorem validate_eq_ok_iff_keeps : a.validate = .ok () ↔ ∀ f, a.Keeps f := by
  simp only [validate_eq, both_eq_ok_iff, check_eq_ok_iff]
  refine ⟨fun ⟨hnonce, husername, hpassword, huserType, hdisplayName⟩ f => ?_, fun h =>
    ⟨h _, h _, h _, h _, h _⟩⟩
  cases f <;> assumption

/-- An attempt passes exactly if it keeps every rule. Otherwise the first broken rule is reported,
and what is said of it is how it is broken. In particular, where a username of legal length has a
character outside the alphabet, the first such character is quoted. -/
theorem first_broken_rule_reported (a : Attempt) :
    (a.validate = .ok () ↔ ∀ f, a.Keeps f) ∧
      (∀ f, (∃ d, a.validate = .error ⟨f, d⟩) ↔ ¬ a.Keeps f ∧ ∀ g ∈ f.earlier, a.Keeps g) ∧
      (∀ e, a.validate = .error e ↔ a.Breaks e ∧ ∀ g ∈ e.field.earlier, a.Keeps g) ∧
      ∀ d, a.validate = .error ⟨.username, d⟩ → HasNameLength a.fields.username →
        ∃ front c rest, a.fields.username.toList = front ++ c :: rest ∧
          (∀ b ∈ front, IsNameCharacter b) ∧ ¬ IsNameCharacter c ∧
          d.reason = "contains invalid character " ++ Text.quotedChar c := by
  refine ⟨validate_eq_ok_iff_keeps, fun f => ?_, fun e => validate_eq_error_iff, ?_⟩
  · constructor
    · rintro ⟨d, herror⟩
      obtain ⟨hbreaks, hearlier⟩ := validate_eq_error_iff.mp herror
      exact ⟨hbreaks.not_keeps, hearlier⟩
    · rintro ⟨hbroken, hearlier⟩
      obtain ⟨d, hbreaks⟩ := (a.keeps_or_breaks f).resolve_left hbroken
      exact ⟨d, validate_eq_error_iff.mpr ⟨hbreaks, hearlier⟩⟩
  · intro d herror hlength
    obtain ⟨hbreaks, -⟩ := validate_eq_error_iff.mp herror
    cases hbreaks with
    | noUsername hempty => exact absurd hlength.1 (by omega)
    | longUsername hlong => exact absurd hlength.2 (Nat.not_le.mpr hlong)
    | strangeUsername _ hname hfront hc => exact ⟨_, _, _, hname, hfront, hc, rfl⟩

/-- A username of ten bytes and nine characters, two of them bad, in an attempt whose password is
too long as well. -/
theorem first_bad_character_quoted :
    let a : Attempt :=
      ⟨⟨"nonce", "al.iceÉ:x", String.ofList (List.replicate 513 'p'), true, none⟩, "", none⟩
    let d : Defect := .badCharacter 'É'
    a.validate = .error ⟨.username, d⟩ ∧ HasNameLength a.fields.username ∧
      ∃ front c rest, "al.iceÉ:x".toList = front ++ c :: rest ∧
        (∀ b ∈ front, IsNameCharacter b) ∧ ¬ IsNameCharacter c ∧
        d.reason = "contains invalid character " ++ Text.quotedChar c := by
  intro a d
  have hlength : HasNameLength a.fields.username := by decide +kernel
  have hname : a.fields.username.toList = "al.ice".toList ++ 'É' :: [':', 'x'] := by
    decide +kernel
  have hall : "al.ice".toList.all Validation.isUsernameCharacter = true := by decide +kernel
  have hfront : ∀ b ∈ "al.ice".toList, IsNameCharacter b := fun b hb =>
    Validation.isUsernameCharacter_iff.mp (List.all_eq_true.mp hall b hb)
  have hbreaks : a.Breaks ⟨.username, d⟩ :=
    .strangeUsername hlength hname hfront (by decide)
  have hearlier : ∀ f ∈ Field.username.earlier, a.Keeps f := by
    simp only [Field.earlier, List.forall_mem_cons, List.not_mem_nil, false_implies, implies_true,
      and_true]
    show '\x00' ∉ "nonce".toList
    decide +kernel
  have herror : a.validate = .error ⟨.username, d⟩ :=
    validate_eq_error_iff.mpr ⟨hbreaks, hearlier⟩
  exact ⟨herror, hlength, (first_broken_rule_reported a).2.2.2 d herror hlength⟩

end Attempt

end Enrollment
