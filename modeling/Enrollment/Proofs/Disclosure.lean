import Enrollment.Proofs.Config.Saving
import Enrollment.Proofs.Registry.Calls
import Enrollment.Proofs.Text.Inspect
import Enrollment.Prover

/-!
# What is shown

How far the texts that show attempts, accounts and settings tell what they are made from, for each
part on its own: a text tells all of a part, only its first characters, or nothing. A nonce is told
by its first eight characters at most, and so it is in the log of a denial. Of a digest a request
tells nothing; an attempt and the evidence of its authorization tell all of it. Passwords are never
told, of the secret in the settings only whether there is one, and of a key its length.
-/

namespace Enrollment

/-! ## How far a text tells a part -/

/-- The text is the same whatever the part is. -/
def TellsNothing (shown : String → String) : Prop :=
  ∀ s t, shown s = shown t

/-- The text is the same exactly for parts with the same first eight characters. -/
def TellsStart (shown : String → String) : Prop :=
  ∀ s t, shown s = shown t ↔ s.toList.take 8 = t.toList.take 8

/-- The text differs wherever the part does. -/
def TellsAll (shown : String → String) : Prop :=
  ∀ s t, shown s = shown t ↔ s = t

/-- The longest start of a text that has at most eight characters. -/
structure IsLongestStart (start text : String) : Prop where
  starts : start.toList <+: text.toList
  length_le : start.length ≤ 8
  longest : ∀ cs, cs <+: text.toList → cs.length ≤ 8 → cs <+: start.toList

theorem isLongestStart_excerpt (text : String) : IsLongestStart (Text.excerpt text) text where
  starts := by
    rw [Text.toList_excerpt]
    exact List.take_prefix _ _
  length_le := by
    rw [← String.length_toList, Text.toList_excerpt]
    exact List.length_take_le _ _
  longest cs hcs hlength := by
    rw [Text.toList_excerpt]
    exact List.prefix_take_iff.mpr ⟨hcs, hlength⟩

theorem tellsStart_excerpt : TellsStart Text.excerpt := by
  intro s t
  rw [← String.toList_inj, Text.toList_excerpt, Text.toList_excerpt]
  rfl

theorem tellsAll_quoted : TellsAll Text.quoted :=
  fun _ _ => Text.quoted_inj

theorem tellsStart_quoted_excerpt : TellsStart fun s => Text.quoted (Text.excerpt s) :=
  fun s t => Text.quoted_inj.trans (tellsStart_excerpt s t)

/-! ## Nonces and digests -/

theorem tellsStart_inspectNonce : TellsStart inspectNonce := by
  intro s t
  rw [inspectNonce, inspectNonce, Inspect.tagged_inj, String.append_left_inj]
  exact tellsStart_excerpt s t

theorem Fields.tellsStart_nonce (f : Fields) :
    TellsStart fun nonce => { f with nonce }.inspect :=
  fun s t => (Inspect.record_inj []).trans (tellsStart_quoted_excerpt s t)

namespace Attempt

theorem tellsStart_nonce (a : Attempt) :
    TellsStart fun nonce => { a with fields := { a.fields with nonce } }.inspect :=
  fun s t => (Inspect.record_inj []).trans (a.fields.tellsStart_nonce s t)

theorem tellsAll_mac (a : Attempt) : TellsAll fun mac => { a with mac }.inspect :=
  fun s t => (Inspect.record_inj [_]).trans (tellsAll_quoted s t)

end Attempt

namespace Authorization

theorem tellsStart_nonce (proof : Authorization) :
    TellsStart fun nonce => { proof with nonce }.inspect :=
  fun s t => (Inspect.record_inj []).trans (tellsStart_inspectNonce s t)

theorem tellsStart_fields_nonce (proof : Authorization) :
    TellsStart fun nonce => { proof with fields := { proof.fields with nonce } }.inspect :=
  fun s t => (Inspect.record_inj [_, _]).trans (proof.fields.tellsStart_nonce s t)

theorem tellsAll_digest (proof : Authorization) :
    TellsAll fun digest => { proof with digest }.inspect :=
  fun s t => (Inspect.record_inj [_]).trans (tellsAll_quoted s t)

end Authorization

/-- What the log is told of is the attempt that was denied. -/
theorem Registry.exists_reason_of_notice {r : Registry} {reading : Reading} {attempt : Attempt}
    {drawn : Credentials} {verdict : Verdict} {notice : DenialNotice}
    (hverdict : (r.register reading attempt drawn).1 = .ok verdict)
    (hnotice : verdict.notice = some notice) : ∃ reason, notice = attempt.denialNotice reason := by
  cases hvalid : attempt.validate with
  | error e =>
      rw [register_of_invalid hvalid] at hverdict
      cases hverdict
      cases hnotice
  | ok _ =>
      cases reading with
      | error e =>
          rw [register_of_unread hvalid] at hverdict
          cases hverdict
      | ok now =>
          by_cases hadmits : r.Admits now attempt
          · rw [register_of_admitted hvalid hadmits] at hverdict
            cases hverdict
            cases hnotice
          · obtain ⟨reason, hdenied⟩ := register_of_denied hvalid hadmits drawn
            rw [hdenied] at hverdict
            cases hverdict
            cases hnotice
            exact ⟨reason, rfl⟩

/-- Wherever a nonce is shown, the text is the same for all nonces with the same first eight
characters and for no others; a request shows neither nonce nor digest; and the log of a denial has
the first eight characters of the nonce, or all of a shorter one. A digest in an attempt or in the
evidence of an authorization is shown as it is. -/
theorem nonces_told_by_their_start (f : Fields) (a : Attempt) (request : RegisterRequest)
    (proof : Authorization) :
    TellsStart inspectNonce ∧
      (TellsStart fun nonce => { f with nonce }.inspect) ∧
      (TellsStart fun nonce => { a with fields := { a.fields with nonce } }.inspect) ∧
      (TellsStart fun nonce => { proof with nonce }.inspect) ∧
      (TellsStart fun nonce => { proof with fields := { proof.fields with nonce } }.inspect) ∧
      (TellsNothing fun nonce => { request with nonce }.inspect) ∧
      (TellsNothing fun mac => { request with mac }.inspect) ∧
      (TellsAll fun mac => { a with mac }.inspect) ∧
      (TellsAll fun digest => { proof with digest }.inspect) ∧
      ∀ (r : Registry) reading drawn verdict notice,
        (r.register reading a drawn).1 = .ok verdict → verdict.notice = some notice →
          IsLongestStart notice.nonce a.fields.nonce := by
  refine ⟨tellsStart_inspectNonce, f.tellsStart_nonce, a.tellsStart_nonce, proof.tellsStart_nonce,
    proof.tellsStart_fields_nonce, fun s t => rfl, fun s t => rfl, a.tellsAll_mac,
    proof.tellsAll_digest, ?_⟩
  intro r reading drawn verdict notice hverdict hnotice
  obtain ⟨reason, rfl⟩ := Registry.exists_reason_of_notice hverdict hnotice
  exact isLongestStart_excerpt _

/-- The log of an attempt with an unknown nonce of ten characters, two of them of two bytes, has the
first eight of them. -/
theorem denied_nonce_logged_by_its_start :
    let secret : Secret := ⟨[1], by decide⟩
    let r : Registry := .create ⟨.ofSeconds 60, 10, [], none, {}⟩ secret
      (.create "server" (.ofSeconds 300))
    let attempt : Attempt := ⟨⟨"éé34567890", "alice", "password", true, none⟩, "", none⟩
    let notice : DenialNotice := ⟨"éé345678", "alice", .nonce .notFound⟩
    (r.register (.ok .origin) attempt default).1 = .ok ⟨.error .denied, some notice⟩ ∧
      IsLongestStart notice.nonce attempt.fields.nonce := by
  intro secret r attempt notice
  have hvalid : attempt.validate = .ok () := by decide +kernel
  have hjudge : r.ledger.judge .origin attempt.fields.nonce = .error .notFound := rfl
  have hnot : ¬ r.Admits .origin attempt := by
    rintro ⟨hlive, -⟩
    rw [hjudge] at hlive
    cases hlive
  have hnotice : attempt.denialNotice (r.rejection .origin attempt) = notice := by
    unfold Registry.rejection
    rw [hjudge]
    decide +kernel
  have hverdict : (r.register (.ok .origin) attempt default).1 =
      .ok ⟨.error .denied, some notice⟩ := by
    rw [Registry.register_of_rejected hvalid hnot, hnotice]
  obtain ⟨-, -, -, -, -, -, -, -, -, hlog⟩ := nonces_told_by_their_start attempt.fields attempt
    (.ofAttempt attempt) ⟨attempt.fields.nonce, attempt.mac, attempt.fields⟩
  exact ⟨hverdict, hlog r _ default _ notice hverdict rfl⟩

/-- A digest is told beyond its first eight characters: two that have these in common are told apart
by the text of an attempt, and by that of the evidence of an authorization. -/
theorem digests_told_apart_beyond_their_start :
    let fields : Fields := ⟨"0123456789abcdef", "alice", "pw", true, none⟩
    let first := "fedcba9876543210"
    let second := "fedcba9800000000"
    8 < first.length ∧ 8 < second.length ∧ first.toList.take 8 = second.toList.take 8 ∧
      Attempt.inspect ⟨fields, first, none⟩ ≠ Attempt.inspect ⟨fields, second, none⟩ ∧
      Authorization.inspect ⟨fields.nonce, first, fields⟩ ≠
        Authorization.inspect ⟨fields.nonce, second, fields⟩ := by
  intro fields first second
  have hne : first ≠ second := by decide +kernel
  refine ⟨by decide +kernel, by decide +kernel, by decide +kernel, ?_, ?_⟩
  · exact fun heq => hne ((Attempt.tellsAll_mac ⟨fields, "", none⟩ first second).mp heq)
  · exact fun heq =>
      hne ((Authorization.tellsAll_digest ⟨fields.nonce, "", fields⟩ first second).mp heq)

/-! ## Passwords and keys -/

theorem Secret.inspect_eq_iff {s t : Secret} : s.inspect = t.inspect ↔ s.size = t.size := by
  rw [inspect, inspect, Inspect.tagged_inj, String.append_left_inj, String.append_right_inj]
  exact Decimal.toString_inj

theorem Secret.inspectSigner_eq_iff {s t : Secret} :
    s.inspectSigner = t.inspectSigner ↔ s.size = t.size :=
  (Inspect.record_inj []).trans inspect_eq_iff

theorem Config.inspect_withSecret_eq_iff (c : Config) (s t : Option String) :
    (c.withSecret s).inspect = (c.withSecret t).inspect ↔ s.isSome = t.isSome := by
  refine (Inspect.record_inj [_]).trans ((Inspect.record_inj [_]).trans ?_)
  have hne : Inspect.optionalText none ≠ Inspect.optionalText (some "<redacted>") := by
    decide +kernel
  cases s with
  | none =>
      cases t with
      | none => exact iff_of_true rfl rfl
      | some t => exact iff_of_false hne nofun
  | some s =>
      cases t with
      | none => exact iff_of_false hne.symm nofun
      | some t => exact iff_of_true rfl rfl

/-- No text that is shown or saved depends on a password, nor on a secret beyond this: that one is
set shows in the settings, but not in the document they are saved as, and how many bytes it has
shows where a key is shown. -/
theorem secrets_never_shown :
    (∀ (c : Config) s t, (c.withSecret s).inspect = (c.withSecret t).inspect ↔
        s.isSome = t.isSome) ∧
      (∀ (c : Config) s t, (c.withSecret s).toToml? = (c.withSecret t).toToml?) ∧
      (∀ s t : Secret, s.inspect = t.inspect ↔ s.size = t.size) ∧
      (∀ s t : Secret, s.inspectSigner = t.inspectSigner ↔ s.size = t.size) ∧
      (∀ f : Fields, TellsNothing fun password => { f with password }.inspect) ∧
      (∀ a : Attempt, TellsNothing fun password =>
        { a with fields := { a.fields with password } }.inspect) ∧
      (∀ r : RegisterRequest, TellsNothing fun password => { r with password }.inspect) ∧
      (∀ proof : Authorization, TellsNothing fun password =>
        { proof with fields := { proof.fields with password } }.inspect) ∧
      (∀ account : NewAccount, TellsNothing fun password => { account with password }.inspect) ∧
      ∀ r : AccountRequest, TellsNothing fun password => { r with password }.inspect := by
  refine ⟨Config.inspect_withSecret_eq_iff, fun c s t => ?_, fun s t => Secret.inspect_eq_iff,
    fun s t => Secret.inspectSigner_eq_iff, fun f p q => rfl, fun a p q => rfl, fun r p q => rfl,
    fun proof p q => rfl, fun account p q => rfl, fun r p q => rfl⟩
  rw [c.toToml?_withSecret, c.toToml?_withSecret]

end Enrollment
