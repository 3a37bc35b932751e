import Enrollment.Proofs.Gateway.Serving
import Enrollment.Proofs.Registry.Authorization

/-!
# Denials tell nothing

Whoever does not know the secret presents attempts whose signatures are not those of their fields.
What such an attempt is answered depends on nothing but the attempt: its shape is checked before
anything is looked up, and every later way to fail ends in one denial. So two registries of one
secret, whatever became of their nonces and accounts and whatever else happens to them in between,
cannot be told apart by such attempts.
-/

namespace Enrollment

/-- The refusal of an attempt that is not signed with the secret. -/
def Gateway.Refusal.ofForged (denialStatus : UInt16) (attempt : Attempt) : Refusal :=
  match attempt.validate with
  | .error e => .invalidParam e.message
  | .ok () => .denied denialStatus

namespace Registry

open Gateway (respond Refusal)

theorem not_admits_of_forged {r : Registry} {attempt : Attempt}
    (hforged : attempt.mac ≠ r.authority.secret.signFields attempt.fields) (now : Instant) :
    ¬ r.Admits now attempt := by
  rintro ⟨-, hverify⟩
  exact hforged (Secret.verify_iff.mp hverify)

theorem respond_register_of_forged {r : Registry} {attempt : Attempt}
    (hforged : attempt.mac ≠ r.authority.secret.signFields attempt.fields) (now : Instant)
    (drawn : Credentials) (denialStatus : UInt16) :
    ∃ v, (r.register (.ok now) attempt drawn).1 = .ok v ∧
      respond denialStatus v.answer = (Refusal.ofForged denialStatus attempt).response := by
  cases hvalid : attempt.validate with
  | error e =>
      refine ⟨_, congrArg Prod.fst (register_of_invalid hvalid), ?_⟩
      simp only [respond, Refusal.ofRegistration, Refusal.ofForged, hvalid]
  | ok _ =>
      obtain ⟨reason, hdenied⟩ :=
        register_of_denied hvalid (not_admits_of_forged hforged now) drawn
      refine ⟨_, congrArg Prod.fst hdenied, ?_⟩
      simp only [respond, Refusal.ofRegistration, Refusal.ofForged, hvalid]

/-- The attempt that an action presents. -/
def Action.attempt? : Action → Option Attempt
  | .register attempt _ => some attempt
  | _ => none

theorem exists_of_attempt? {action : Action} {attempt : Attempt}
    (hattempt : action.attempt? = some attempt) : ∃ drawn, action = .register attempt drawn := by
  cases action with
  | register other drawn =>
      cases hattempt
      exact ⟨drawn, rfl⟩
  | _ => cases hattempt

/-- The attempts that are presented in a run, oldest first. -/
def attempts (actions : List Action) : List Attempt :=
  actions.filterMap Action.attempt?

namespace Session

/-- What an event answers to an attempt, as it is sent. -/
def response? (denialStatus : UInt16) (e : Occurrence) : Option Http.Response :=
  match e.answer with
  | .ok (.verdict v) => some (respond denialStatus v.answer)
  | _ => none

/-- What a run answers to attempts, oldest first. -/
def responses (denialStatus : UInt16) (trail : List Occurrence) : List Http.Response :=
  trail.filterMap (response? denialStatus)

/-- The clock can be read whenever an attempt is presented. -/
def Timely (trail : List Occurrence) : Prop :=
  ∀ e ∈ trail, ∀ attempt, e.action.attempt? = some attempt → ∃ now, e.before.clock.read = .ok now

variable {s s' : Session} {action : Action}

theorem response?_of_forged {attempt : Attempt} {drawn : Credentials} {now : Instant}
    (hforged : attempt.mac ≠ s.registry.authority.secret.signFields attempt.fields)
    (hread : s.clock.read = .ok now) (denialStatus : UInt16) :
    response? denialStatus (eventOf step s (.register attempt drawn)) =
      some (Refusal.ofForged denialStatus attempt).response := by
  obtain ⟨v, hv, hresponse⟩ := respond_register_of_forged hforged now drawn denialStatus
  simp only [response?, eventOf, step, hread, hv, Except.map, hresponse]

theorem response?_of_other (hother : action.attempt? = none)
    (denialStatus : UInt16) : response? denialStatus (eventOf step s action) = none := by
  cases action with
  | register attempt drawn => cases hother
  | issue token =>
      simp only [response?, eventOf, step, issue_eq]
      rcases (s.registry.ledger.issue s.clock.read token).1 with _ | _ | _ <;> rfl
  | sweep =>
      simp only [response?, eventOf, step]
      cases (s.registry.sweep s.clock.read).1 <;> rfl
  | sweepEvery interval span => rfl
  | advance span =>
      simp only [response?, eventOf, step]
      cases (s.clock.advance span).1 <;> rfl
  | setOutage outage => rfl

theorem response?_step (hforged : ∀ attempt, action.attempt? = some attempt →
      attempt.mac ≠ s.registry.authority.secret.signFields attempt.fields)
    (hread : ∀ attempt, action.attempt? = some attempt → ∃ now, s.clock.read = .ok now)
    (denialStatus : UInt16) :
    response? denialStatus (eventOf step s action) =
      action.attempt?.map fun attempt => (Refusal.ofForged denialStatus attempt).response := by
  cases hattempt : action.attempt? with
  | none => exact response?_of_other hattempt denialStatus
  | some attempt =>
      obtain ⟨drawn, rfl⟩ := exists_of_attempt? hattempt
      obtain ⟨now, hnow⟩ := hread attempt rfl
      exact response?_of_forged (hforged attempt rfl) hnow denialStatus

/-- Attempts that are not signed with the secret are answered by what they are. -/
theorem responses_of_forged {secret : Secret} (hsecret : s.registry.authority.secret = secret)
    {actions : List Action} (htimely : Timely (events step s actions))
    (hforged : ∀ attempt ∈ attempts actions, attempt.mac ≠ secret.signFields attempt.fields)
    (denialStatus : UInt16) :
    responses denialStatus (events step s actions) =
      (attempts actions).map fun attempt => (Refusal.ofForged denialStatus attempt).response := by
  induction actions generalizing s with
  | nil => rfl
  | cons action rest ih =>
      have hattempts : attempts (action :: rest) = action.attempt?.toList ++ attempts rest :=
        filterMap_cons_eq Action.attempt? action rest
      rw [hattempts] at hforged ⊢
      -- No action changes the secret, so attempts that are forged now are forged when they come.
      have hforged' : ∀ attempt, action.attempt? = some attempt →
          attempt.mac ≠ s.registry.authority.secret.signFields attempt.fields := by
        intro attempt hattempt
        rw [hsecret]
        exact hforged attempt (List.mem_append_left _ (by simp [hattempt]))
      have hstep := response?_step hforged' (htimely _ List.mem_cons_self) denialStatus
      have hrest := ih ((secret_step s action).trans hsecret)
        (fun e he => htimely e (List.mem_cons_of_mem _ he))
        (fun attempt hattempt => hforged attempt (List.mem_append_right _ hattempt))
      rw [events_cons, responses, filterMap_cons_eq, hstep, List.map_append, Option.toList_map]
      exact congrArg (_ ++ ·) hrest

/-- Two runs are given the same attempts, none of them signed with the secret, and whatever else. If
both registries have that secret, they answer alike, each attempt by its shape: with its first
broken rule if there is one, and otherwise with the denial. -/
theorem forged_attempts_answered_alike (denialStatus : UInt16) {secret : Secret}
    (hsecret : s.registry.authority.secret = secret)
    (hsecret' : s'.registry.authority.secret = secret) {first second : List Action}
    {forged : List Attempt} (hfirst : attempts first = forged) (hsecond : attempts second = forged)
    (hforged : ∀ attempt ∈ forged, attempt.mac ≠ secret.signFields attempt.fields)
    (htimely : Timely (events step s first)) (htimely' : Timely (events step s' second)) :
    responses denialStatus (events step s first) =
        responses denialStatus (events step s' second) ∧
      responses denialStatus (events step s first) =
        forged.map fun attempt => (Refusal.ofForged denialStatus attempt).response := by
  subst hfirst
  have hanswers := responses_of_forged hsecret htimely hforged denialStatus
  have hanswers' := responses_of_forged hsecret' htimely' (hsecond ▸ hforged) denialStatus
  exact ⟨hanswers.trans (hsecond ▸ hanswers'.symm), hanswers⟩

/-- A nonce that is live, presented with no signature to a registry that can make accounts, against
one that has expired, presented to a registry that cannot. -/
theorem forgeries_of_live_and_expired_nonce_answered_alike :
    let secret : Secret := ⟨[1], by decide⟩
    let ledger : Ledger := ⟨.ofSeconds 60, 10, [], none, {}⟩
    let start : Session := ⟨.start, create ledger secret (.create "server" (.ofSeconds 300))⟩
    let forged : Attempt := ⟨⟨"nonce", "alice", "password", true, none⟩, "", none⟩
    let first : List Action := [.issue "nonce", .register forged default]
    let second : List Action :=
      [.issue "nonce", .setOutage (some "down"), .advance (.ofSeconds 60), .register forged default]
    forged.mac ≠ secret.signFields forged.fields ∧
      responses 403 (events step start first) = responses 403 (events step start second) := by
  intro secret ledger start forged first second
  have hmac : forged.mac ≠ secret.signFields forged.fields := by
    intro heq
    have hlength := congrArg String.length heq
    rw [Secret.signFields, Secret.length_sign] at hlength
    cases hlength
  have hforged : ∀ attempt ∈ [forged], attempt.mac ≠ secret.signFields attempt.fields := by
    intro attempt hattempt
    rw [List.mem_singleton.mp hattempt]
    exact hmac
  have htimely : Timely (events step start first) := by
    intro e he attempt hattempt
    simp only [first, events_cons, events_nil, List.mem_cons, List.not_mem_nil, or_false] at he
    rcases he with rfl | rfl
    · cases hattempt
    · exact ⟨.origin, Clock.read_eq_ok_iff.mpr (by decide)⟩
  have htimely' : Timely (events step start second) := by
    intro e he attempt hattempt
    simp only [second, events_cons, events_nil, List.mem_cons, List.not_mem_nil, or_false] at he
    rcases he with rfl | rfl | rfl | rfl
    · cases hattempt
    · cases hattempt
    · cases hattempt
    · exact ⟨⟨60 * nanosPerSecond, by decide⟩, Clock.read_eq_ok_iff.mpr (by decide)⟩
  have hsecret : start.registry.authority.secret = secret := rfl
  have hfirst : attempts first = [forged] := rfl
  have hsecond : attempts second = [forged] := rfl
  exact ⟨hmac, (forged_attempts_answered_alike 403 hsecret hsecret hfirst hsecond hforged htimely
    htimely').1⟩

end Session

end Registry

end Enrollment
