import Enrollment.Proofs.Registry.Calls
import Mathlib.Data.List.Nodup

/-!
# Accounts and the attempts that made them

What an attempt is answered depends on whether it is authorized, on whether the directory is within
reach, and on whether its username has an account. Only an attempt that is answered with an account
adds one, and no action removes or changes any. So the records of a directory are those of the
attempts that made them, newest first.
-/

namespace Enrollment

/-- The record that an attempt asks for. -/
def Attempt.record (a : Attempt) (serverName : String) (drawn : Credentials) : AccountRecord where
  userId := "@" ++ a.fields.username ++ ":" ++ serverName
  admin := a.fields.admin
  displayName := a.displayName
  userType := a.fields.userType
  deviceId := drawn.deviceId

namespace Directory

theorem userIdFor_inj {d : Directory} {username other : String} :
    d.userIdFor username = d.userIdFor other ↔ username = other := by
  simp [userIdFor, ← String.toList_inj]

theorem register_eq (d : Directory) (attempt : Attempt) (drawn : Credentials) :
    d.register attempt.account drawn =
      match d.get? (d.userIdFor attempt.fields.username) with
      | some _ => (.error (.userInUse (d.userIdFor attempt.fields.username)), d)
      | none => (.ok (d.infoFor attempt.account drawn),
          { d with records := attempt.record d.serverName drawn :: d.records }) :=
  rfl

/-- The directory after an answer to an attempt: one more record, or none. -/
def answered (d : Directory) (attempt : Attempt) (drawn : Credentials) :
    Except RegistrationError AccountInfo → Directory
  | .error _ => d
  | .ok _ => { d with records := attempt.record d.serverName drawn :: d.records }

@[simp] theorem answered_error (d : Directory) (attempt : Attempt) (drawn : Credentials)
    (e : RegistrationError) : d.answered attempt drawn (.error e) = d := rfl

@[simp] theorem answered_ok (d : Directory) (attempt : Attempt) (drawn : Credentials)
    (info : AccountInfo) : d.answered attempt drawn (.ok info) =
      { d with records := attempt.record d.serverName drawn :: d.records } := rfl

end Directory

namespace Registry

/-- How an attempt is answered, and which directory it leaves. -/
structure Answers (r : Registry) (attempt : Attempt) (drawn : Credentials) (authorized taken : Prop)
    (answer : Except RegistrationError AccountInfo) (directory : Directory) : Prop where
  invalid_iff : ∀ e, answer = .error (.invalid e) ↔ attempt.validate = .error e
  denied_iff : answer = .error .denied ↔ attempt.validate = .ok () ∧ ¬ authorized
  unavailable_iff : ∀ reason, answer = .error (.account (.unavailable reason)) ↔
    attempt.validate = .ok () ∧ authorized ∧ r.outage = some reason
  userInUse_iff : ∀ userId, answer = .error (.account (.userInUse userId)) ↔
    attempt.validate = .ok () ∧ authorized ∧ r.outage = none ∧ taken ∧
      userId = r.directory.userIdFor attempt.fields.username
  ok_iff : ∀ info, answer = .ok info ↔
    attempt.validate = .ok () ∧ authorized ∧ r.outage = none ∧ ¬ taken ∧
      info = r.directory.infoFor attempt.account drawn
  directory_eq : directory = r.directory.answered attempt drawn answer

variable {r : Registry} {now : Instant} {attempt : Attempt} {drawn : Credentials}

/-- The username of an attempt has an account. -/
def Taken (r : Registry) (attempt : Attempt) : Prop :=
  ∃ record ∈ r.directory.records, record.userId = r.directory.userIdFor attempt.fields.username

theorem taken_iff : r.Taken attempt ↔
    r.directory.get? (r.directory.userIdFor attempt.fields.username) ≠ none := by
  simp [Taken, Directory.get?]

theorem createAccount_answers {authorized : Prop} (hvalid : attempt.validate = .ok ())
    (hauthorized : authorized) (drawn : Credentials) :
    r.Answers attempt drawn authorized (r.Taken attempt)
      ((r.createAccount attempt.account drawn).1.mapError .account)
      (r.createAccount attempt.account drawn).2.directory := by
  unfold createAccount
  rw [Directory.register_eq]
  cases houtage : r.outage with
  | some reason => constructor <;> simp [Except.mapError, hvalid, hauthorized, houtage, eq_comm]
  | none =>
      cases hget : r.directory.get? (r.directory.userIdFor attempt.fields.username) with
      | some record =>
          have htaken : r.Taken attempt := taken_iff.mpr (by simp [hget])
          constructor <;> simp [Except.mapError, hvalid, hauthorized, houtage, htaken, eq_comm]
      | none =>
          have hfree : ¬ r.Taken attempt := fun htaken => taken_iff.mp htaken hget
          constructor <;> simp [Except.mapError, hvalid, hauthorized, houtage, hfree, eq_comm]

/-- Every attempt is answered, by its shape, by the authority and by the directory. -/
theorem register_answers (r : Registry) (now : Instant) (attempt : Attempt) (drawn : Credentials) :
    ∃ v, (r.register (.ok now) attempt drawn).1 = .ok v ∧
      r.Answers attempt drawn (r.Admits now attempt) (r.Taken attempt) v.answer
        (r.register (.ok now) attempt drawn).2.directory := by
  cases hvalid : attempt.validate with
  | error e =>
      rw [register_of_invalid hvalid]
      refine ⟨_, rfl, ?_⟩
      constructor <;> simp [hvalid, countInvalid, eq_comm]
  | ok _ =>
      by_cases hadmits : r.Admits now attempt
      · rw [register_of_admitted hvalid hadmits]
        refine ⟨_, rfl, ?_⟩
        have hanswers := createAccount_answers (r := (r.present now attempt).countAuthorized)
          hvalid hadmits drawn
        exact ⟨hanswers.invalid_iff, hanswers.denied_iff, hanswers.unavailable_iff,
          hanswers.userInUse_iff, hanswers.ok_iff, hanswers.directory_eq⟩
      · obtain ⟨reason, hdenied⟩ := register_of_denied hvalid hadmits drawn
        rw [hdenied]
        refine ⟨_, rfl, ?_⟩
        constructor <;> simp [hvalid, hadmits, countDenied, present, withLedger]

namespace Session

/-! ## The attempts that made the accounts -/

/-- The attempt that was answered with an account, and what was drawn for it. -/
def founder? (e : Occurrence) : Option (Attempt × Credentials) :=
  match e.action, e.answer with
  | .register attempt drawn, .ok (.verdict ⟨.ok _, _⟩) => some (attempt, drawn)
  | _, _ => none

/-- The attempts of a run that were answered with an account, oldest first. -/
def founders (trail : List Occurrence) : List (Attempt × Credentials) :=
  trail.filterMap founder?

variable {s : Session}

theorem founder?_eq_some_iff {e : Occurrence} {attempt : Attempt} {drawn : Credentials} :
    founder? e = some (attempt, drawn) ↔
      e.action = .register attempt drawn ∧ ∃ v info, e.answer = .ok (.verdict v) ∧
        v.answer = .ok info := by
  unfold founder?
  split
  next action answer a d info notice haction hanswer =>
    simp [haction, hanswer]
  next hother =>
    simp only [reduceCtorEq, false_iff, not_and, not_exists]
    rintro haction ⟨answer, notice⟩ info hanswer rfl
    exact hother attempt drawn info notice haction hanswer

theorem founders_cons (e : Occurrence) (trail : List Occurrence) :
    founders (e :: trail) = (founder? e).toList ++ founders trail :=
  filterMap_cons_eq founder? e trail

theorem step_register_answers {now : Instant} (hread : s.clock.read = .ok now) (attempt : Attempt)
    (drawn : Credentials) :
    ∃ v, (s.step (.register attempt drawn)).1 = .ok (.verdict v) ∧
      s.registry.Answers attempt drawn (s.registry.Admits now attempt) (s.registry.Taken attempt)
        v.answer (s.step (.register attempt drawn)).2.registry.directory := by
  obtain ⟨v, hv, hanswers⟩ := register_answers s.registry now attempt drawn
  refine ⟨v, ?_, ?_⟩
  · simp only [step, hread, hv]
    rfl
  · simp only [step, hread]
    exact hanswers

theorem step_register_unread {e : TimeOverflow} (hread : s.clock.read = .error e)
    (attempt : Attempt) (drawn : Credentials) :
    founder? (eventOf step s (.register attempt drawn)) = none ∧
      (s.step (.register attempt drawn)).2.registry.directory = s.registry.directory := by
  simp only [founder?, eventOf, step, hread]
  cases hvalid : attempt.validate with
  | error e =>
      rw [register_of_invalid hvalid]
      exact ⟨rfl, rfl⟩
  | ok _ =>
      rw [register_of_unread hvalid]
      exact ⟨rfl, rfl⟩

/-- An attempt that was answered with an account was admitted, and its username had none. -/
theorem exists_of_founder {action : Action} {founder : Attempt × Credentials}
    (hfounder : founder? (eventOf step s action) = some founder) :
    action = .register founder.1 founder.2 ∧ founder.1.validate = .ok () ∧
      ∃ now, s.clock.read = .ok now ∧ s.registry.Admits now founder.1 ∧
        ¬ s.registry.Taken founder.1 := by
  obtain ⟨attempt, drawn⟩ := founder
  obtain ⟨haction, v, info, hv, hinfo⟩ := founder?_eq_some_iff.mp hfounder
  obtain rfl : action = .register attempt drawn := haction
  cases hread : s.clock.read with
  | error e =>
      rw [(step_register_unread hread attempt drawn).1] at hfounder
      cases hfounder
  | ok now =>
      obtain ⟨v', hv', hanswers⟩ := step_register_answers hread attempt drawn
      obtain rfl : v = v' := by simpa using hv.symm.trans hv'
      obtain ⟨hvalid, hadmits, -, hfree, -⟩ := (hanswers.ok_iff info).mp hinfo
      exact ⟨rfl, hvalid, now, rfl, hadmits, hfree⟩

/-- The record of an attempt that made an account. -/
def recordOf (serverName : String) (founder : Attempt × Credentials) : AccountRecord :=
  founder.1.record serverName founder.2

/-- An action adds the record of the attempt that it answers with an account, and no other. -/
theorem directory_step (s : Session) (action : Action) :
    (s.step action).2.registry.directory =
      { s.registry.directory with
        records := (founder? (eventOf step s action)).toList.map
          (recordOf s.registry.directory.serverName) ++ s.registry.directory.records } := by
  cases action with
  | issue token =>
      simp only [step, issue_eq]
      split <;> rfl
  | register attempt drawn =>
      cases hread : s.clock.read with
      | error e =>
          obtain ⟨hfounder, hdirectory⟩ := step_register_unread hread attempt drawn
          rw [hfounder, hdirectory]
          rfl
      | ok now =>
          obtain ⟨⟨answer, notice⟩, hv, hanswers⟩ := step_register_answers hread attempt drawn
          rw [hanswers.directory_eq, founder?, eventOf, hv]
          cases answer <;> rfl
  | sweep => rfl
  | sweepEvery interval span =>
      simp only [step, sweepEvery]
      split <;> rfl
  | advance span => rfl
  | setOutage outage => rfl

/-- The records of a directory are those of the attempts that made them, newest first. -/
theorem directory_outcome (s : Session) (actions : List Action) :
    (outcome step s actions).registry.directory =
      { s.registry.directory with
        records := (founders (events step s actions)).reverse.map
          (recordOf s.registry.directory.serverName) ++ s.registry.directory.records } := by
  induction actions generalizing s with
  | nil => rfl
  | cons action rest ih =>
      rw [outcome_cons, ih, directory_step, events_cons, founders_cons]
      cases founder? (eventOf step s action) <;> simp

/-- The user identifiers of a directory are different. -/
def DistinctUsers (s : Session) : Prop :=
  (s.registry.directory.records.map (·.userId)).Nodup

theorem DistinctUsers.step (h : s.DistinctUsers) (action : Action) :
    (s.step action).2.DistinctUsers := by
  unfold DistinctUsers
  cases hfounder : founder? (eventOf Session.step s action) with
  | none =>
      rw [directory_step, hfounder]
      exact h
  | some founder =>
      obtain ⟨-, -, now, -, -, hfree⟩ := exists_of_founder hfounder
      rw [directory_step, hfounder]
      refine List.nodup_cons.mpr ⟨?_, h⟩
      -- The new user identifier was free, or there would be no account.
      intro hmem
      obtain ⟨record, hrecord, huserId⟩ := List.mem_map.mp hmem
      exact hfree ⟨record, hrecord, huserId⟩

theorem DistinctUsers.outcome (h : s.DistinctUsers) (actions : List Action) :
    (outcome Session.step s actions).DistinctUsers :=
  outcome_induction (fun _ action hs => hs.step action) h actions

/-! ## Outages -/

theorem outage_createAccount (r : Registry) (account : NewAccount) (drawn : Credentials) :
    (r.createAccount account drawn).2.outage = r.outage := by
  obtain ⟨directory, tally, hleft⟩ := r.exists_of_createAccount account drawn
  rw [hleft]

theorem outage_register (r : Registry) (reading : Reading) (attempt : Attempt)
    (drawn : Credentials) : (r.register reading attempt drawn).2.outage = r.outage := by
  cases hvalid : attempt.validate with
  | error e =>
      rw [register_of_invalid hvalid]
      rfl
  | ok _ =>
      cases reading with
      | error e => rw [register_of_unread hvalid]
      | ok now =>
          by_cases hadmits : r.Admits now attempt
          · rw [register_of_admitted hvalid hadmits]
            exact outage_createAccount _ _ _
          · obtain ⟨reason, hdenied⟩ := register_of_denied hvalid hadmits drawn
            rw [hdenied]
            rfl

/-- The directory goes out of reach, and comes back, by being put there. -/
theorem outage_step (s : Session) {action : Action}
    (hnot : ∀ outage, action ≠ .setOutage outage) :
    (s.step action).2.registry.outage = s.registry.outage := by
  cases action with
  | issue token =>
      simp only [step, issue_eq]
      split <;> rfl
  | register attempt drawn => exact outage_register _ _ _ _
  | sweep => rfl
  | sweepEvery interval span =>
      simp only [step, sweepEvery]
      split <;> rfl
  | advance span => rfl
  | setOutage outage => exact absurd rfl (hnot outage)

theorem outage_outcome {s : Session} {actions : List Action}
    (hnot : ∀ outage, .setOutage outage ∉ actions) :
    (outcome step s actions).registry.outage = s.registry.outage := by
  induction actions generalizing s with
  | nil => rfl
  | cons action rest ih =>
      simp only [List.mem_cons, not_or] at hnot
      rw [outcome_cons, ih fun outage => (hnot outage).2]
      exact outage_step s fun outage => Ne.symm (hnot outage).1

end Session

end Registry

end Enrollment
