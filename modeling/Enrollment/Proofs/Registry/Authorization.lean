import Enrollment.Proofs.Comparison
import Enrollment.Proofs.Registry.Accounts
import Enrollment.Proofs.Registry.Nonces

/-!
# Which attempts are authorized

The past of a run alone decides what an attempt is answered. It is authorized exactly if its nonce
was handed out less than a lifetime ago, no attempt of the right shape presented that nonce since,
and its signature is the one of its fields. So every account goes back to a nonce of its own.
-/

namespace Enrollment.Registry.Session

/-- The nonce was handed out, has not expired and was presented by no attempt since, and the
signature is the one of the fields. -/
def Authorized (secret : Secret) (lifetime : Span) (trail : List Occurrence) (attempt : Attempt)
    (now : Instant) : Prop :=
  (∃ expiry since, IssuedThen lifetime trail attempt.fields.nonce expiry since ∧ now < expiry ∧
    ∀ e ∈ since, ¬ Presents e attempt.fields.nonce) ∧
  attempt.mac = secret.signFields attempt.fields

/-- An attempt with the username was answered with an account. -/
def HasAccount (trail : List Occurrence) (username : String) : Prop :=
  ∃ founder ∈ founders trail, founder.1.fields.username = username

variable {s start : Session} {now : Instant} {attempt : Attempt}

theorem secret_step (s : Session) (action : Action) :
    (s.step action).2.registry.authority.secret = s.registry.authority.secret := by
  cases action with
  | issue token =>
      simp only [step]
      rw [authority_issue]
  | register attempt drawn =>
      simp only [step]
      cases hvalid : attempt.validate with
      | error e =>
          rw [register_of_invalid hvalid]
          rfl
      | ok _ => rw [authority_register _ _ hvalid]
  | sweep => rfl
  | sweepEvery interval span =>
      simp only [step, sweepEvery]
      split <;> rfl
  | advance span => rfl
  | setOutage outage => rfl

theorem secret_outcome (s : Session) (actions : List Action) :
    (outcome step s actions).registry.authority.secret = s.registry.authority.secret :=
  outcome_induction (motive := fun s' => s'.registry.authority.secret = s.registry.authority.secret)
    (fun s' action hs => (secret_step s' action).trans hs) rfl actions

section Past

variable {past : List Action} (hstart : start.nonces.Coherent)
  (hempty : ∀ token, start.registry.ledger.find? token = none)
  (hnew : start.registry.directory.records = [])
  (hdistinct : (issuedTokens (events step start past)).Nodup)
  (hread : (outcome step start past).clock.read = .ok now)

include hstart hempty hdistinct hread in
/-- An attempt is admitted exactly if it is authorized by the past. -/
theorem admits_iff_authorized :
    (outcome step start past).registry.Admits now attempt ↔
      Authorized start.registry.authority.secret start.registry.ledger.lifetime
        (events step start past) attempt now := by
  unfold Admits Authorized
  rw [judge_eq_ok_iff hstart hempty hdistinct hread, Secret.verify_iff, secret_outcome]
  rfl

include hnew in
theorem records_outcome : (outcome step start past).registry.directory.records =
    (founders (events step start past)).reverse.map
      (recordOf start.registry.directory.serverName) := by
  rw [directory_outcome]
  simp [hnew]

theorem userIdFor_outcome (username : String) :
    (outcome step start past).registry.directory.userIdFor username =
      start.registry.directory.userIdFor username := by
  rw [directory_outcome]
  rfl

include hnew in
theorem taken_iff_hasAccount :
    (outcome step start past).registry.Taken attempt ↔
      HasAccount (events step start past) attempt.fields.username := by
  have huser : ∀ founder : Attempt × Credentials,
      (recordOf start.registry.directory.serverName founder).userId =
        start.registry.directory.userIdFor founder.1.fields.username := fun _ => rfl
  unfold Taken HasAccount
  simp only [records_outcome hnew, userIdFor_outcome, List.mem_map, List.mem_reverse,
    exists_exists_and_eq_and, huser, Directory.userIdFor_inj]

/-- The ledger accepted the nonce of an attempt that was answered with an account. -/
theorem acceptedTokens_of_founder {action : Action} {founder : Attempt × Credentials}
    (hfounder : founder? (eventOf step s action) = some founder) :
    Ledger.Session.acceptedTokens (nonceEvents (eventOf step s action)) =
      [founder.1.fields.nonce] := by
  obtain ⟨rfl, hvalid, now, hread, ⟨hjudge, -⟩, -⟩ := exists_of_founder hfounder
  have haccepts := (Ledger.Session.accepts_iff (s := s.nonces) hread).mpr hjudge
  have hevents : nonceEvents (eventOf step s (.register founder.1 founder.2)) =
      [eventOf Ledger.Session.step s.nonces (.consume founder.1.fields.nonce)] := by
    simp [nonceEvents, eventOf, Action.onNonces, hvalid]
  rw [hevents, Ledger.Session.acceptedTokens_singleton,
    Ledger.Session.acceptedToken?_eq_some_iff.mpr haccepts]
  rfl

/-- The nonces behind accounts are among those that the ledger accepted, in order. -/
theorem founders_nonces_sublist (s : Session) (actions : List Action) :
    ((founders (events step s actions)).map (·.1.fields.nonce)).Sublist
      (Ledger.Session.acceptedTokens ((events step s actions).flatMap nonceEvents)) := by
  induction actions generalizing s with
  | nil => exact List.Sublist.refl _
  | cons action rest ih =>
      rw [events_cons, founders_cons, List.map_append, List.flatMap_cons,
        Ledger.Session.acceptedTokens_append]
      refine List.Sublist.append ?_ (ih _)
      cases hfounder : founder? (eventOf step s action) with
      | none => exact List.nil_sublist _
      | some founder =>
          rw [acceptedTokens_of_founder hfounder]
          exact List.Sublist.refl _

include hstart hempty hdistinct in
theorem founders_nonces_nodup :
    ((founders (events step start past)).map (·.1.fields.nonce)).Nodup := by
  have haccepted := Ledger.Session.acceptedTokens_nodup hstart hempty
    (issuedTokens_onNonces_nodup hdistinct)
  rw [nonceEvents_of_run] at haccepted
  exact haccepted.sublist (founders_nonces_sublist start past)

include hstart hempty in
/-- Every account goes back to a nonce that was handed out. -/
theorem founders_nonces_issued {founder : Attempt × Credentials}
    (hfounder : founder ∈ founders (events step start past)) :
    founder.1.fields.nonce ∈ issuedTokens (events step start past) := by
  have hnonce := (founders_nonces_sublist start past).subset
    (List.mem_map_of_mem (f := fun f : Attempt × Credentials => f.1.fields.nonce) hfounder)
  rw [← nonceEvents_of_run] at hnonce
  obtain ⟨e, he, haccepts⟩ := Ledger.Session.mem_acceptedTokens.mp hnonce
  obtain ⟨before, since, hsplit⟩ := List.append_of_mem he
  have hbefore := Ledger.Session.mem_issuedTokens_of_accepts hstart (hempty _) hsplit haccepts
  rw [← issuedTokens_flatMap, ← nonceEvents_of_run, hsplit, Ledger.Session.issuedTokens_append]
  exact List.mem_append_left _ hbefore

include hnew in
theorem founders_usernames_nodup :
    ((founders (events step start past)).map (·.1.fields.username)).Nodup := by
  have hdistinctUsers : start.DistinctUsers := by simp [DistinctUsers, hnew]
  -- User identifiers that differ are made of usernames that differ.
  have hend := hdistinctUsers.outcome past
  unfold DistinctUsers at hend
  rw [records_outcome hnew, List.map_map, List.map_reverse, List.nodup_reverse] at hend
  refine List.Nodup.of_map (fun username => start.registry.directory.userIdFor username) ?_
  rw [List.map_map]
  exact hend

end Past

/-- Of a run of a new registry that never hands out a token twice: the past of the run decides which
attempts are authorized and how each is answered; the accounts are those of the attempts that were
answered with one, and each of them goes back to a nonce that was handed out for it alone. -/
theorem register_answered_by_past {lifetime : Span} {fresh : Ledger}
    (hfresh : Ledger.create lifetime = .ok fresh) (clock : Clock) (maxEntries : Nat)
    (secret : Secret) (serverName : String) (tokenLifetime : Span) (past : List Action)
    (hdistinct : (issuedTokens (events step ⟨clock, create (fresh.withCapacity maxEntries) secret
      (.create serverName tokenLifetime)⟩ past)).Nodup) :
    let start : Session :=
      ⟨clock, create (fresh.withCapacity maxEntries) secret (.create serverName tokenLifetime)⟩
    let trail := events step start past
    let s := (start.run past).2
    (∀ attempt drawn now, s.clock.read = .ok now →
      ((∃ proof, (s.registry.authority.decide s.clock.read attempt).1 = .ok (.ok proof)) ↔
        Authorized secret lifetime trail attempt now) ∧
      ∃ v, (s.step (.register attempt drawn)).1 = .ok (.verdict v) ∧
        s.registry.Answers attempt drawn (Authorized secret lifetime trail attempt now)
          (HasAccount trail attempt.fields.username) v.answer
          (s.step (.register attempt drawn)).2.registry.directory) ∧
      s.registry.directory.records = (founders trail).reverse.map (recordOf serverName) ∧
      ((founders trail).map (·.1.fields.username)).Nodup ∧
      ((founders trail).map (·.1.fields.nonce)).Nodup ∧
      ∀ founder ∈ founders trail, founder.1.fields.nonce ∈ issuedTokens trail := by
  intro start trail s
  have hstart : start.nonces.Coherent := Ledger.coherent_of_create hfresh maxEntries clock.elapsed
  have hempty : ∀ token, start.registry.ledger.find? token = none := fun token => by
    change (fresh.withCapacity maxEntries).find? token = none
    simp [Ledger.eq_of_create hfresh, Ledger.withCapacity, Ledger.find?]
  have hlifetime : start.registry.ledger.lifetime = lifetime := by
    change (fresh.withCapacity maxEntries).lifetime = lifetime
    simp [Ledger.eq_of_create hfresh, Ledger.withCapacity]
  have hnew : start.registry.directory.records = [] := rfl
  have hrun : s = outcome step start past := congrArg Prod.snd (run_eq start past)
  rw [hrun]
  refine ⟨?_, records_outcome hnew, founders_usernames_nodup hnew,
    founders_nonces_nodup hstart hempty hdistinct, fun _ => founders_nonces_issued hstart hempty⟩
  intro attempt drawn now hread
  have hauthorized : (outcome step start past).registry.Admits now attempt ↔
      Authorized secret lifetime trail attempt now := by
    rw [admits_iff_authorized hstart hempty hdistinct hread, hlifetime]
    rfl
  have htaken : (outcome step start past).registry.Taken attempt ↔
      HasAccount trail attempt.fields.username := taken_iff_hasAccount hnew
  have hanswered := step_register_answers hread attempt drawn
  rw [propext hauthorized, propext htaken] at hanswered
  refine ⟨?_, hanswered⟩
  rw [hread, ← hauthorized]
  simp [decide_eq_ok_iff]

/-- A signed attempt with a nonce that was just handed out is answered with an account. -/
theorem register_signed_with_issued_nonce :
    let fresh : Ledger := ⟨.ofSeconds 60, Ledger.defaultCapacity, [], none, {}⟩
    let secret : Secret := ⟨[1], by decide⟩
    let trail := events step ⟨.start, create (fresh.withCapacity 10) secret
      (.create "server" (.ofSeconds 300))⟩ [.issue "nonce"]
    let s := ((⟨.start, create (fresh.withCapacity 10) secret
      (.create "server" (.ofSeconds 300))⟩ : Session).run [.issue "nonce"]).2
    let fields : Fields := ⟨"nonce", "alice", "password", true, none⟩
    let attempt : Attempt := ⟨fields, secret.signFields fields, none⟩
    Ledger.create (.ofSeconds 60) = .ok fresh ∧ (issuedTokens trail).Nodup ∧
      s.clock.read = .ok .origin ∧
      ∃ v info, (s.step (.register attempt default)).1 = .ok (.verdict v) ∧
        v.answer = .ok info := by
  intro fresh secret trail s fields attempt
  have hfresh : Ledger.create (.ofSeconds 60) = .ok fresh := rfl
  have hdistinct : (issuedTokens trail).Nodup := by decide
  have hread : s.clock.read = .ok .origin := Clock.read_eq_ok_iff.mpr (by decide)
  have hsecret : s.registry.authority.secret = secret := by decide
  have hadmits : s.registry.Admits .origin attempt := by
    refine ⟨by decide, Secret.verify_iff.mpr ?_⟩
    rw [hsecret]
    rfl
  have hfree : ¬ HasAccount trail "alice" := by
    rintro ⟨founder, hfounder, -⟩
    cases hfounder
  have hvalid : attempt.validate = .ok () := by decide
  have htheorem := register_answered_by_past hfresh .start 10 secret "server" (.ofSeconds 300)
    [.issue "nonce"] hdistinct
  obtain ⟨hauthorized, v, hv, hanswers⟩ := htheorem.1 attempt default .origin hread
  rw [hread] at hauthorized
  have hproof := hauthorized.mp ⟨_, decide_eq_ok_iff.mpr ⟨hadmits, rfl⟩⟩
  exact ⟨hfresh, hdistinct, hread, v, _, hv,
    (hanswers.ok_iff _).mpr ⟨hvalid, hproof, by decide, hfree, rfl⟩⟩

end Enrollment.Registry.Session
