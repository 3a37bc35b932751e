import Enrollment.Proofs.Registry.Authorization
import Enrollment.Proofs.Shape

/-!
# Whose account it is

A user identifier belongs to the first attempt that claimed its username, that is, that was
authorized while the directory was within reach. Later claims are told that the identifier is in
use and change nothing. A username that passes the checks can be read off its user identifier, so
that no two of them claim the same one.
-/

namespace Enrollment

namespace Directory

/-- The text after the first character of a user identifier and before its first colon. -/
def localpart (userId : String) : String :=
  .ofList ((userId.toList.drop 1).takeWhile (· ≠ ':'))

theorem localpart_userIdFor {username : String} (hvalid : Validation.username username = .ok ())
    (d : Directory) : localpart (d.userIdFor username) = username := by
  have hcolon : ':' ∉ username.toList := Validation.not_mem_of_username hvalid (by decide)
  have hchars : ∀ c ∈ username.toList, decide (c ≠ ':') = true := by
    intro c hc
    exact decide_eq_true fun heq => hcolon (heq ▸ hc)
  have htext : (d.userIdFor username).toList =
      '@' :: (username.toList ++ ':' :: d.serverName.toList) := by
    simp [userIdFor]
  unfold localpart
  rw [htext, List.drop_one, List.tail_cons, List.takeWhile_append_of_pos hchars]
  simp

end Directory

namespace Registry.Session

/-- The attempt that was authorized while the directory was within reach, and what was drawn for
it. -/
def claimant? (e : Occurrence) : Option (Attempt × Credentials) :=
  match e.action with
  | .register attempt drawn =>
      match attempt.validate, e.before.registry.outage,
        (e.before.registry.authority.decide e.before.clock.read attempt).1 with
      | .ok (), none, .ok (.ok _) => some (attempt, drawn)
      | _, _, _ => none
  | _ => none

/-- The claims of a run, oldest first. -/
def claimants (trail : List Occurrence) : List (Attempt × Credentials) :=
  trail.filterMap claimant?

/-- The first claim of a username. -/
def firstClaim (trail : List Occurrence) (username : String) : Option (Attempt × Credentials) :=
  (claimants trail).find? (·.1.fields.username == username)

variable {s start : Session} {action : Action} {claimant : Attempt × Credentials}

theorem claimant?_eq_some_iff : claimant? (eventOf step s action) = some claimant ↔
    action = .register claimant.1 claimant.2 ∧ claimant.1.validate = .ok () ∧
      s.registry.outage = none ∧
      ∃ now, s.clock.read = .ok now ∧ s.registry.Admits now claimant.1 := by
  obtain ⟨attempt, drawn⟩ := claimant
  constructor
  · intro hclaim
    unfold claimant? at hclaim
    split at hclaim
    next attempt' drawn' haction =>
      split at hclaim
      next proof hvalid houtage hdecide =>
        obtain ⟨rfl, rfl⟩ : attempt' = attempt ∧ drawn' = drawn := by simpa using hclaim
        change (s.registry.authority.decide s.clock.read attempt').1 = .ok (.ok proof) at hdecide
        refine ⟨haction, hvalid, houtage, ?_⟩
        cases hread : s.clock.read with
        | error e =>
            -- Without a reading nothing is decided.
            rw [hread] at hdecide
            cases hdecide
        | ok now =>
            rw [hread] at hdecide
            exact ⟨now, rfl, (decide_eq_ok_iff.mp hdecide).1⟩
      next => cases hclaim
    next => cases hclaim
  · rintro ⟨rfl, hvalid, houtage, now, hread, hadmits⟩
    have hdecide := decide_eq_ok_iff.mpr ⟨hadmits, rfl⟩
    rw [← hread] at hdecide
    simp only [claimant?, eventOf]
    rw [hvalid, houtage, hdecide]

/-- A claim is answered with an account, or the account is taken and the answer says so. -/
theorem step_of_claim {attempt : Attempt} {drawn : Credentials}
    (hclaim : claimant? (eventOf step s (.register attempt drawn)) = some claimant) :
    ∃ v, (s.step (.register attempt drawn)).1 = .ok (.verdict v) ∧
      (s.registry.Taken attempt → v.answer = .error (.account (.userInUse
        (s.registry.directory.userIdFor attempt.fields.username))) ∧
        (s.step (.register attempt drawn)).2.registry.directory = s.registry.directory) ∧
      (¬ s.registry.Taken attempt → ∃ info, v.answer = .ok info) := by
  obtain ⟨haction, hvalid, houtage, now, hread, hadmits⟩ := claimant?_eq_some_iff.mp hclaim
  obtain ⟨rfl, rfl⟩ : attempt = claimant.1 ∧ drawn = claimant.2 := by simpa using haction
  obtain ⟨v, hv, hanswers⟩ := step_register_answers hread claimant.1 claimant.2
  refine ⟨v, hv, ?_, ?_⟩
  · intro htaken
    have hanswer := (hanswers.userInUse_iff _).mpr ⟨hvalid, hadmits, houtage, htaken, rfl⟩
    rw [hanswers.directory_eq, hanswer]
    exact ⟨rfl, rfl⟩
  · intro hfree
    exact ⟨_, (hanswers.ok_iff _).mpr ⟨hvalid, hadmits, houtage, hfree, rfl⟩⟩

/-- A claim makes an account unless its username has one, and nothing else does. -/
theorem founder?_eq_some_iff_claim : founder? (eventOf step s action) = some claimant ↔
    claimant? (eventOf step s action) = some claimant ∧ ¬ s.registry.Taken claimant.1 := by
  constructor
  · intro hfounder
    obtain ⟨rfl, hvalid, now, hread, hadmits, hfree⟩ := exists_of_founder hfounder
    obtain ⟨-, v, info, hv, hinfo⟩ := founder?_eq_some_iff.mp hfounder
    obtain ⟨v', hv', hanswers⟩ := step_register_answers hread claimant.1 claimant.2
    obtain rfl : v = v' := by simpa using hv.symm.trans hv'
    have houtage := ((hanswers.ok_iff info).mp hinfo).2.2.1
    exact ⟨claimant?_eq_some_iff.mpr ⟨rfl, hvalid, houtage, now, hread, hadmits⟩, hfree⟩
  · rintro ⟨hclaim, hfree⟩
    obtain ⟨rfl, -⟩ := claimant?_eq_some_iff.mp hclaim
    obtain ⟨v, hv, -, hok⟩ := step_of_claim hclaim
    obtain ⟨info, hinfo⟩ := hok hfree
    exact founder?_eq_some_iff.mpr ⟨rfl, v, info, hv, hinfo⟩

theorem founder?_eq_none_of_no_claim (hclaim : claimant? (eventOf step s action) = none) :
    founder? (eventOf step s action) = none := by
  rw [Option.eq_none_iff_forall_ne_some]
  intro founder hfounder
  cases hclaim.symm.trans (founder?_eq_some_iff_claim.mp hfounder).1

theorem founder?_eq_none_of_claim (htaken : s.registry.Taken claimant.1)
    (hclaim : claimant? (eventOf step s action) = some claimant) :
    founder? (eventOf step s action) = none := by
  rw [Option.eq_none_iff_forall_ne_some]
  intro founder hfounder
  obtain ⟨hclaim', hfree⟩ := founder?_eq_some_iff_claim.mp hfounder
  obtain rfl : claimant = founder := by simpa using hclaim.symm.trans hclaim'
  exact hfree htaken

theorem hasAccount_iff_filter_ne_nil {trail : List Occurrence} {username : String} :
    HasAccount trail username ↔
      (founders trail).filter (·.1.fields.username == username) ≠ [] := by
  simp [HasAccount, List.filter_eq_nil_iff]

theorem founders_snoc (trail : List Occurrence) (e : Occurrence) :
    founders (trail ++ [e]) = founders trail ++ (founder? e).toList := by
  rw [founders, List.filterMap_append]
  exact congrArg _ ((filterMap_cons_eq founder? e []).trans (List.append_nil _))

theorem firstClaim_snoc (trail : List Occurrence) (e : Occurrence) (username : String) :
    firstClaim (trail ++ [e]) username = (firstClaim trail username).or
      ((claimant? e).filter (·.1.fields.username == username)) := by
  unfold firstClaim claimants
  rw [List.filterMap_append, List.find?_append, filterMap_cons_eq]
  cases claimant? e with
  | none => rfl
  | some claimant =>
      rw [Option.toList_some, List.singleton_append, List.filterMap_nil, List.find?_singleton]
      rfl

section Past

variable (hnew : start.registry.directory.records = [])

include hnew in
/-- Of the attempts that made accounts, the one with a username is the first that claimed it. -/
theorem founders_filter_eq_firstClaim (past : List Action) (username : String) :
    (founders (events step start past)).filter (·.1.fields.username == username) =
      (firstClaim (events step start past) username).toList := by
  -- Whether the newest claim made an account depends on the run before it.
  induction past using List.reverseRecOn with
  | nil => rfl
  | append_singleton past action ih =>
      rw [events_snoc, founders_snoc, firstClaim_snoc, List.filter_append, ih]
      set s := outcome step start past
      cases hclaim : claimant? (eventOf step s action) with
      | none =>
          rw [founder?_eq_none_of_no_claim hclaim]
          simp
      | some claimant =>
          by_cases hname : claimant.1.fields.username = username
          · -- The username is taken exactly if it was claimed before.
            have htaken : s.registry.Taken claimant.1 ↔
                firstClaim (events step start past) username ≠ none := by
              rw [taken_iff_hasAccount hnew, hname, hasAccount_iff_filter_ne_nil, ih]
              simp
            cases hfirst : firstClaim (events step start past) username with
            | none =>
                have hfree : ¬ s.registry.Taken claimant.1 := fun h => htaken.mp h hfirst
                rw [founder?_eq_some_iff_claim.mpr ⟨hclaim, hfree⟩]
                simp [Option.filter, hname]
            | some first =>
                rw [founder?_eq_none_of_claim (htaken.mpr (by simp [hfirst])) hclaim]
                simp
          · by_cases htaken : s.registry.Taken claimant.1
            · rw [founder?_eq_none_of_claim htaken hclaim]
              simp [Option.filter, hname]
            · rw [founder?_eq_some_iff_claim.mpr ⟨hclaim, htaken⟩]
              simp [Option.filter, hname]

include hnew in
/-- The accounts under the user identifier of a username: that of its first claim, if any. -/
theorem records_filter_eq_firstClaim (past : List Action) (username : String) :
    (outcome step start past).registry.directory.records.filter
        (·.userId == start.registry.directory.userIdFor username) =
      (firstClaim (events step start past) username).toList.map
        (recordOf start.registry.directory.serverName) := by
  have huser : (fun founder => (recordOf start.registry.directory.serverName founder).userId ==
      start.registry.directory.userIdFor username) =
        fun founder : Attempt × Credentials => founder.1.fields.username == username := by
    funext founder
    rw [Bool.eq_iff_iff, beq_iff_eq, beq_iff_eq]
    exact Directory.userIdFor_inj
  rw [records_outcome hnew, List.filter_map, List.filter_reverse]
  change ((founders _).filter (fun founder => (recordOf _ founder).userId == _)).reverse.map _ = _
  rw [huser, founders_filter_eq_firstClaim hnew]
  cases firstClaim (events step start past) username <;> rfl

include hnew in
theorem get?_eq_firstClaim (past : List Action) (username : String) :
    (outcome step start past).registry.directory.get?
        (start.registry.directory.userIdFor username) =
      (firstClaim (events step start past) username).map
        (recordOf start.registry.directory.serverName) := by
  unfold Directory.get?
  rw [← List.head?_filter, records_filter_eq_firstClaim hnew]
  cases firstClaim (events step start past) username <;> rfl

end Past

/-- A claim that was the first of its username stays the first. -/
theorem firstClaim_append_of_some {trail : List Occurrence} {username : String}
    (hfirst : firstClaim trail username = some claimant) (later : List Occurrence) :
    firstClaim (trail ++ later) username = some claimant := by
  unfold firstClaim claimants at *
  rw [List.filterMap_append, List.find?_append, hfirst]
  rfl

/-- Of a run of a new registry: the accounts under the user identifier of a username are that of
its first claim and no other. No later action changes it, and a later claim of the username is
answered with the user identifier that is in use and leaves the directory as it is. A username that
passes the checks is read off its user identifier, and shares it with no other. -/
theorem account_of_first_claim (clock : Clock) (ledger : Ledger) (secret : Secret)
    (serverName : String) (tokenLifetime : Span) (past : List Action) (username : String) :
    let start : Session := ⟨clock, create ledger secret (.create serverName tokenLifetime)⟩
    let s := (start.run past).2
    let first := firstClaim (events step start past) username
    let userId := "@" ++ username ++ ":" ++ serverName
    s.registry.directory.records.filter (·.userId == userId) =
        first.toList.map (recordOf serverName) ∧
      (∀ claimant, first = some claimant →
        (∀ later, (s.run later).2.registry.directory.records.filter (·.userId == userId) =
          [recordOf serverName claimant]) ∧
        ∀ attempt drawn, attempt.fields.username = username →
          claimant? (eventOf step s (.register attempt drawn)) = some (attempt, drawn) →
          ∃ v, (s.step (.register attempt drawn)).1 = .ok (.verdict v) ∧
            v.answer = .error (.account (.userInUse userId)) ∧
            (s.step (.register attempt drawn)).2.registry.directory = s.registry.directory) ∧
      (Validation.username username = .ok () → ∀ d : Directory,
        Directory.localpart (d.userIdFor username) = username ∧
        ∀ other, Validation.username other = .ok () → ∀ d' : Directory,
          d.userIdFor username = d'.userIdFor other → username = other) := by
  intro start s first userId
  have hnew : start.registry.directory.records = [] := rfl
  have hrun : s = outcome step start past := congrArg Prod.snd (run_eq start past)
  refine ⟨?_, ?_, ?_⟩
  · rw [hrun]
    exact records_filter_eq_firstClaim hnew past username
  · intro claimant hfirst
    refine ⟨?_, ?_⟩
    · intro later
      have hlater : (s.run later).2 = outcome step start (past ++ later) := by
        rw [run, run_eq, outcome_append, hrun]
      -- What comes later is part of one longer run, with the same first claim.
      have hstill := firstClaim_append_of_some hfirst (events step s later)
      rw [hrun, ← events_append] at hstill
      rw [hlater]
      refine (records_filter_eq_firstClaim hnew (past ++ later) username).trans ?_
      rw [hstill]
      rfl
    · rintro attempt drawn rfl hclaim
      have htaken : s.registry.Taken attempt := by
        rw [taken_iff, hrun, userIdFor_outcome, get?_eq_firstClaim hnew]
        change first.map _ ≠ none
        simp [hfirst]
      obtain ⟨v, hv, hinUse, -⟩ := step_of_claim hclaim
      obtain ⟨hanswer, hdirectory⟩ := hinUse htaken
      refine ⟨v, hv, ?_, hdirectory⟩
      rw [hanswer, hrun, userIdFor_outcome]
      rfl
  · intro hvalid d
    refine ⟨Directory.localpart_userIdFor hvalid d, ?_⟩
    intro other hother d' hids
    rw [← Directory.localpart_userIdFor hvalid d, hids, Directory.localpart_userIdFor hother d']

/-- Whoever signs for an ordinary account again, as an administrator, is told that it exists. -/
theorem second_claim_of_alice_changes_nothing :
    let ledger : Ledger := ⟨.ofSeconds 60, Ledger.defaultCapacity, [], none, {}⟩
    let secret : Secret := ⟨[1], by decide⟩
    let start : Session := ⟨.start, create ledger secret (.create "server" (.ofSeconds 300))⟩
    let user : Fields := ⟨"first", "alice", "password", false, none⟩
    let admin : Fields := ⟨"second", "alice", "another", true, some "bot"⟩
    let claim : Attempt := ⟨user, secret.signFields user, none⟩
    let again : Attempt := ⟨admin, secret.signFields admin, none⟩
    let past : List Action := [.issue "first", .issue "second", .register claim default]
    let s := (start.run past).2
    (∃ v, (s.step (.register again default)).1 = .ok (.verdict v) ∧
      v.answer = .error (.account (.userInUse "@alice:server"))) ∧
      (s.run [.register again default]).2.registry.directory.records.filter
        (·.userId == "@alice:server") = [⟨"@alice:server", false, none, none, ""⟩] := by
  intro ledger secret start user admin claim again past s
  obtain ⟨issued, hissued⟩ :
      ∃ issued, outcome step start [.issue "first", .issue "second"] = issued := ⟨_, rfl⟩
  have hpast : past = [.issue "first", .issue "second"] ++ [.register claim default] := rfl
  have hread : issued.clock.read = .ok .origin := by
    rw [← hissued]
    exact Clock.read_eq_ok_iff.mpr (by decide)
  have hvalid : claim.validate = .ok () := by decide
  have hsecret : issued.registry.authority.secret = secret := by
    rw [← hissued]
    decide
  have hadmits : issued.registry.Admits .origin claim := by
    refine ⟨?_, Secret.verify_iff.mpr (by rw [hsecret]; rfl)⟩
    rw [← hissued]
    decide
  have hclaim : claimant? (eventOf step issued (.register claim default)) = some (claim, default) :=
    claimant?_eq_some_iff.mpr ⟨rfl, hvalid, by rw [← hissued]; decide, .origin, hread, hadmits⟩
  have hfirst : firstClaim (events step start past) "alice" = some (claim, default) := by
    rw [hpast, events_snoc, hissued, firstClaim_snoc, hclaim]
    rfl
  -- The state after the claim, without the comparison of signatures.
  have hs : s = ⟨issued.clock, ((issued.registry.present .origin claim).countAuthorized
      |>.createAccount claim.account default).2⟩ := by
    change (start.run past).2 = _
    rw [run, run_eq]
    simp only [hpast, outcome_append, hissued, outcome_cons, outcome_nil]
    simp only [step, hread, register_of_admitted hvalid hadmits]
  have hagain : claimant? (eventOf step s (.register again default)) = some (again, default) := by
    rw [hs]
    refine claimant?_eq_some_iff.mpr ⟨rfl, by decide, ?_, .origin, hread, ?_, ?_⟩
    · rw [← hissued]
      decide
    · rw [Registry.ledger, authority_createAccount, ← hissued]
      decide
    · rw [authority_createAccount, Secret.verify_iff]
      change again.mac = issued.registry.authority.secret.sign again.fields.message
      rw [hsecret]
      rfl
  have hstart : (⟨.start, create ledger secret (.create "server" (.ofSeconds 300))⟩ : Session) =
    start := rfl
  have hend : (start.run past).2 = s := rfl
  have huser : "@" ++ "alice" ++ ":" ++ "server" = "@alice:server" := by decide
  have htheorem := account_of_first_claim .start ledger secret "server" (.ofSeconds 300) past
    "alice"
  simp only [hstart, hend, huser] at htheorem
  obtain ⟨hrecord, hinUse⟩ := htheorem.2.1 (claim, default) hfirst
  obtain ⟨v, hv, hanswer, -⟩ := hinUse again default rfl hagain
  refine ⟨⟨v, hv, hanswer⟩, (hrecord [.register again default]).trans ?_⟩
  rw [recordOf, Attempt.record, huser]
  rfl

end Registry.Session

end Enrollment
