import Enrollment.Proofs.Registry.Authorization

/-!
# Passwords leave no trace

Two runs whose attempts differ in their passwords, and in the signatures that go with them, are told
apart by nothing but the verdicts on the two: whether a password passes the checks, and whether a
signature verifies. Where these agree, all answers agree, with what the log says of denied attempts,
and so do all counts and accounts. Texts that are drawn for an account may differ as well; they show
where they stand and nowhere else.
-/

namespace Enrollment

/-- Two attempts that differ in their passwords and signatures only, with the same verdict on
either. -/
structure Attempt.SameButPassword (secret : Secret) (a a' : Attempt) : Prop where
  fields_eq : a'.fields = { a.fields with password := a'.fields.password }
  displayName_eq : a'.displayName = a.displayName
  password_eq : Validation.password a'.fields.password = Validation.password a.fields.password
  verify_eq : secret.verify a'.fields.message a'.mac = secret.verify a.fields.message a.mac

namespace Registry

/-! ## Attempts with other passwords -/

section Passwords

variable {r : Registry} {now : Instant} {attempt attempt' : Attempt}

variable (h : attempt.SameButPassword r.authority.secret attempt')

include h

theorem validate_of_same : attempt'.validate = attempt.validate := by
  unfold Attempt.validate
  rw [h.password_eq, h.displayName_eq, h.fields_eq]

theorem admits_iff_of_same : r.Admits now attempt' ↔ r.Admits now attempt := by
  have hnonce : attempt'.fields.nonce = attempt.fields.nonce := by rw [h.fields_eq]
  unfold Admits
  rw [h.verify_eq, hnonce]

/-- An attempt with another password is answered alike, and leaves the same registry. -/
theorem register_of_same (reading : Reading) (drawn : Credentials) :
    r.register reading attempt' drawn = r.register reading attempt drawn := by
  have hnonce : attempt'.fields.nonce = attempt.fields.nonce := by rw [h.fields_eq]
  have hpresent : ∀ now, r.present now attempt' = r.present now attempt := by
    intro now
    unfold present
    rw [hnonce]
  have hvalidate := validate_of_same h
  cases hvalid : attempt.validate with
  | error e =>
      rw [register_of_invalid hvalid, register_of_invalid (hvalidate.trans hvalid)]
  | ok _ =>
      have hvalid' : attempt'.validate = .ok () := hvalidate.trans hvalid
      cases reading with
      | error e => rw [register_of_unread hvalid, register_of_unread hvalid']
      | ok now =>
          by_cases hadmits : r.Admits now attempt
          · have hadmits' := (admits_iff_of_same h).mpr hadmits
            rw [register_of_admitted hvalid hadmits, register_of_admitted hvalid' hadmits',
              hpresent]
            -- The account that is asked for differs in a password that no directory keeps.
            have haccount : attempt'.account =
                { attempt.account with password := attempt'.fields.password } := by
              unfold Attempt.account
              rw [h.fields_eq, h.displayName_eq]
            rw [haccount]
            rfl
          · have hadmits' := (admits_iff_of_same h).not.mpr hadmits
            rw [register_of_rejected hvalid hadmits, register_of_rejected hvalid' hadmits',
              hpresent]
            unfold rejection Attempt.denialNotice
            rw [h.fields_eq]

end Passwords

end Registry

/-! ## Drawn texts -/

/-- What the owner of an account is told, without the texts that were drawn. -/
def AccountInfo.withoutDraws (info : AccountInfo) : AccountInfo :=
  { info with deviceId := "", accessToken := "", refreshToken := info.refreshToken.map fun _ => "" }

def AccountRecord.withoutDraws (record : AccountRecord) : AccountRecord :=
  { record with deviceId := "" }

def Verdict.withoutDraws (v : Verdict) : Verdict :=
  { v with answer := v.answer.map AccountInfo.withoutDraws }

theorem Verdict.withoutDraws_account (result : Except AccountError AccountInfo) :
    Verdict.withoutDraws ⟨result.mapError .account, none⟩ =
      ⟨(result.map AccountInfo.withoutDraws).mapError .account, none⟩ := by
  cases result <;> rfl

namespace Directory

def withoutDraws (d : Directory) : Directory :=
  { d with records := d.records.map AccountRecord.withoutDraws }

theorem withoutDraws_withoutDraws (d : Directory) :
    d.withoutDraws.withoutDraws = d.withoutDraws := by
  unfold withoutDraws
  rw [List.map_map]
  rfl

theorem get?_withoutDraws (d : Directory) (userId : String) :
    d.withoutDraws.get? userId = (d.get? userId).map AccountRecord.withoutDraws := by
  unfold get? withoutDraws
  rw [List.find?_map]
  rfl

/-- What was drawn, now or before, does not matter to a directory. -/
theorem register_withoutDraws (d : Directory) (account : NewAccount) (drawn drawn' : Credentials) :
    (d.withoutDraws.register account drawn').1.map AccountInfo.withoutDraws =
        (d.register account drawn).1.map AccountInfo.withoutDraws ∧
      (d.withoutDraws.register account drawn').2.withoutDraws =
        (d.register account drawn).2.withoutDraws := by
  have hget : d.withoutDraws.get? (d.withoutDraws.userIdFor account.username) =
      (d.get? (d.userIdFor account.username)).map AccountRecord.withoutDraws :=
    d.get?_withoutDraws _
  unfold register
  simp only [hget]
  cases d.get? (d.userIdFor account.username) with
  | some record => exact ⟨rfl, d.withoutDraws_withoutDraws⟩
  | none =>
      refine ⟨rfl, ?_⟩
      have hrecords := congrArg records d.withoutDraws_withoutDraws
      exact congrArg (fun records => Directory.mk _ _ (_ :: records)) hrecords

end Directory

namespace Registry

def withoutDraws (r : Registry) : Registry :=
  { r with directory := r.directory.withoutDraws }

theorem withoutDraws_withoutDraws (r : Registry) :
    r.withoutDraws.withoutDraws = r.withoutDraws :=
  congrArg (fun directory => { r with directory }) r.directory.withoutDraws_withoutDraws

theorem countAccount_withoutDraws (r : Registry) (answer : Except AccountError AccountInfo) :
    (r.countAccount answer).withoutDraws =
      r.withoutDraws.countAccount (answer.map AccountInfo.withoutDraws) := by
  cases answer <;> rfl

theorem createAccount_withoutDraws (r : Registry) (account : NewAccount)
    (drawn drawn' : Credentials) :
    (r.withoutDraws.createAccount account drawn').1.map AccountInfo.withoutDraws =
        (r.createAccount account drawn).1.map AccountInfo.withoutDraws ∧
      (r.withoutDraws.createAccount account drawn').2.withoutDraws =
        (r.createAccount account drawn).2.withoutDraws := by
  cases houtage : r.outage with
  | some reason =>
      have houtage' : r.withoutDraws.outage = some reason := houtage
      rw [createAccount_of_outage houtage, createAccount_of_outage houtage']
      refine ⟨rfl, ?_⟩
      rw [countAccount_withoutDraws, countAccount_withoutDraws, withoutDraws_withoutDraws]
  | none =>
      have houtage' : r.withoutDraws.outage = none := houtage
      obtain ⟨hanswer, hdirectory⟩ := r.directory.register_withoutDraws account drawn drawn'
      rw [createAccount_of_reach houtage, createAccount_of_reach houtage']
      refine ⟨hanswer, ?_⟩
      rw [countAccount_withoutDraws, countAccount_withoutDraws]
      exact congrArg₂ (fun answer directory => Registry.countAccount { r with directory } answer)
        hanswer hdirectory

/-- What was drawn does not matter to an answer, nor to what it leaves, but where it stands. -/
theorem register_withoutDraws (r : Registry) (reading : Reading) (attempt : Attempt)
    (drawn drawn' : Credentials) :
    (r.withoutDraws.register reading attempt drawn').1.map Verdict.withoutDraws =
        (r.register reading attempt drawn).1.map Verdict.withoutDraws ∧
      (r.withoutDraws.register reading attempt drawn').2.withoutDraws =
        (r.register reading attempt drawn).2.withoutDraws := by
  cases hvalid : attempt.validate with
  | error e =>
      rw [register_of_invalid hvalid, register_of_invalid hvalid]
      exact ⟨rfl, r.countInvalid.withoutDraws_withoutDraws⟩
  | ok _ =>
      cases reading with
      | error e =>
          rw [register_of_unread hvalid, register_of_unread hvalid]
          exact ⟨rfl, r.withoutDraws_withoutDraws⟩
      | ok now =>
          by_cases hadmits : r.Admits now attempt
          · have hadmits' : r.withoutDraws.Admits now attempt := hadmits
            have haccount := (r.present now attempt).countAuthorized.createAccount_withoutDraws
            obtain ⟨hanswer, hleft⟩ := haccount attempt.account drawn drawn'
            rw [register_of_admitted hvalid hadmits, register_of_admitted hvalid hadmits']
            refine ⟨?_, hleft⟩
            refine congrArg Except.ok ?_
            rw [Verdict.withoutDraws_account, Verdict.withoutDraws_account]
            exact congrArg (fun answer => Verdict.mk (Except.mapError .account answer) none) hanswer
          · have hadmits' : ¬ r.withoutDraws.Admits now attempt := hadmits
            rw [register_of_rejected hvalid hadmits, register_of_rejected hvalid hadmits']
            exact ⟨rfl, (r.present now attempt).countDenied.withoutDraws_withoutDraws⟩

/-! ## Runs -/

def Answer.withoutDraws : Answer → Answer
  | .verdict v => .verdict v.withoutDraws
  | answer => answer

namespace Action

/-- What is drawn for an action. -/
def drawn? : Action → Option Credentials
  | .register _ drawn => some drawn
  | _ => none

def withoutDraws : Action → Action
  | .register attempt _ => .register attempt ⟨"", "", ""⟩
  | action => action

/-- Two actions that differ at most in the password and the signature of an attempt and in the texts
that are drawn for it. -/
inductive SameButPassword (secret : Secret) : Action → Action → Prop
  | same (action : Action) : SameButPassword secret action action
  | register {attempt attempt' : Attempt} (h : attempt.SameButPassword secret attempt')
      (drawn drawn' : Credentials) :
      SameButPassword secret (.register attempt drawn) (.register attempt' drawn')

end Action

namespace Session

variable {s s' : Session} {action action' : Action}

/-- A state up to what was drawn. -/
def withoutDraws (s : Session) : Session :=
  { s with registry := s.registry.withoutDraws }

/-- What an event answers, with what the log says, and all of the state that it leaves, both up to
what was drawn. -/
def shown (e : Occurrence) : Except TimeOverflow Answer × Session :=
  (e.answer.map Answer.withoutDraws, e.after.withoutDraws)

/-- What was drawn before or is drawn now does not show. -/
theorem shown_withoutDraws (s : Session) (action : Action) :
    shown (eventOf step s.withoutDraws action.withoutDraws) = shown (eventOf step s action) := by
  obtain ⟨clock, r⟩ := s
  -- No action but an attempt looks at the directory.
  have hkept : r.directory.withoutDraws.withoutDraws = r.directory.withoutDraws :=
    r.directory.withoutDraws_withoutDraws
  have huntouched : ∀ (answer : Except TimeOverflow Answer) (clock : Clock) (r' : Registry),
      (answer.map Answer.withoutDraws,
        (⟨clock, { r' with directory := r.directory.withoutDraws.withoutDraws }⟩ : Session)) =
      (answer.map Answer.withoutDraws,
        (⟨clock, { r' with directory := r.directory.withoutDraws }⟩ : Session)) := by
    intro answer clock r'
    rw [hkept]
  cases action with
  | issue token =>
      have hledger : r.withoutDraws.ledger = r.ledger := rfl
      simp only [shown, eventOf, withoutDraws, Action.withoutDraws, step]
      rw [issue_eq, issue_eq, hledger]
      split
      · exact huntouched _ clock (r.withLedger (r.ledger.issue clock.read token).2).countIssued
      · exact huntouched _ clock (r.withLedger (r.ledger.issue clock.read token).2)
  | register attempt drawn =>
      obtain ⟨hanswer, hleft⟩ := r.register_withoutDraws clock.read attempt drawn ⟨"", "", ""⟩
      have hverdict : ∀ result : Except TimeOverflow Verdict,
          (result.map Answer.verdict).map Answer.withoutDraws =
            (result.map Verdict.withoutDraws).map Answer.verdict := by
        intro result
        cases result <;> rfl
      simp only [shown, eventOf, withoutDraws, Action.withoutDraws, step, hverdict]
      rw [hanswer, hleft]
  | sweep => exact huntouched _ clock (r.sweep clock.read).2
  | sweepEvery interval span =>
      simp only [shown, eventOf, withoutDraws, Action.withoutDraws, step, sweepEvery]
      split
      · exact huntouched _ clock r
      · exact huntouched _ clock (r.sweep clock.read).2
  | advance span => exact huntouched _ (clock.advance span).2 r
  | setOutage outage => exact huntouched _ clock (r.setOutage outage)

/-- Two actions that differ in a password do the same if the same is drawn for them. -/
theorem step_of_same (h : action.SameButPassword s.registry.authority.secret action')
    (hdrawn : action.drawn? = action'.drawn?) : s.step action' = s.step action := by
  cases h with
  | same => rfl
  | register h drawn drawn' =>
      obtain rfl : drawn = drawn' := Option.some.inj hdrawn
      simp only [step, register_of_same h]

theorem shown_of_same (h : action.SameButPassword s.registry.authority.secret action') :
    shown (eventOf step s action') = shown (eventOf step s action) := by
  cases h with
  | same => rfl
  | register h drawn drawn' =>
      have hblank : Action.SameButPassword s.registry.authority.secret
          (.register _ ⟨"", "", ""⟩) (.register _ ⟨"", "", ""⟩) := .register h _ _
      rw [← shown_withoutDraws, ← shown_withoutDraws s]
      simp only [shown, eventOf, Action.withoutDraws]
      rw [step_of_same (s := s.withoutDraws) hblank rfl]

theorem shown_of_like (hlike : s'.withoutDraws = s.withoutDraws) (action : Action) :
    shown (eventOf step s' action) = shown (eventOf step s action) := by
  rw [← shown_withoutDraws, ← shown_withoutDraws s, hlike]

/-- Two runs whose actions differ in passwords show the same. -/
theorem shown_events_of_same {secret : Secret} {first second : List Action}
    (hlike : s'.withoutDraws = s.withoutDraws) (hsecret : s.registry.authority.secret = secret)
    (hsame : List.Forall₂ (Action.SameButPassword secret) first second) :
    (events step s' second).map shown = (events step s first).map shown ∧
      (outcome step s' second).withoutDraws = (outcome step s first).withoutDraws := by
  induction hsame generalizing s s' with
  | nil => exact ⟨rfl, hlike⟩
  | @cons action action' _ _ h _ ih =>
      subst hsecret
      have hshown := (shown_of_like hlike action').trans (shown_of_same h)
      obtain ⟨hrest, hend⟩ := ih (congrArg Prod.snd hshown) (secret_step s action)
      exact ⟨congrArg₂ List.cons hshown hrest, hend⟩

/-- If the same is drawn, two runs whose actions differ in passwords do the same. -/
theorem run_of_same {secret : Secret} {first second : List Action}
    (hsecret : s.registry.authority.secret = secret)
    (hsame : List.Forall₂ (Action.SameButPassword secret) first second)
    (hdrawn : first.map Action.drawn? = second.map Action.drawn?) : s.run second = s.run first := by
  induction hsame generalizing s with
  | nil => rfl
  | @cons action action' _ _ h _ ih =>
      subst hsecret
      obtain ⟨hhead, htail⟩ := List.cons.inj hdrawn
      have hrest := ih (secret_step s action) htail
      simp only [run, run_cons] at hrest ⊢
      rw [step_of_same h hhead, hrest]

/-- Two runs from one state that differ at most in the passwords and signatures of their attempts,
each with the same verdict in both, and in what is drawn: up to what is drawn, every action is
answered alike, the log says the same of it, and it leaves the same counts and accounts. If the same
is drawn in both, nothing at all differs. -/
theorem passwords_unobserved (s : Session) {first second : List Action}
    (hsame : List.Forall₂ (Action.SameButPassword s.registry.authority.secret) first second) :
    (events step s first).map shown = (events step s second).map shown ∧
      (s.run first).2.withoutDraws = (s.run second).2.withoutDraws ∧
      (first.map Action.drawn? = second.map Action.drawn? → s.run first = s.run second) := by
  have hlike : s.withoutDraws = s.withoutDraws := rfl
  obtain ⟨hshown, hend⟩ := shown_events_of_same hlike rfl hsame
  refine ⟨hshown.symm, ?_, fun hdrawn => (run_of_same rfl hsame hdrawn).symm⟩
  simp only [run, run_eq]
  exact hend.symm

/-- A signed attempt and its replay, with one password and with another. -/
theorem signed_passwords_unobserved :
    let secret : Secret := ⟨[1], by decide⟩
    let ledger : Ledger := ⟨.ofSeconds 60, 10, [], none, {}⟩
    let start : Session := ⟨.start, create ledger secret (.create "server" (.ofSeconds 300))⟩
    let fields (password : String) : Fields := ⟨"nonce", "alice", password, true, none⟩
    let signed (password : String) : Attempt :=
      ⟨fields password, secret.signFields (fields password), none⟩
    let actions (password : String) (drawn : Credentials) : List Action :=
      [.issue "nonce", .register (signed password) drawn, .register (signed password) drawn]
    (∀ drawn drawn', List.Forall₂ (Action.SameButPassword secret) (actions "hunter22" drawn)
        (actions "correct horse" drawn')) ∧
      (events step start (actions "hunter22" ⟨"d", "a", "r"⟩)).map shown =
        (events step start (actions "correct horse" ⟨"D", "A", "R"⟩)).map shown ∧
      start.run (actions "hunter22" default) = start.run (actions "correct horse" default) := by
  intro secret ledger start fields signed actions
  have hverify : ∀ password, secret.verify (fields password).message (signed password).mac = true :=
    fun password => Secret.verify_iff.mpr rfl
  have hsigned : (signed "hunter22").SameButPassword secret (signed "correct horse") :=
    ⟨rfl, rfl, by decide, (hverify _).trans (hverify _).symm⟩
  have hsame : ∀ drawn drawn', List.Forall₂ (Action.SameButPassword secret)
      (actions "hunter22" drawn) (actions "correct horse" drawn') := by
    intro drawn drawn'
    exact .cons (.same _) (.cons (.register hsigned _ _) (.cons (.register hsigned _ _) .nil))
  exact ⟨hsame, (passwords_unobserved start (hsame _ _)).1,
    (passwords_unobserved start (hsame _ _)).2.2 rfl⟩

end Session

end Registry

end Enrollment
