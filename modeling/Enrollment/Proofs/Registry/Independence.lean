import Enrollment.Proofs.Ledger.Commutation
import Enrollment.Proofs.Registry.Accounts
import Enrollment.Proofs.Registry.Passwords

/-!
# Attempts in either order

What an attempt is answered depends on its own shape, on the judgement of its nonce, on its
signature and on whether its username has an account; what it leaves is its nonce presented, its
account made and its answer counted. For two attempts with different nonces and different usernames
none of this meets, whatever becomes of either. So they are answered alike in either order, and the
tables and the counts are the same afterwards; only the order of two new accounts differs, which a
table does not have.
-/

namespace Enrollment

/-! ## Counts -/

namespace RegistrationTally

/-- The counts after an attempt was answered. -/
def counting (t : RegistrationTally) : Except RegistrationError AccountInfo → RegistrationTally
  | .error (.invalid _) => { t with invalid := t.invalid + 1 }
  | .error .denied => { t with denied := t.denied + 1 }
  | .error (.account _) =>
      { t with authorized := t.authorized + 1, accountFailures := t.accountFailures + 1 }
  | .ok _ => { t with authorized := t.authorized + 1, accountsCreated := t.accountsCreated + 1 }

theorem counting_comm (t : RegistrationTally) (x y : Except RegistrationError AccountInfo) :
    (t.counting x).counting y = (t.counting y).counting x := by
  rcases x with (_ | _ | _) | _ <;> rcases y with (_ | _ | _) | _ <;> rfl

end RegistrationTally

/-! ## Accounts -/

namespace Directory

/-- Two directories that agree in all that an answer to an attempt depends on. -/
structure AgreeOn (d d' : Directory) (attempt : Attempt) : Prop where
  serverName_eq : d.serverName = d'.serverName
  tokenLifetime_eq : d.tokenLifetime = d'.tokenLifetime
  get?_eq : d.get? (d.userIdFor attempt.fields.username) =
    d'.get? (d'.userIdFor attempt.fields.username)

/-- Two directories of one server with the same accounts, in whatever order they were made. -/
structure SameAccounts (d d' : Directory) : Prop where
  serverName_eq : d.serverName = d'.serverName
  tokenLifetime_eq : d.tokenLifetime = d'.tokenLifetime
  records_perm : d.records.Perm d'.records
  get?_eq : ∀ userId, d.get? userId = d'.get? userId

variable {d d' : Directory}

theorem SameAccounts.refl (d : Directory) : d.SameAccounts d :=
  ⟨rfl, rfl, .refl _, fun _ => rfl⟩

theorem SameAccounts.withoutDraws (h : d.SameAccounts d') :
    d.withoutDraws.SameAccounts d'.withoutDraws where
  serverName_eq := h.serverName_eq
  tokenLifetime_eq := h.tokenLifetime_eq
  records_perm := h.records_perm.map _
  get?_eq userId := by rw [get?_withoutDraws, get?_withoutDraws, h.get?_eq]

variable {a b : Attempt} {drawn drawn' : Credentials}

theorem AgreeOn.register_eq (h : d.AgreeOn d' a) (drawn : Credentials) :
    (d.register a.account drawn).1 = (d'.register a.account drawn).1 := by
  have huserId : d.userIdFor a.fields.username = d'.userIdFor a.fields.username := by
    simp only [userIdFor, h.serverName_eq]
  have hinfo : d.infoFor a.account drawn = d'.infoFor a.account drawn := by
    simp only [infoFor, userIdFor, h.serverName_eq, h.tokenLifetime_eq]
  rw [Directory.register_eq, Directory.register_eq, h.get?_eq, huserId, hinfo]
  cases d'.get? (d'.userIdFor a.fields.username) <;> rfl

theorem serverName_answered (d : Directory) (a : Attempt) (drawn : Credentials)
    (x : Except RegistrationError AccountInfo) :
    (d.answered a drawn x).serverName = d.serverName := by
  cases x <;> rfl

theorem tokenLifetime_answered (d : Directory) (a : Attempt) (drawn : Credentials)
    (x : Except RegistrationError AccountInfo) :
    (d.answered a drawn x).tokenLifetime = d.tokenLifetime := by
  cases x <;> rfl

/-- A new account changes nothing for another username. -/
theorem agreeOn_answered (d : Directory) (hne : a.fields.username ≠ b.fields.username)
    (drawn : Credentials) (x : Except RegistrationError AccountInfo) :
    (d.answered a drawn x).AgreeOn d b where
  serverName_eq := d.serverName_answered a drawn x
  tokenLifetime_eq := d.tokenLifetime_answered a drawn x
  get?_eq := by
    cases x with
    | error e => rfl
    | ok info =>
        have hother : (a.record d.serverName drawn).userId ≠ d.userIdFor b.fields.username :=
          fun heq => hne (userIdFor_inj.mp heq)
        simp [get?, userIdFor] at hother ⊢
        simp [hother]

/-- Two answers to attempts with different usernames leave the same accounts in either order. -/
theorem sameAccounts_answered (d : Directory) (hne : a.fields.username ≠ b.fields.username)
    (x y : Except RegistrationError AccountInfo) :
    ((d.answered a drawn x).answered b drawn' y).SameAccounts
      ((d.answered b drawn' y).answered a drawn x) := by
  cases x with
  | error e => exact .refl _
  | ok info =>
      cases y with
      | error e => exact .refl _
      | ok info' =>
          refine ⟨rfl, rfl, .swap _ _ _, fun userId => ?_⟩
          have hne' : (a.record d.serverName drawn).userId ≠
              (b.record d.serverName drawn').userId :=
            fun heq => hne (userIdFor_inj (d := d).mp heq)
          simp only [answered_ok, get?, List.find?_cons]
          cases ha : (a.record d.serverName drawn).userId == userId with
          | false => rfl
          | true =>
              have hb : ((b.record d.serverName drawn').userId == userId) = false := by
                rw [← beq_iff_eq.mp ha]
                exact beq_false_of_ne hne'.symm
              simp only [hb]

end Directory

namespace Registry

variable {r r' : Registry} {now : Instant} {a b : Attempt} {drawn drawn' : Credentials}

/-! ## What an answer depends on -/

/-- Two registries that agree in all that an answer to an attempt depends on. -/
structure AgreeOn (r r' : Registry) (now : Instant) (attempt : Attempt) : Prop where
  secret_eq : r.authority.secret = r'.authority.secret
  judge_eq : r.ledger.judge now attempt.fields.nonce = r'.ledger.judge now attempt.fields.nonce
  outage_eq : r.outage = r'.outage
  directory : r.directory.AgreeOn r'.directory attempt

theorem createAccount_fst (r : Registry) (account : NewAccount) (drawn : Credentials) :
    (r.createAccount account drawn).1 =
      match r.outage with
      | some reason => .error (.unavailable reason)
      | none => (r.directory.register account drawn).1 := by
  cases houtage : r.outage with
  | some reason => rw [createAccount_of_outage houtage]
  | none => rw [createAccount_of_reach houtage]

theorem AgreeOn.register_eq {attempt : Attempt} (h : r.AgreeOn r' now attempt)
    (drawn : Credentials) :
    (r.register (.ok now) attempt drawn).1 = (r'.register (.ok now) attempt drawn).1 := by
  have hadmits : r.Admits now attempt ↔ r'.Admits now attempt := by
    unfold Admits
    rw [h.judge_eq, h.secret_eq]
  cases hvalid : attempt.validate with
  | error e => rw [register_of_invalid hvalid, register_of_invalid hvalid]
  | ok _ =>
      by_cases hadmitted : r.Admits now attempt
      · rw [register_of_admitted hvalid hadmitted,
          register_of_admitted hvalid (hadmits.mp hadmitted)]
        have haccount : ((r.present now attempt).countAuthorized.createAccount
            attempt.account drawn).1 =
              ((r'.present now attempt).countAuthorized.createAccount attempt.account drawn).1 := by
          rw [createAccount_fst, createAccount_fst]
          change (match r.outage with | some _ => _ | none => (r.directory.register _ _).1) =
            match r'.outage with | some _ => _ | none => (r'.directory.register _ _).1
          rw [h.outage_eq, h.directory.register_eq]
        exact congrArg (fun answer => Except.ok (Verdict.mk (Except.mapError .account answer) none))
          haccount
      · rw [register_of_rejected hvalid hadmitted,
          register_of_rejected hvalid (hadmits.not.mp hadmitted)]
        unfold rejection
        rw [h.judge_eq]

/-! ## What an answer leaves -/

/-- The ledger after the nonce of an attempt was presented, if its shape is right. -/
def presented (now : Instant) (attempt : Attempt) (l : Ledger) : Ledger :=
  match attempt.validate with
  | .ok () => (l.consumeAt now attempt.fields.nonce).2
  | .error _ => l

/-- The registry after an attempt was answered. -/
def settle (r : Registry) (now : Instant) (attempt : Attempt) (drawn : Credentials)
    (answer : Except RegistrationError AccountInfo) : Registry where
  authority := { r.authority with ledger := presented now attempt r.ledger }
  directory := r.directory.answered attempt drawn answer
  outage := r.outage
  tally := r.tally.counting answer

theorem createAccount_eq_counting (r : Registry) (attempt : Attempt) (drawn : Credentials) :
    (r.countAuthorized.createAccount attempt.account drawn).2 =
      let answer := (r.countAuthorized.createAccount attempt.account drawn).1.mapError .account
      { r with
        directory := r.directory.answered attempt drawn answer
        tally := r.tally.counting answer } := by
  obtain ⟨authority, directory, outage, tally⟩ := r
  cases outage with
  | some reason => rfl
  | none =>
      rw [createAccount_of_reach rfl]
      simp only [countAuthorized, Directory.register_eq]
      cases directory.get? (directory.userIdFor attempt.fields.username) <;> rfl

/-- An attempt leaves its nonce presented, its account made and its answer counted. -/
theorem register_eq_settle (r : Registry) (now : Instant) (attempt : Attempt)
    (drawn : Credentials) : ∃ v,
      r.register (.ok now) attempt drawn = (.ok v, r.settle now attempt drawn v.answer) := by
  unfold settle presented
  cases hvalid : attempt.validate with
  | error e =>
      rw [register_of_invalid hvalid]
      exact ⟨_, rfl⟩
  | ok _ =>
      by_cases hadmits : r.Admits now attempt
      · rw [register_of_admitted hvalid hadmits]
        refine ⟨_, Prod.ext rfl ?_⟩
        exact createAccount_eq_counting (r.present now attempt) attempt drawn
      · rw [register_of_rejected hvalid hadmits]
        exact ⟨_, rfl⟩

theorem presented_comm (hnonce : a.fields.nonce ≠ b.fields.nonce) (l : Ledger) :
    presented now b (presented now a l) = presented now a (presented now b l) := by
  unfold presented
  cases a.validate <;> cases b.validate <;> try rfl
  exact Ledger.consumeAt_comm l now hnonce

theorem judge_presented_of_ne (hnonce : a.fields.nonce ≠ b.fields.nonce) (l : Ledger) :
    (presented now a l).judge now b.fields.nonce = l.judge now b.fields.nonce := by
  unfold presented
  cases a.validate with
  | error e => rfl
  | ok _ => exact Ledger.judge_consumeAt_of_ne l now hnonce

/-- An answer to one attempt changes nothing that the answer to the other depends on. -/
theorem agreeOn_settle (r : Registry) (hnonce : a.fields.nonce ≠ b.fields.nonce)
    (husername : a.fields.username ≠ b.fields.username)
    (x : Except RegistrationError AccountInfo) : (r.settle now a drawn x).AgreeOn r now b where
  secret_eq := rfl
  judge_eq := judge_presented_of_ne hnonce r.ledger
  outage_eq := rfl
  directory := r.directory.agreeOn_answered husername drawn x

/-! ## Two attempts -/

/-- Two registries with one secret, the same nonces, the same accounts and the same counts. -/
structure SameTables (r r' : Registry) : Prop where
  authority_eq : r.authority = r'.authority
  accounts : r.directory.SameAccounts r'.directory
  outage_eq : r.outage = r'.outage
  tally_eq : r.tally = r'.tally

theorem SameTables.refl (r : Registry) : r.SameTables r :=
  ⟨rfl, .refl _, rfl, rfl⟩

theorem SameTables.withoutDraws (h : r.SameTables r') :
    r.withoutDraws.SameTables r'.withoutDraws :=
  ⟨h.authority_eq, h.accounts.withoutDraws, h.outage_eq, h.tally_eq⟩

/-- Without a reading an attempt is refused for its shape, or changes nothing. -/
theorem register_unread (r : Registry) (e : TimeOverflow) (attempt : Attempt)
    (drawn : Credentials) : r.register (.error e) attempt drawn =
      match attempt.validate with
      | .error x => (.ok ⟨.error (.invalid x), none⟩, r.countInvalid)
      | .ok () => (.error e, r) := by
  cases hvalid : attempt.validate with
  | error x => rw [register_of_invalid hvalid]
  | ok _ => rw [register_of_unread hvalid]

/-- With the same drawn for each, two attempts in either order are answered alike. -/
theorem register_comm (r : Registry) (reading : Reading)
    (hnonce : a.fields.nonce ≠ b.fields.nonce) (husername : a.fields.username ≠ b.fields.username)
    (drawn drawn' : Credentials) :
    let first := r.register reading a drawn
    let second := first.2.register reading b drawn'
    let first' := r.register reading b drawn'
    let second' := first'.2.register reading a drawn
    first.1 = second'.1 ∧ first'.1 = second.1 ∧ second.2.SameTables second'.2 := by
  cases reading with
  | error e =>
      simp only [register_unread]
      cases a.validate <;> cases b.validate <;> exact ⟨rfl, rfl, .refl _⟩
  | ok now =>
      obtain ⟨v, hv⟩ := r.register_eq_settle now a drawn
      obtain ⟨v', hv'⟩ := r.register_eq_settle now b drawn'
      obtain ⟨w, hw⟩ := (r.settle now b drawn' v'.answer).register_eq_settle now a drawn
      obtain ⟨w', hw'⟩ := (r.settle now a drawn v.answer).register_eq_settle now b drawn'
      have hagree : (r.settle now b drawn' v'.answer).AgreeOn r now a :=
        r.agreeOn_settle hnonce.symm husername.symm v'.answer
      have hagree' : (r.settle now a drawn v.answer).AgreeOn r now b :=
        r.agreeOn_settle hnonce husername v.answer
      have hsame := hagree.register_eq drawn
      have hsame' := hagree'.register_eq drawn'
      rw [hw, hv] at hsame
      rw [hw', hv'] at hsame'
      obtain rfl : w = v := Except.ok.inj hsame
      obtain rfl : w' = v' := Except.ok.inj hsame'
      simp only [hv, hv', hw, hw', true_and]
      refine ⟨?_, r.directory.sameAccounts_answered husername _ _, rfl, r.tally.counting_comm _ _⟩
      exact congrArg (fun ledger => { r.authority with ledger }) (presented_comm hnonce r.ledger)

/-- Two registries that differ in what was drawn answer alike up to what is drawn. -/
theorem register_of_like (hlike : r.withoutDraws = r'.withoutDraws) (reading : Reading)
    (attempt : Attempt) (drawn drawn' : Credentials) :
    (r.register reading attempt drawn).1.map Verdict.withoutDraws =
        (r'.register reading attempt drawn').1.map Verdict.withoutDraws ∧
      (r.register reading attempt drawn).2.withoutDraws =
        (r'.register reading attempt drawn').2.withoutDraws := by
  obtain ⟨hanswer, hleft⟩ := r.register_withoutDraws reading attempt drawn drawn
  obtain ⟨hanswer', hleft'⟩ := r'.register_withoutDraws reading attempt drawn' drawn
  rw [hlike] at hanswer hleft
  exact ⟨hanswer.symm.trans hanswer', hleft.symm.trans hleft'⟩

/-- Two attempts with different nonces and different usernames, presented to any registry at one
reading of the clock, are answered alike in either order, the log says the same of each, and they
leave the same nonces, accounts and counts, all up to what is drawn for new accounts. If the same is
drawn in both orders, nothing differs but the order of the accounts. -/
theorem registrations_commute (r : Registry) (reading : Reading) {a b : Attempt}
    (hnonce : a.fields.nonce ≠ b.fields.nonce) (husername : a.fields.username ≠ b.fields.username)
    (drawnA drawnB drawnA' drawnB' : Credentials) :
    let a₁ := r.register reading a drawnA
    let b₂ := a₁.2.register reading b drawnB
    let b₁ := r.register reading b drawnB'
    let a₂ := b₁.2.register reading a drawnA'
    a₁.1.map Verdict.withoutDraws = a₂.1.map Verdict.withoutDraws ∧
      b₁.1.map Verdict.withoutDraws = b₂.1.map Verdict.withoutDraws ∧
      b₂.2.withoutDraws.SameTables a₂.2.withoutDraws ∧
      (drawnA = drawnA' → drawnB = drawnB' →
        a₁.1 = a₂.1 ∧ b₁.1 = b₂.1 ∧ b₂.2.SameTables a₂.2) := by
  intro a₁ b₂ b₁ a₂
  obtain ⟨hfirst, hsecond, htables⟩ := r.register_comm reading hnonce husername drawnA drawnB
  -- The other order with what was drawn in this one.
  let b₁' := r.register reading b drawnB
  let a₂' := b₁'.2.register reading a drawnA
  obtain ⟨hb, hbLeft⟩ : b₁.1.map Verdict.withoutDraws = b₁'.1.map Verdict.withoutDraws ∧
      b₁.2.withoutDraws = b₁'.2.withoutDraws := register_of_like rfl reading b _ _
  obtain ⟨ha, haLeft⟩ : a₂.1.map Verdict.withoutDraws = a₂'.1.map Verdict.withoutDraws ∧
      a₂.2.withoutDraws = a₂'.2.withoutDraws := register_of_like hbLeft reading a _ _
  refine ⟨?_, ?_, ?_, ?_⟩
  · rw [ha]
    exact congrArg _ hfirst
  · rw [hb]
    exact congrArg _ hsecond
  · rw [haLeft]
    exact htables.withoutDraws
  · rintro rfl rfl
    exact ⟨hfirst, hsecond, htables⟩

/-- A signed attempt and one whose nonce has expired, which leaves when it is presented. -/
theorem signed_and_expired_commute :
    let secret : Secret := ⟨[1], by decide⟩
    let live : Nonce := ⟨"live", .origin, ⟨10, by decide⟩, false⟩
    let expired : Nonce := ⟨"expired", .origin, .origin, false⟩
    let ledger : Ledger := ⟨.ofSeconds 10, 10, [live, expired], none, {}⟩
    let r := create ledger secret (.create "server" (.ofSeconds 300))
    let fields : Fields := ⟨"live", "alice", "hunter22", true, none⟩
    let a : Attempt := ⟨fields, secret.signFields fields, none⟩
    let b : Attempt := ⟨⟨"expired", "bob", "hunter22", false, none⟩, "", none⟩
    a.fields.nonce ≠ b.fields.nonce ∧ a.fields.username ≠ b.fields.username ∧
      (r.register (.ok .origin) a ⟨"d", "a", "r"⟩).1.map Verdict.withoutDraws =
        ((r.register (.ok .origin) b default).2.register (.ok .origin) a
          ⟨"D", "A", "R"⟩).1.map Verdict.withoutDraws ∧
      (r.register (.ok .origin) b default).1.map Verdict.withoutDraws =
        ((r.register (.ok .origin) a ⟨"d", "a", "r"⟩).2.register (.ok .origin) b
          default).1.map Verdict.withoutDraws := by
  intro secret live expired ledger r fields a b
  have hnonce : a.fields.nonce ≠ b.fields.nonce := by decide
  have husername : a.fields.username ≠ b.fields.username := by decide
  obtain ⟨ha, hb, -, -⟩ := registrations_commute r (.ok .origin) hnonce husername
    ⟨"d", "a", "r"⟩ default ⟨"D", "A", "R"⟩ default
  exact ⟨hnonce, husername, ha, hb⟩

end Registry

end Enrollment
