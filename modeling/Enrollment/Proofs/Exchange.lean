import Enrollment.Proofs.Gateway.Carriage
import Enrollment.Proofs.Gateway.Enabled
import Enrollment.Proofs.Ledger.Issuance

/-!
# From a prover to an account

A prover and a gateway that hold the same secret agree. A prover's calls reach the gateway as
requests with the same method, path and body; what the gateway answers reaches the prover with the
same status and body. Whatever happens at the gateway before and between the two calls, the prover
is told that there is no room for a nonce, that its request has the wrong shape, or that the
username is taken, each exactly if it is so, and is otherwise given the account that was made for
it. It is never denied, whatever texts it asks with.
-/

namespace Enrollment

namespace Prover

/-! ## What a prover makes of answers -/

/-- What reaches a prover of an answer that is sent. -/
def Reply.ofResponse (r : Http.Response) : Reply :=
  .answer r.status (Utf8.encode r.body)

theorem readNonce_issued {token : String} (hne : token ≠ "") :
    readNonce (.ofResponse (Gateway.respondNonce (.ok token))) = .ok token := by
  have hnonempty : token.isEmpty = false := by simpa using hne
  change readNonce (.answer 200 (Utf8.encode (Wire.nonceResponse.render ⟨token⟩))) = _
  simp only [readNonce, Json.Format.parse_render Wire.readable_nonceResponse, hnonempty]
  rfl

theorem readNonce_refused {r : Gateway.Refusal} (hstatus : Http.isSuccess r.status = false) :
    readNonce (.ofResponse r.response) =
      .error (.refused r.status (Wire.errorResponse.render r.body)) := by
  change readNonce (.answer r.status (Utf8.encode (Wire.errorResponse.render r.body))) = _
  simp only [readNonce, hstatus, Utf8.decodeLossy_encode, Bool.false_eq_true, if_false]

theorem readAccount_ok (info : AccountInfo) (denialStatus : UInt16) :
    readAccount (.ofResponse (Gateway.respond denialStatus (.ok info))) = .ok info := by
  change readAccount (.answer 200 (Utf8.encode (Wire.accountInfo.render info))) = _
  simp only [readAccount, Json.Format.parse_render Wire.readable_accountInfo]
  rfl

theorem readAccount_refused {r : Gateway.Refusal} (hstatus : Http.isSuccess r.status = false) :
    readAccount (.ofResponse r.response) = .error (.rejected r.status r.errcode r.message) := by
  change readAccount (.answer r.status (Utf8.encode (Wire.errorResponse.render r.body))) = _
  simp only [readAccount, hstatus, rejection, Utf8.decodeLossy_encode,
    Json.Format.parse_render Wire.readable_errorResponse, Bool.false_eq_true, if_false]
  rfl

end Prover

namespace Gateway

open Prover (Call nonceCall submission readNonce readAccount)

/-! ## How a submission is settled -/

/-- How a signed attempt is settled whose nonce may be used: what the prover is told, and what is
left. -/
structure Settles (registry : Registry) (now : Instant) (attempt : Attempt) (drawn : Credentials)
    (result : Except Prover.Failure AccountInfo) (left : Registry) : Prop where
  invalid : ∀ e, attempt.validate = .error e →
    result = .error (.rejected 400 "M_INVALID_PARAM" e.message) ∧
      left.ledger.judge now attempt.fields.nonce = .ok ()
  userInUse : attempt.validate = .ok () → registry.Taken attempt →
    result = .error (.rejected 400 "M_USER_IN_USE" "User ID already taken")
  ok : attempt.validate = .ok () → ¬ registry.Taken attempt →
    ∃ info, registry.directory.register attempt.account drawn = (.ok info, left.directory) ∧
      result = .ok info ∧ info.userId = registry.directory.userIdFor attempt.fields.username
  not_denied : ∀ status message, result ≠ .error (.rejected status "M_FORBIDDEN" message)

/-- A signed attempt whose nonce may be used is settled by its shape and its username alone. -/
theorem register_settles {registry : Registry} {now : Instant} {attempt : Attempt}
    (hadmits : registry.Admits now attempt) (houtage : registry.outage = none)
    (drawn : Credentials) :
    ∃ v, (registry.register (.ok now) attempt drawn).1 = .ok v ∧ ∀ denialStatus,
      Settles registry now attempt drawn
        (readAccount (.ofResponse (respond denialStatus v.answer)))
        (registry.register (.ok now) attempt drawn).2 := by
  obtain ⟨v, hv, hanswers⟩ := Registry.register_answers registry now attempt drawn
  refine ⟨v, hv, fun denialStatus => ?_⟩
  cases hvalid : attempt.validate with
  | error e =>
      have hresult : readAccount (.ofResponse (respond denialStatus v.answer)) =
          .error (.rejected 400 "M_INVALID_PARAM" e.message) := by
        rw [(hanswers.invalid_iff e).mpr hvalid]
        exact Prover.readAccount_refused (r := .invalidParam e.message) rfl
      rw [hresult]
      refine ⟨?_, by simp [hvalid], by simp [hvalid], by simp⟩
      rintro e' he'
      obtain rfl : e = e' := Except.error.inj (hvalid.symm.trans he')
      rw [Registry.register_of_invalid hvalid]
      exact ⟨rfl, hadmits.1⟩
  | ok _ =>
      by_cases htaken : registry.Taken attempt
      · have hresult : readAccount (.ofResponse (respond denialStatus v.answer)) =
            .error (.rejected 400 "M_USER_IN_USE" "User ID already taken") := by
          rw [(hanswers.userInUse_iff _).mpr ⟨hvalid, hadmits, houtage, htaken, rfl⟩]
          exact Prover.readAccount_refused (r := .userInUse) rfl
        rw [hresult]
        exact ⟨by simp [hvalid], fun _ _ => rfl, fun _ hfree => absurd htaken hfree, by simp⟩
      · have hanswer := (hanswers.ok_iff _).mpr ⟨hvalid, hadmits, houtage, htaken, rfl⟩
        have hdirectory := hanswers.directory_eq
        have hfree : registry.directory.get?
            (registry.directory.userIdFor attempt.fields.username) = none :=
          not_ne_iff.mp (mt Registry.taken_iff.mpr htaken)
        rw [hanswer] at hdirectory
        rw [hanswer, Prover.readAccount_ok]
        refine ⟨by simp [hvalid], fun _ htaken' => absurd htaken' htaken, fun _ _ => ?_, by simp⟩
        refine ⟨_, ?_, rfl, rfl⟩
        rw [hdirectory, Directory.register_eq, hfree]
        rfl

end Gateway

namespace Prover

open Gateway (Session Settles)
open Gateway.Session (Unpresented)

/-! ## Carrying calls to a gateway -/

/-- What reaches a prover of an action's answer. -/
def Reply.ofAnswer : Except TimeOverflow Gateway.Answer → Reply
  | .ok (.reply r) => .ofResponse r.response
  | _ => .lost

theorem Reply.ofAnswer_of_response {result : Except TimeOverflow Gateway.Reply}
    {response : Http.Response} (hresponse : result.map (·.response) = .ok response) :
    Reply.ofAnswer (result.map .reply) = .ofResponse response := by
  cases result with
  | error e => cases hresponse
  | ok reply =>
      obtain rfl := Except.ok.inj hresponse
      rfl

/-- How a call travels: what else happens at the gateway before it arrives, what it finds there, and
the request that it becomes. -/
structure Passage where
  before : List Gateway.Action
  found : Gateway.Circumstances
  request : Call → Http.Request

namespace Passage

variable (p : Passage) (s : Session) (call : Call)

/-- The gateway as a call finds it. -/
def arrival : Session :=
  outcome Session.step s p.before

/-- The reply to a call, and the gateway that it leaves. -/
def cross : Reply × Session :=
  let (answer, s) := (p.arrival s).step (.request p.found (p.request call))
  (.ofAnswer answer, s)

/-- A call arrives as it was sent, at a moment that can be told, and is not held back. -/
structure Delivers (now : Instant) : Prop where
  carries : Gateway.Carries call (p.request call)
  passes : (p.arrival s).gateway.Passes p.found (p.request call)
  read_eq : (p.arrival s).clock.read = .ok now

variable {p s} {now : Instant} {registry : Registry}
  (hregistry : (p.arrival s).gateway.registry = some registry)

include hregistry in
theorem cross_nonceCall (hdelivers : p.Delivers s nonceCall now)
    {issued : Except TableFull String}
    (hissued : (registry.ledger.issue (.ok now) p.found.token).1 = .ok issued) :
    (p.cross s nonceCall).1 = .ofResponse (Gateway.respondNonce issued) ∧
      ∃ left, (p.cross s nonceCall).2.gateway.registry = some left ∧
        left.ledger = (registry.ledger.issue (.ok now) p.found.token).2 := by
  obtain ⟨hanswer, hleft⟩ :=
    Gateway.handle_nonceCall hregistry hdelivers.carries hdelivers.passes (.ok now)
  have hissue : (registry.issue (.ok now) p.found.token).1 = .ok issued := by
    rw [Registry.issue_eq]
    exact hissued
  rw [hissue] at hanswer
  simp only [cross, Session.step, hdelivers.read_eq]
  exact ⟨Reply.ofAnswer_of_response hanswer, _, hleft,
    congrArg Authority.ledger (Registry.authority_issue _ _ _)⟩

include hregistry in
theorem cross_submission {attempt : Attempt}
    (hdelivers : p.Delivers s (submission attempt) now) {v : Verdict}
    (hverdict : (registry.register (.ok now) attempt p.found.drawn).1 = .ok v) :
    ∃ denialStatus, (p.cross s (submission attempt)).1 =
        .ofResponse (Gateway.respond denialStatus v.answer) ∧
      (p.cross s (submission attempt)).2.gateway.registry =
        some (registry.register (.ok now) attempt p.found.drawn).2 := by
  obtain ⟨hanswer, hleft⟩ :=
    Gateway.handle_submission hregistry hdelivers.carries hdelivers.passes (.ok now)
  rw [hverdict] at hanswer
  simp only [cross, Session.step, hdelivers.read_eq]
  exact ⟨_, Reply.ofAnswer_of_response hanswer, hleft⟩

end Passage

/-- Carries a call on the next passage. A call for which there is none is lost. -/
def carry (call : Call) : StateM (Session × List Passage) Reply := fun (s, passages) =>
  match passages with
  | [] => (.lost, s, [])
  | p :: rest =>
      let (reply, s) := p.cross s call
      (reply, s, rest)

/-- What a prover is told that asks for an account over two passages, and the gateway it leaves. -/
def exchange (p : Prover) (r : AccountRequest) (s : Session) (fetch submit : Passage) :
    Except Failure AccountInfo × Session :=
  let (result, s, _) := (p.register carry r).run (s, [fetch, submit])
  (result, s)

/-- The attempt that a prover makes of a request when it is given a token. -/
def attemptFor (p : Prover) (r : AccountRequest) (token : String) : Attempt :=
  p.attempt (r.fields token) r.displayName

variable {p : Prover} {r : AccountRequest} {s : Session} {fetch submit : Passage}

theorem exchange_eq (p : Prover) (r : AccountRequest) (s : Session) (fetch submit : Passage) :
    p.exchange r s fetch submit =
      let (reply, fetched) := fetch.cross s nonceCall
      match readNonce reply with
      | .error fault => (.error (.nonce fault), fetched)
      | .ok token =>
          let (reply, left) := submit.cross fetched (submission (p.attemptFor r token))
          (readAccount reply, left) := by
  have hcarried : (carry nonceCall).run (s, [fetch, submit]) =
      pure ((fetch.cross s nonceCall).1, (fetch.cross s nonceCall).2, [submit]) := rfl
  simp only [exchange, register, fetchNonce, StateT.run_bind, bind_assoc, pure_bind, hcarried]
  generalize fetch.cross s nonceCall = crossed
  cases readNonce crossed.1 <;> rfl

/-- Without a nonce nothing is submitted. -/
theorem exchange_of_fault {fault : NonceFault}
    (hfetched : readNonce (fetch.cross s nonceCall).1 = .error fault) :
    p.exchange r s fetch submit = (.error (.nonce fault), (fetch.cross s nonceCall).2) := by
  rw [exchange_eq]
  generalize fetch.cross s nonceCall = crossed at hfetched ⊢
  simp only [hfetched]

theorem exchange_of_nonce {token : String}
    (hfetched : readNonce (fetch.cross s nonceCall).1 = .ok token) :
    let fetched := (fetch.cross s nonceCall).2
    p.exchange r s fetch submit =
      (readAccount (submit.cross fetched (submission (p.attemptFor r token))).1,
        (submit.cross fetched (submission (p.attemptFor r token))).2) := by
  rw [exchange_eq]
  generalize fetch.cross s nonceCall = crossed at hfetched ⊢
  simp only [hfetched]

/-! ## Agreement -/

namespace Passage

variable {c : Config} {secret : Secret} {registry : Registry} {p : Passage} {s : Session}
  {now : Instant}

theorem readNonce_of_full (henabled : (p.arrival s).Enabled c secret registry)
    (hdelivers : p.Delivers s nonceCall now)
    (hfull : registry.ledger.capacity ≤ (registry.ledger.live now).length) :
    readNonce (p.cross s nonceCall).1 = .error
      (.refused 503 (Wire.errorResponse.render Gateway.Refusal.noncesExhausted.body)) := by
  have hreply := cross_nonceCall henabled.registry_eq hdelivers
    (henabled.coherent.issue_eq_full_iff.mpr ⟨hfull, rfl⟩)
  rw [hreply.1]
  exact readNonce_refused rfl

/-- Where there is room the prover reads the nonce that was drawn, which it may use until it
expires. -/
theorem readNonce_of_room (henabled : (p.arrival s).Enabled c secret registry)
    (hdelivers : p.Delivers s nonceCall now)
    (hroom : (registry.ledger.live now).length < registry.ledger.capacity)
    (htoken : p.found.token ≠ "") {expiry : Instant}
    (hafter : now.after? c.registration.nonceLifetime = some expiry) :
    readNonce (p.cross s nonceCall).1 = .ok p.found.token ∧
      ∃ issued, (p.cross s nonceCall).2.Enabled c secret issued ∧
        ∀ limit : Span, limit.nanos < expiry.nanos → Ledger.Session.UsableUntil
          ⟨(p.cross s nonceCall).2.clock, issued.ledger⟩ p.found.token limit := by
  rw [← henabled.lifetime_eq] at hafter
  have hissued := henabled.coherent.issue_eq_issued hroom hafter p.found.token
  obtain ⟨hreply, left, hleft, hledger⟩ := cross_nonceCall henabled.registry_eq hdelivers hissued
  obtain ⟨issued, hend⟩ := henabled.outcome [.request p.found (p.request nonceCall)]
  obtain rfl : left = issued := Option.some.inj (hleft.symm.trans hend.registry_eq)
  refine ⟨?_, left, hend, fun limit hlimit => ?_⟩
  · rw [hreply]
    exact readNonce_issued htoken
  · -- To the ledger, the call is the issue of the token that was drawn.
    have hstep : Ledger.Session.step ⟨(p.arrival s).clock, registry.ledger⟩
        (.issue p.found.token) =
        (.ok (.issued p.found.token), ⟨(p.cross s nonceCall).2.clock, left.ledger⟩) := by
      simp only [Ledger.Session.step, hdelivers.read_eq, hissued, ← hledger]
      rfl
    rw [Instant.after?_eq_some_iff.mp hafter, Clock.read_eq_ok_iff.mp hdelivers.read_eq] at hlimit
    have husable := Ledger.Session.usableUntil_of_issued (congrArg Prod.fst hstep) hlimit
    rw [hstep] at husable
    exact husable

/-- A signed attempt whose nonce may be used until after it arrives is settled. -/
theorem cross_settles (henabled : s.Enabled c secret registry) {attempt : Attempt}
    (hdelivers : p.Delivers s (submission attempt) now)
    (hunpresented : Unpresented c.limits.maxRequestSize p.before attempt.fields.nonce)
    (husable : Ledger.Session.UsableUntil ⟨s.clock, registry.ledger⟩ attempt.fields.nonce
      (p.arrival s).clock.elapsed)
    (hsigned : attempt.mac = secret.signFields attempt.fields) :
    ∃ found left, (p.arrival s).Enabled c secret found ∧
      (p.cross s (submission attempt)).2.gateway.registry = some left ∧
      Settles found now attempt p.found.drawn (readAccount (p.cross s (submission attempt)).1)
        left := by
  obtain ⟨found, hfound, hwaiting⟩ :=
    henabled.usable_outcome hunpresented (Nat.le_refl _) husable
  -- The nonce is usable and the signature is that of the secret they share: nothing is denied.
  have hadmits : found.Admits now attempt := by
    refine ⟨hwaiting.judge hdelivers.read_eq, ?_⟩
    rw [Secret.verify_iff, hfound.secret_eq]
    exact hsigned
  obtain ⟨v, hverdict, hsettles⟩ :=
    Gateway.register_settles hadmits hfound.outage_eq p.found.drawn
  obtain ⟨denialStatus, hreply, hleft⟩ := cross_submission hfound.registry_eq hdelivers hverdict
  rw [hreply]
  exact ⟨found, _, hfound, hleft, hsettles denialStatus⟩

end Passage

/-- A prover that holds the secret of a gateway asks it for an account, with any request, in any
state that the gateway reaches. The call for a nonce is refused if the live nonces fill the ledger.
Else the request is settled, by its shape and its username alone, once it arrives before the nonce
expires and before anyone else presents that nonce in an attempt of the right shape. -/
theorem exchange_settles {config : Config} {gateway : Gateway} {p : Prover}
    (hcreate : Gateway.create config = .ok gateway)
    (henabled : config.registration.enabled = true)
    (hsecret : config.registration.secret = .ok p.secret) (clock : Clock) (r : AccountRequest)
    (fetch submit : Passage) {now : Instant}
    (hfetch : fetch.Delivers ⟨clock, gateway⟩ nonceCall now) (htoken : fetch.found.token ≠ "") :
    let start : Session := ⟨clock, gateway⟩
    let fetched := (fetch.cross start nonceCall).2
    let signed : Fields :=
      { nonce := fetch.found.token, username := r.username, password := r.password
        admin := r.admin, userType := r.userType }
    let attempt : Attempt :=
      { fields := signed, mac := p.secret.signFields signed, displayName := r.displayName }
    let ended := p.exchange r start fetch submit
    ∃ registry, (fetch.arrival start).gateway.registry = some registry ∧
      (registry.ledger.capacity ≤ (registry.ledger.live now).length →
        ended.1 = .error (.nonce (.refused 503
          (Wire.errorResponse.render Gateway.Refusal.noncesExhausted.body)))) ∧
      ((registry.ledger.live now).length < registry.ledger.capacity → ∀ later expiry,
        submit.Delivers fetched (submission attempt) later →
        now.after? config.registration.nonceLifetime = some expiry → later < expiry →
        Unpresented config.limits.maxRequestSize submit.before fetch.found.token →
        ∃ found left, (submit.arrival fetched).gateway.registry = some found ∧
          ended.2.gateway.registry = some left ∧
          found.directory.serverName = config.registration.serverName ∧
          Settles found later attempt submit.found.drawn ended.1 left) := by
  intro start fetched signed attempt ended
  obtain ⟨created, hcreated⟩ := Session.enabled_of_create hcreate henabled hsecret clock
  obtain ⟨registry, hregistry⟩ := hcreated.outcome fetch.before
  refine ⟨registry, hregistry.registry_eq, fun hfull => ?_, ?_⟩
  · exact congrArg Prod.fst
      (exchange_of_fault (Passage.readNonce_of_full hregistry hfetch hfull))
  · intro hroom later expiry hsubmit hafter hlater hunpresented
    obtain ⟨hnonce, issued, hissued, husable⟩ :=
      Passage.readNonce_of_room hregistry hfetch hroom htoken hafter
    -- The nonce outlasts the run between the two calls.
    have hintime : (submit.arrival fetched).clock.elapsed.nanos < expiry.nanos :=
      Clock.read_eq_ok_iff.mp hsubmit.read_eq ▸ hlater
    obtain ⟨found, left, hfound, hleft, hsettles⟩ :=
      Passage.cross_settles hissued hsubmit hunpresented (husable _ hintime) rfl
    refine ⟨found, left, hfound.registry_eq, ?_, hfound.serverName_eq, ?_⟩
    · rw [← hleft]
      exact congrArg (·.2.gateway.registry) (exchange_of_nonce hnonce)
    · rw [show ended = _ from exchange_of_nonce hnonce]
      exact hsettles

/-- With an empty user type and a password beyond ASCII, an account is made. -/
theorem exchange_makes_account_of_alice :
    let config : Config := { registration := { enabled := true, sharedSecret := some "secret" } }
    let p : Prover := ⟨defaultUrl, ⟨Utf8.encode "secret", by decide⟩⟩
    let r : AccountRequest := { username := "alice", password := "päß", userType := some "" }
    let passage : Passage :=
      { before := []
        found := ⟨0, "nonce", ⟨"device", "access", "refresh"⟩, 0, 0⟩
        request := fun call => ⟨call.method, call.path,
          [("content-type", Utf8.encode "application/json")], Utf8.encode (call.body.getD ""),
          some .localhost, .zero⟩ }
    ∃ gateway, Gateway.create config = .ok gateway ∧
      ∃ info, (p.exchange r ⟨.start, gateway⟩ passage passage).1 = .ok info ∧
        info.userId = "@alice:localhost" := by
  intro config p r passage
  have hcarries : ∀ call : Call, (passage.request call).path = call.path →
      Gateway.Carries call (passage.request call) := fun call hpath =>
    ⟨rfl, hpath, rfl, fun _ => rfl, fun length hlength => by cases hlength⟩
  let gateway : Gateway :=
    ⟨config, some (.create ⟨.ofSeconds 60, 10000, [], none, {}⟩ p.secret
      (.create "localhost" (.ofSeconds 3600))), .create {}, {}⟩
  have hcreate : Gateway.create config = .ok gateway := by decide +kernel
  have hsecret : config.registration.secret = .ok p.secret := by decide +kernel
  have hfetch : passage.Delivers ⟨.start, gateway⟩ nonceCall .origin :=
    ⟨hcarries _ (by decide), ⟨by decide +kernel, by decide, by decide, by decide⟩, by decide⟩
  obtain ⟨registry, hregistry, -, hroom⟩ :=
    exchange_settles hcreate rfl hsecret .start r passage passage hfetch (by decide)
  obtain rfl := Option.some.inj hregistry
  -- The state between the two calls gets a name, so that no step below computes it again.
  obtain ⟨fetched, hfetched⟩ :
      ∃ fetched, (passage.cross ⟨.start, gateway⟩ nonceCall).2 = fetched := ⟨_, rfl⟩
  simp only [hfetched] at hroom
  let submitted := passage.request (submission (p.attemptFor r "nonce"))
  have hconfig : fetched.gateway.config = config := by
    rw [← hfetched]
    exact Gateway.Session.config_step _ (.request passage.found (passage.request nonceCall))
  have hread : fetched.clock.read = .ok .origin := by
    rw [← hfetched]
    decide
  have hunlimited : (fetched.gateway.checkRate 0 submitted).1 = .ok none := by
    rw [← hfetched]
    decide +kernel
  have hempty : fetched.gateway.registry.map (·.directory.records) = some [] := by
    rw [← hfetched]
    decide +kernel
  have htimely : Gateway.isLate fetched.gateway.config.timeouts.request .zero = false := by
    rw [hconfig]
    decide
  have hlimit : fetched.gateway.config.limits.maxRequestSize.toNat = 65536 := by
    rw [hconfig]
    decide
  have hfits : submitted.body.length ≤ 65536 := by decide +kernel
  have hpasses : fetched.gateway.Passes passage.found submitted :=
    ⟨hunlimited, htimely, hlimit.symm ▸ hfits, Nat.le_trans hfits (by decide)⟩
  obtain ⟨found, left, hfound, -, hserverName, hsettles⟩ :=
    hroom (by decide) .origin ⟨60 * nanosPerSecond, by decide⟩
      ⟨hcarries _ (by decide), hpasses, hread⟩ (by decide) (by decide)
      (fun _ _ _ hmem => by cases hmem)
  have hfree : ¬ found.Taken (p.attemptFor r "nonce") := by
    have hrecords : found.directory.records = [] := by
      rw [show fetched.gateway.registry = some found from hfound] at hempty
      exact Option.some.inj hempty
    rintro ⟨record, hrecord, -⟩
    rw [hrecords] at hrecord
    cases hrecord
  obtain ⟨info, -, hresult, huserId⟩ := hsettles.ok (by decide +kernel) hfree
  refine ⟨gateway, hcreate, info, hresult, ?_⟩
  rw [huserId, Directory.userIdFor, hserverName]
  decide

end Prover

end Enrollment
