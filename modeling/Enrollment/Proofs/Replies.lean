import Enrollment.Proofs.Exchange

/-!
# Replies to a prover

A prover that asks for an account makes one call or two, and what it tells of it depends on the
statuses and bodies of the replies alone. A reply withholds a nonce or gives one; only with a nonce
an attempt is submitted, once, signed over the very fields that it carries. The reply to the attempt
gives an account, makes no sense, or rejects the attempt, and a rejection says what the gateway's
refusal says, whatever its texts are.
-/

namespace Enrollment.Prover

variable {status : UInt16} {body : List UInt8}

/-! ## Prepared replies -/

/-- Notes a call and answers it with one of two prepared replies, of which one is to the call for a
nonce. -/
def replyFrom (toNonce toAttempt : Reply) (call : Call) : StateM (List Call) Reply := fun sent =>
  (if call.path = Wire.noncePath then toNonce else toAttempt, sent ++ [call])

/-- What a prover that asks for an account tells of two prepared replies, and the calls that it
makes. -/
def registerFrom (p : Prover) (r : AccountRequest) (toNonce toAttempt : Reply) :
    Except Failure AccountInfo × List Call :=
  (p.register (replyFrom toNonce toAttempt) r).run []

theorem registerFrom_eq (p : Prover) (r : AccountRequest) (toNonce toAttempt : Reply) :
    p.registerFrom r toNonce toAttempt =
      match readNonce toNonce with
      | .error fault => (.error (.nonce fault), [nonceCall])
      | .ok token =>
          (readAccount toAttempt, [nonceCall, submission (p.attemptFor r token)]) := by
  have hfetched : (replyFrom toNonce toAttempt nonceCall).run [] = pure (toNonce, [nonceCall]) :=
    rfl
  simp only [registerFrom, register, fetchNonce, StateT.run_bind, bind_assoc, pure_bind, hfetched]
  cases readNonce toNonce <;> rfl

/-! ## The reply to the call for a nonce -/

/-- A reply withholds a nonce: it is a refusal, its body is no nonce, or the nonce is empty. -/
inductive Withholds (status : UInt16) (body : List UInt8) : NonceFault → Prop
  | refused (hstatus : Http.isSuccess status = false) :
      Withholds status body (.refused status (Utf8.decodeLossy body))
  | unreadable (hstatus : Http.isSuccess status = true)
      (hbody : ∀ response, Wire.nonceResponse.parse body ≠ .ok response) :
      Withholds status body .unreadable
  | empty (hstatus : Http.isSuccess status = true)
      (hbody : Wire.nonceResponse.parse body = .ok ⟨""⟩) : Withholds status body .empty

/-- A reply gives a nonce. -/
structure Gives (status : UInt16) (body : List UInt8) (token : String) : Prop where
  isSuccess : Http.isSuccess status = true
  parse_eq : Wire.nonceResponse.parse body = .ok ⟨token⟩
  ne_empty : token ≠ ""

theorem readNonce_of_withholds {fault : NonceFault} (h : Withholds status body fault) :
    readNonce (.answer status body) = .error fault := by
  cases h with
  | refused hstatus => simp [readNonce, hstatus]
  | unreadable hstatus hbody =>
      cases hparse : Wire.nonceResponse.parse body with
      | ok response => exact absurd hparse (hbody response)
      | error e => simp [readNonce, hstatus, hparse]
  | empty hstatus hbody => simp [readNonce, hstatus, hbody]

theorem readNonce_of_gives {token : String} (h : Gives status body token) :
    readNonce (.answer status body) = .ok token := by
  simp [readNonce, h.isSuccess, h.parse_eq, h.ne_empty]

/-- Every reply either withholds a nonce or gives one. -/
theorem withholds_or_gives (status : UInt16) (body : List UInt8) :
    (∃ fault, Withholds status body fault) ∨ ∃ token, Gives status body token := by
  cases hstatus : Http.isSuccess status with
  | false => exact .inl ⟨_, .refused hstatus⟩
  | true =>
      cases hparse : Wire.nonceResponse.parse body with
      | error e => exact .inl ⟨_, .unreadable hstatus (by simp [hparse])⟩
      | ok response =>
          obtain ⟨token⟩ := response
          by_cases hempty : token = ""
          · exact .inl ⟨_, .empty hstatus (hempty ▸ hparse)⟩
          · exact .inr ⟨token, hstatus, hparse, hempty⟩

/-! ## The submission -/

/-- The calls of a prover that submits one attempt, with a nonce: the body is read as the fields it
asks for, and signed over them. -/
structure SubmitsOnce (p : Prover) (r : AccountRequest) (token : String) (calls : List Call) :
    Prop where
  calls_eq : ∃ body request, calls = [nonceCall, ⟨"POST", Wire.registerPath, some body⟩] ∧
    Wire.registerRequest.parse (Utf8.encode body) = .ok request ∧ request.nonce = token ∧
    request.mac = p.secret.signFields request.attempt.fields ∧
    request.attempt.fields =
      { nonce := token, username := r.username, password := r.password
        admin := r.admin, userType := r.userType } ∧
    request.displayName = r.displayName

theorem submitsOnce (p : Prover) (r : AccountRequest) (token : String) :
    SubmitsOnce p r token [nonceCall, submission (p.attemptFor r token)] where
  calls_eq := by
    refine ⟨_, .ofAttempt (p.attemptFor r token), rfl, ?_, rfl, rfl, rfl, rfl⟩
    exact Json.Format.parse_render Wire.readable_registerRequest _

/-! ## The reply to the submission -/

/-- What the reply to a submission comes to. A rejection carries what the body says if it is a
refusal, in particular one that the gateway sent; otherwise it carries the text of the body. -/
structure Classifies (status : UInt16) (body : List UInt8)
    (result : Except Failure AccountInfo) : Prop where
  ok_iff : ∀ account, result = .ok account ↔
    Http.isSuccess status = true ∧ Wire.accountInfo.parse body = .ok account
  unanswered_iff : result = .error .unanswered ↔
    Http.isSuccess status = true ∧ ∀ account, Wire.accountInfo.parse body ≠ .ok account
  rejected_iff : (∃ errcode message, result = .error (.rejected status errcode message)) ↔
    Http.isSuccess status = false
  of_refusal : ∀ refusal : Gateway.Refusal, Http.isSuccess refusal.status = false →
    Reply.answer status body = .ofResponse refusal.response →
    result = .error (.rejected refusal.status refusal.errcode refusal.message)
  of_errorResponse : Http.isSuccess status = false → ∀ response,
    Wire.errorResponse.parse (Utf8.encode (Utf8.decodeLossy body)) = .ok response →
    result = .error (.rejected status response.errcode response.error)
  of_other : Http.isSuccess status = false →
    (∀ response, Wire.errorResponse.parse (Utf8.encode (Utf8.decodeLossy body)) ≠ .ok response) →
    result = .error (.rejected status "M_UNKNOWN" (Utf8.decodeLossy body))
  of_text : Http.isSuccess status = false → ∀ text, body = Utf8.encode text →
    (∀ response, Wire.errorResponse.parse body ≠ .ok response) →
    result = .error (.rejected status "M_UNKNOWN" text)

theorem classifies_of_success (hstatus : Http.isSuccess status = true) (body : List UInt8) :
    Classifies status body (readAccount (.answer status body)) where
  ok_iff account := by
    simp only [readAccount, hstatus, if_true, true_and]
    cases Wire.accountInfo.parse body <;> simp
  unanswered_iff := by
    simp only [readAccount, hstatus, if_true, true_and]
    cases Wire.accountInfo.parse body <;> simp
  rejected_iff := by
    simp only [readAccount, hstatus, if_true, Bool.true_eq_false, iff_false]
    cases Wire.accountInfo.parse body <;> simp
  of_refusal refusal hrefusal hreply := by
    injection hreply with heq
    obtain rfl : status = refusal.status := heq
    rw [hstatus] at hrefusal
    cases hrefusal
  of_errorResponse hfailed := by simp [hstatus] at hfailed
  of_other hfailed := by simp [hstatus] at hfailed
  of_text hfailed := by simp [hstatus] at hfailed

theorem rejection_of_errorResponse {response : ErrorResponse}
    (hbody : Wire.errorResponse.parse (Utf8.encode (Utf8.decodeLossy body)) = .ok response) :
    rejection status body = .rejected status response.errcode response.error := by
  simp only [rejection, hbody]

theorem rejection_of_other
    (hbody : ∀ response,
      Wire.errorResponse.parse (Utf8.encode (Utf8.decodeLossy body)) ≠ .ok response) :
    rejection status body = .rejected status "M_UNKNOWN" (Utf8.decodeLossy body) := by
  cases hparse : Wire.errorResponse.parse (Utf8.encode (Utf8.decodeLossy body)) with
  | ok response => exact absurd hparse (hbody response)
  | error e => simp only [rejection, hparse]

theorem exists_rejection (status : UInt16) (body : List UInt8) :
    ∃ errcode message, rejection status body = .rejected status errcode message := by
  cases hparse : Wire.errorResponse.parse (Utf8.encode (Utf8.decodeLossy body)) with
  | ok response => exact ⟨_, _, rejection_of_errorResponse hparse⟩
  | error e => exact ⟨_, _, rejection_of_other (by simp [hparse])⟩

theorem classifies_of_failure (hstatus : Http.isSuccess status = false) (body : List UInt8) :
    Classifies status body (readAccount (.answer status body)) := by
  have hresult : readAccount (.answer status body) = .error (rejection status body) := by
    simp [readAccount, hstatus]
  obtain ⟨errcode, message, hrejection⟩ := exists_rejection status body
  exact {
    ok_iff := by simp [hresult, hstatus]
    unanswered_iff := by simp [hresult, hstatus, hrejection]
    rejected_iff := by simp [hresult, hstatus, hrejection]
    of_refusal := fun refusal hrefusal hreply => hreply ▸ readAccount_refused hrefusal
    of_errorResponse := fun _ response hbody => by
      rw [hresult, rejection_of_errorResponse hbody]
    of_other := fun _ hbody => by rw [hresult, rejection_of_other hbody]
    of_text := fun _ text htext hbody => by
      have hlossy : Utf8.decodeLossy body = text := by rw [htext, Utf8.decodeLossy_encode]
      have hother : ∀ response,
          Wire.errorResponse.parse (Utf8.encode (Utf8.decodeLossy body)) ≠ .ok response := by
        rw [hlossy, ← htext]
        exact hbody
      rw [hresult, rejection_of_other hother, hlossy] }

theorem classifies_readAccount (status : UInt16) (body : List UInt8) :
    Classifies status body (readAccount (.answer status body)) := by
  cases hstatus : Http.isSuccess status with
  | true => exact classifies_of_success hstatus body
  | false => exact classifies_of_failure hstatus body

/-! ## Both replies -/

/-- What a prover tells of any two answers. If the first withholds a nonce the prover says so and
submits nothing. Else it submits one attempt with the nonce that was given, and the second answer
decides. -/
theorem replies_classified (p : Prover) (r : AccountRequest) (nonceStatus status : UInt16)
    (nonceBody body : List UInt8) :
    let result := p.registerFrom r (.answer nonceStatus nonceBody) (.answer status body)
    ((∃ fault, Withholds nonceStatus nonceBody fault) ∨
        ∃ token, Gives nonceStatus nonceBody token) ∧
      (∀ fault, Withholds nonceStatus nonceBody fault →
        result = (.error (.nonce fault), [nonceCall])) ∧
      ∀ token, Gives nonceStatus nonceBody token →
        SubmitsOnce p r token result.2 ∧ Classifies status body result.1 := by
  intro result
  refine ⟨withholds_or_gives nonceStatus nonceBody, fun fault hfault => ?_, fun token htoken => ?_⟩
  · exact (registerFrom_eq p r _ _).trans (by rw [readNonce_of_withholds hfault])
  · have hresult : result =
        (readAccount (.answer status body), [nonceCall, submission (p.attemptFor r token)]) :=
      (registerFrom_eq p r _ _).trans (by rw [readNonce_of_gives htoken])
    rw [hresult]
    exact ⟨submitsOnce p r token, classifies_readAccount status body⟩

/-- An attempt that is submitted with a nonce and denied is rejected with the denial's own words. -/
theorem denial_of_given_nonce_rejected :
    let p : Prover := ⟨defaultUrl, ⟨Utf8.encode "secret", by decide⟩⟩
    let r : AccountRequest := { username := "alice", password := "päß" }
    let nonceBody := Utf8.encode (Wire.nonceResponse.render ⟨"nonce"⟩)
    let denial := Gateway.Refusal.denied 403
    let result := p.registerFrom r (.answer 200 nonceBody) (.ofResponse denial.response)
    Gives 200 nonceBody "nonce" ∧ SubmitsOnce p r "nonce" result.2 ∧
      result.1 = .error (.rejected 403 "M_FORBIDDEN" "Registration denied") := by
  intro p r nonceBody denial result
  have hgives : Gives 200 nonceBody "nonce" :=
    ⟨by decide, Json.Format.parse_render Wire.readable_nonceResponse _, by decide⟩
  obtain ⟨-, -, hgiven⟩ :=
    replies_classified p r 200 403 nonceBody (Utf8.encode denial.response.body)
  obtain ⟨hsubmits, hclassifies⟩ := hgiven "nonce" hgives
  exact ⟨hgives, hsubmits, hclassifies.of_refusal denial (by decide) rfl⟩

end Enrollment.Prover
