import Enrollment.Proofs.Traffic.Races

/-!
# Who wins a token, and who an account

A token that may be used is won by the caller that is judged first; a user identifier that is free
is won by the caller that asks the directory first. In both races a state that is won stays so: the
nonce stays marked until it expires, and the account stays for good.
-/

namespace Enrollment

namespace Directory

variable {d : Directory} {account : NewAccount} {drawn : Credentials} {userId : String}

/-- The accounts with a user identifier. -/
def recordsOf (d : Directory) (userId : String) : List AccountRecord :=
  d.records.filter (·.userId == userId)

theorem get?_eq_head? (d : Directory) (userId : String) :
    d.get? userId = (d.recordsOf userId).head? :=
  List.head?_filter.symm

theorem register_of_free (hfree : d.recordsOf (d.userIdFor account.username) = []) :
    d.register account drawn = (.ok (d.infoFor account drawn),
      { d with records := d.recordFor account drawn :: d.records }) := by
  simp only [register, get?_eq_head?, hfree, List.head?_nil]

theorem register_of_taken {record : AccountRecord} {others : List AccountRecord}
    (htaken : d.recordsOf (d.userIdFor account.username) = record :: others) :
    d.register account drawn = (.error (.userInUse (d.userIdFor account.username)), d) := by
  simp only [register, get?_eq_head?, htaken, List.head?_cons]

theorem recordsOf_cons_self (hfree : d.recordsOf (d.userIdFor account.username) = []) :
    Directory.recordsOf { d with records := d.recordFor account drawn :: d.records }
      (d.userIdFor account.username) = [d.recordFor account drawn] := by
  unfold recordsOf at hfree ⊢
  rw [List.filter_cons_of_pos (by simp [recordFor]), hfree]

theorem recordsOf_register_of_ne (hne : d.userIdFor account.username ≠ userId) :
    (d.register account drawn).2.recordsOf userId = d.recordsOf userId := by
  unfold register
  split
  · rfl
  · exact List.filter_cons_of_neg (by simpa [recordFor] using hne)

end Directory

namespace Registry

namespace Traffic

variable {s : Traffic} {action : Action} {report : Report} {token userId : String} {n : Nonce}

/-! ## Going for a token -/

/-- What was judged of a token. -/
def judged? (token : String) : Report → Option (Except NonceError Unit)
  | .judged other outcome => if other = token then some outcome else none
  | _ => none

/-- Which caller was told what of a token. -/
def judgement? (token : String) : Occurrence → Option (Nat × Except NonceError Unit) :=
  told? (judged? token)

/-- What callers were told of a token, oldest first. -/
def judgements (token : String) (trail : List Occurrence) : List (Nat × Except NonceError Unit) :=
  trail.filterMap (judgement? token)

theorem judgement?_of_token? {e : Occurrence} (hreport : token? e.answer ≠ some token) :
    judgement? token e = none := by
  apply told?_eq_none
  cases hanswer : e.answer <;> simp_all [judged?, token?]

/-- A token is judged in the first section of a call. -/
theorem rank_of_judged (r : Registry) (c : Call) (outcome : Except NonceError Unit)
    (hjudged : judged? token (c.next r).1 = some outcome) : Call.rank c.stage = 0 := by
  obtain ⟨attempt, drawn, stage⟩ := c
  cases stage with
  | presenting now => rfl
  | creating =>
      simp only [Call.next] at hjudged
      cases houtage : r.outage <;> simp [houtage, judged?] at hjudged
  | _ => cases hjudged

/-- A nonce that has not expired is looked up as before, unless its token is judged. -/
theorem Change.find?_eq {entries : List Nonce} {left : Traffic}
    (h : Change s action report entries) (hfind : s.ledger.find? token = some n)
    (hlive : s.clock.elapsed.nanos < n.expiresAt.nanos) (hnot : report ≠ .issued token) :
    (judgement? token ⟨s, action, report, left⟩ = none ∧
      entries.find? (·.token == token) = some n) ∨
      ∃ caller, judgement? token ⟨s, action, report, left⟩ =
          some (caller, if n.consumed then .error .alreadyUsed else .ok ()) ∧
        entries.find? (·.token == token) = some { n with consumed := true } := by
  have hunexpired : ∀ {now : Instant}, now.nanos ≤ s.clock.elapsed.nanos →
      n.isExpiredAt now = false := by
    intro now hnow
    rw [Nonce.isExpiredAt_eq_false_iff, Instant.lt_def]
    omega
  cases h with
  | kept hreport =>
      refine Or.inl ⟨judgement?_of_token? ?_, hfind⟩
      simp [hreport]
  | @judged caller call now hcall hstage hnow =>
      by_cases htoken : call.token = token
      · obtain ⟨hjudge, hmarked⟩ := Ledger.checkAndMark_of_live hfind (hunexpired hnow)
        refine Or.inr ⟨caller, ?_, ?_⟩
        · simp [judgement?, told?, judged?, htoken, hjudge]
        · rw [htoken]
          exact hmarked
      · refine Or.inl ⟨judgement?_of_token? ?_, Ledger.find?_checkAndMark_of_ne hfind htoken⟩
        simpa [token?] using htoken
  | @discarded _ now other hnow =>
      exact Or.inl ⟨judgement?_of_token? (by simp [token?]),
        Ledger.find?_filter_of_kept hfind (by simp [hunexpired hnow])⟩
  | @issued other now expiry hread =>
      have hne : other ≠ token := fun heq => hnot (heq ▸ rfl)
      refine Or.inl ⟨judgement?_of_token? (by simpa [token?] using hne), ?_⟩
      exact (Ledger.find?_insert_of_ne _ hne).trans hfind

/-- The nonce is what a token finds, or else it has expired. -/
def Held (s : Traffic) (n : Nonce) : Prop :=
  s.Timely ∧ (n.expiresAt.nanos ≤ s.clock.elapsed.nanos ∨ s.ledger.find? n.token = some n)

/-- An event does not hand out a token, and does not judge it once its nonce has expired. -/
def Fair (token : String) (expiry : Instant) (e : Occurrence) : Prop :=
  e.answer ≠ .issued token ∧
    (judgement? token e ≠ none → e.before.clock.elapsed.nanos < expiry.nanos)

theorem Held.step (h : s.Held n) (hfair : Fair n.token n.expiresAt (eventOf step s action)) :
    (judgement? n.token (eventOf step s action) = none ∧ (s.step action).2.Held n) ∨
      ∃ caller, judgement? n.token (eventOf step s action) =
          some (caller, if n.consumed then .error .alreadyUsed else .ok ()) ∧
        (s.step action).2.Held { n with consumed := true } := by
  obtain ⟨hs, hheld⟩ := h
  obtain ⟨hnot, hearly⟩ := hfair
  by_cases hlive : s.clock.elapsed.nanos < n.expiresAt.nanos
  · rcases hheld with hexpired | hfind
    · omega
    · rcases (change_step hs action).find?_eq hfind hlive hnot with
        ⟨hnone, hkept⟩ | ⟨caller, hjudged, hmarked⟩
      · exact Or.inl ⟨hnone, hs.step action, Or.inr hkept⟩
      · exact Or.inr ⟨caller, hjudged, hs.step action, Or.inr hmarked⟩
  · -- It has expired, so that it is judged no more.
    have hlater := elapsed_le_step s action
    refine Or.inl ⟨?_, hs.step action, Or.inl (by omega)⟩
    by_contra hjudged
    exact hlive (hearly hjudged)

theorem token_race (hfresh : n.consumed = false) :
    Race step (judgement? n.token) .alreadyUsed (Fair n.token n.expiresAt) (Held · n)
      (fun _ s => s.Held { n with consumed := true }) where
  run s action hfair hs := by
    rcases hs.step hfair with hnone | ⟨caller, hjudged, hmarked⟩
    · exact Or.inl hnone
    · rw [hfresh] at hjudged
      exact Or.inr ⟨caller, (), hjudged, hmarked⟩
  lost s action _ hfair hs := by
    rcases hs.step hfair with ⟨hnone, hmarked⟩ | ⟨caller, hjudged, hmarked⟩
    · refine ⟨?_, hmarked⟩
      intro answer hanswer
      cases hnone.symm.trans hanswer
    · refine ⟨?_, hmarked⟩
      intro answer hanswer
      obtain rfl := Option.some.inj (hjudged.symm.trans hanswer)
      rfl

/-- Of callers that present a token that was not used, all before it expires, one is accepted. -/
theorem one_accepted (hs : s.Timely) (hfind : s.ledger.find? token = some n)
    (hfresh : n.consumed = false) {actions : List Action}
    (hnot : token ∉ issuedTokens (events step s actions))
    (hearly : ∀ e ∈ events step s actions, judgement? token e ≠ none →
      e.before.clock.elapsed.nanos < n.expiresAt.nanos) :
    OneWinner (judgements token (events step s actions)) .alreadyUsed := by
  obtain rfl := Ledger.token_of_find? hfind
  have hfair : ∀ e ∈ events step s actions, Fair n.token n.expiresAt e := by
    intro e he
    refine ⟨?_, hearly e he⟩
    intro hissued
    exact hnot (List.mem_filterMap.mpr ⟨e, he, by rw [hissued]; rfl⟩)
  refine ⟨callers_nodup (by decide) rfl rank_of_judged s actions, ?_⟩
  rcases (token_race hfresh).settled ⟨hs, Or.inr hfind⟩ hfair with
    ⟨hnone, -⟩ | ⟨winner, prize, losers, hwins, hlose, -⟩
  · exact Or.inl hnone
  · exact Or.inr ⟨winner, prize, losers, hwins, hlose⟩

/-! ## Going for a user identifier -/

/-- What the directory answered for a user identifier. -/
def asked? (userId : String) : Report → Option (Except AccountError AccountInfo)
  | .asked other answer => if other = userId then some answer else none
  | _ => none

/-- Which caller was told what of a user identifier. -/
def request? (userId : String) : Occurrence → Option (Nat × Except AccountError AccountInfo) :=
  told? (asked? userId)

/-- What callers were told of a user identifier, oldest first. -/
def requests (userId : String) (trail : List Occurrence) :
    List (Nat × Except AccountError AccountInfo) :=
  trail.filterMap (request? userId)

theorem rank_of_asked (r : Registry) (c : Call) (answer : Except AccountError AccountInfo)
    (hasked : asked? userId (c.next r).1 = some answer) : Call.rank c.stage = 3 := by
  obtain ⟨attempt, drawn, stage⟩ := c
  cases stage with
  | creating => rfl
  | _ => cases hasked

/-- Only the section of a call that asks for the account of its attempt changes the directory. -/
theorem directory_next (r : Registry) (c : Call) (userId : String) :
    (asked? userId (c.next r).1 = none ∧
      (c.next r).2.1.directory.recordsOf userId = r.directory.recordsOf userId) ∨
      ∃ account drawn, r.directory.userIdFor account.username = userId ∧
        asked? userId (c.next r).1 = some (r.directory.register account drawn).1 ∧
        (c.next r).2.1.directory = (r.directory.register account drawn).2 := by
  obtain ⟨attempt, drawn, stage⟩ := c
  cases stage with
  | creating =>
      simp only [Call.next]
      cases r.outage with
      | some reason => exact Or.inl ⟨rfl, rfl⟩
      | none =>
          by_cases huser : r.directory.userIdFor attempt.account.username = userId
          · exact Or.inr ⟨attempt.account, drawn, huser, if_pos huser, rfl⟩
          · exact Or.inl ⟨if_neg huser, Directory.recordsOf_register_of_ne huser⟩
  | made answer => cases answer <;> exact Or.inl ⟨rfl, rfl⟩
  | _ => exact Or.inl ⟨rfl, rfl⟩

/-- An event leaves the accounts with a user identifier, unless it asks for that. -/
theorem directory_step (s : Traffic) (action : Action) (userId : String) :
    (request? userId (eventOf step s action) = none ∧
      (s.step action).2.registry.directory.recordsOf userId =
        s.registry.directory.recordsOf userId) ∨
      ∃ caller account drawn, s.registry.directory.userIdFor account.username = userId ∧
        request? userId (eventOf step s action) =
          some (caller, (s.registry.directory.register account drawn).1) ∧
        (s.step action).2.registry.directory = (s.registry.directory.register account drawn).2 := by
  cases action with
  | issue token =>
      refine Or.inl ⟨rfl, ?_⟩
      simp only [step]
      split
      next => rfl
      next now hread =>
        simp only [grant]
        split <;> rfl
  | call attempt drawn =>
      refine Or.inl ⟨rfl, ?_⟩
      simp only [step, Call.begin]
      split <;> rfl
  | proceed caller =>
      simp only [request?, told?, eventOf, step]
      split
      next => exact Or.inl ⟨rfl, rfl⟩
      next call hcall =>
        rcases directory_next s.registry call userId with
          ⟨hquiet, hkept⟩ | ⟨account, drawn, huser, hasked, hleft⟩
        · refine Or.inl ⟨?_, hkept⟩
          rw [hquiet]
          rfl
        · refine Or.inr ⟨caller, account, drawn, huser, ?_, hleft⟩
          rw [hasked]
          rfl
  | advance span => exact Or.inl ⟨rfl, rfl⟩
  | setOutage outage => exact Or.inl ⟨rfl, rfl⟩
  | _ =>
      refine Or.inl ⟨rfl, ?_⟩
      simp only [step]
      split <;> rfl

/-- A request for an identifier that is free makes its one account; any other request for it is told
that it is in use, and changes nothing. -/
theorem account_race (userId : String) :
    Race step (request? userId) (.userInUse userId) (fun _ => True)
      (fun s => s.registry.directory.recordsOf userId = [])
      (fun info s => ∃ record, s.registry.directory.recordsOf userId = [record] ∧
        record.userId = info.userId ∧ record.deviceId = info.deviceId) where
  run s action _ hfree := by
    rcases directory_step s action userId with
      ⟨hnone, hkept⟩ | ⟨caller, account, drawn, rfl, hasked, hleft⟩
    · exact Or.inl ⟨hnone, hkept.trans hfree⟩
    · rw [Directory.register_of_free hfree] at hasked hleft
      refine Or.inr ⟨caller, _, hasked, s.registry.directory.recordFor account drawn, ?_, rfl, rfl⟩
      rw [hleft]
      exact Directory.recordsOf_cons_self hfree
  lost s action info _ hwon := by
    obtain ⟨record, hrecord, howner⟩ := hwon
    rcases directory_step s action userId with
      ⟨hnone, hkept⟩ | ⟨caller, account, drawn, rfl, hasked, hleft⟩
    · refine ⟨?_, record, hkept.trans hrecord, howner⟩
      intro answer hanswer
      cases hnone.symm.trans hanswer
    · rw [Directory.register_of_taken hrecord] at hasked hleft
      refine ⟨?_, record, hleft ▸ hrecord, howner⟩
      intro answer hanswer
      obtain rfl := Option.some.inj (hasked.symm.trans hanswer)
      rfl

/-- The accounts that callers were told were made. -/
def made (answers : List (Nat × Except AccountError AccountInfo)) : List AccountInfo :=
  answers.filterMap (·.2.toOption)

/-- Of callers that ask for an identifier that is free, one makes its account. -/
theorem one_made (s : Traffic) (hfree : s.registry.directory.get? userId = none)
    (actions : List Action) :
    OneWinner (requests userId (events step s actions)) (.userInUse userId) ∧
      ((outcome step s actions).registry.directory.recordsOf userId).map (·.deviceId) =
        (made (requests userId (events step s actions))).map (·.deviceId) := by
  rw [Directory.get?_eq_head?, List.head?_eq_none_iff] at hfree
  have hcallers : ((requests userId (events step s actions)).map Prod.fst).Nodup :=
    callers_nodup (by decide) rfl rank_of_asked s actions
  have hfair : ∀ e ∈ events step s actions, True := fun _ _ => trivial
  have hwon := (account_race userId).settled hfree hfair
  unfold requests at hcallers ⊢
  rcases hwon with ⟨hnone, hleft⟩ | ⟨winner, info, losers, hwins, hlose, record, hrecord, -, hdevice⟩
  · refine ⟨⟨hcallers, Or.inl hnone⟩, ?_⟩
    rw [hnone, hleft]
    rfl
  · have hnothing : losers.filterMap (·.2.toOption) = [] := by
      apply List.filterMap_eq_nil_iff.mpr
      intro answer hanswer
      rw [hlose answer hanswer]
      rfl
    refine ⟨⟨hcallers, Or.inr ⟨winner, info, losers, hwins, hlose⟩⟩, ?_⟩
    rw [hwins, hrecord, made, filterMap_cons_eq, hnothing]
    simp [Except.toOption, hdevice]

end Traffic

end Registry

end Enrollment
