import Enrollment.Proofs.Ledger.Presentation
import Enrollment.Proofs.Registry.Calls

/-!
# The nonces of a registry

A run of a registry is, to its ledger, a run of a ledger: an attempt of the right shape presents its
nonce, one of the wrong shape and an outage do nothing, and everything else the ledger does itself.
So what the past of a ledger decides, the past of a registry decides.
-/

namespace Enrollment.Registry

/-- What an action does to the nonces. -/
def Action.onNonces : Action → List Ledger.Action
  | .issue token => [.issue token]
  | .register attempt _ =>
      match attempt.validate with
      | .ok () => [.consume attempt.fields.nonce]
      | .error _ => []
  | .sweep => [.sweep]
  | .sweepEvery interval span => if interval.isZero || span.isZero then [] else [.sweep]
  | .advance span => [.advance span]
  | .setOutage _ => []

theorem Action.issue_mem_onNonces_iff {action : Action} {token : String} :
    .issue token ∈ action.onNonces ↔ action = .issue token := by
  cases action with
  | issue other => simp [onNonces, eq_comm]
  | register attempt drawn =>
      simp only [onNonces]
      split <;> simp
  | sweepEvery interval span =>
      simp only [onNonces]
      split <;> simp
  | _ => simp [onNonces]

/-- Only an attempt of the right shape presents its nonce. -/
theorem Action.consume_mem_onNonces_iff {action : Action} {token : String} :
    .consume token ∈ action.onNonces ↔ ∃ attempt drawn, action = .register attempt drawn ∧
      attempt.validate = .ok () ∧ attempt.fields.nonce = token := by
  cases action with
  | register attempt drawn =>
      simp only [onNonces]
      split
      next hvalid => simp [hvalid, eq_comm]
      next e hinvalid => simp [hinvalid]
  | sweepEvery interval span =>
      simp only [onNonces]
      split <;> simp
  | _ => simp [onNonces]

namespace Session

variable {s start : Session} {token : String} {now : Instant}

/-- The ledger of a session, with the clock. -/
def nonces (s : Session) : Ledger.Session :=
  ⟨s.clock, s.registry.ledger⟩

/-- What an event did to the nonces. -/
def nonceEvents (e : Occurrence) : List Ledger.Session.Occurrence :=
  events Ledger.Session.step e.before.nonces e.action.onNonces

/-- What an action leaves of the nonces is what it does to them. -/
theorem nonces_step (s : Session) (action : Action) :
    (s.step action).2.nonces = outcome Ledger.Session.step s.nonces action.onNonces := by
  cases action with
  | issue token =>
      exact congrArg (fun a => Ledger.Session.mk s.clock a.ledger) (authority_issue _ _ _)
  | register attempt drawn =>
      simp only [step, Action.onNonces]
      split
      next hvalid =>
        exact congrArg (fun a => Ledger.Session.mk s.clock a.ledger)
          (authority_register _ _ hvalid)
      next hinvalid =>
        rw [register_of_invalid hinvalid]
        rfl
  | sweep => rfl
  | sweepEvery interval span =>
      simp only [step, sweepEvery, Action.onNonces]
      split <;> rfl
  | advance span => rfl
  | setOutage outage => rfl

theorem nonces_outcome (s : Session) (actions : List Action) :
    (outcome step s actions).nonces =
      outcome Ledger.Session.step s.nonces (actions.flatMap Action.onNonces) := by
  induction actions generalizing s with
  | nil => rfl
  | cons action rest ih =>
      rw [outcome_cons, ih, nonces_step, List.flatMap_cons, outcome_append]

theorem nonceEvents_of_run (s : Session) (actions : List Action) :
    events Ledger.Session.step s.nonces (actions.flatMap Action.onNonces) =
      (events step s actions).flatMap nonceEvents := by
  induction actions generalizing s with
  | nil => rfl
  | cons action rest ih =>
      rw [List.flatMap_cons, events_append, ← nonces_step, ih, events_cons, List.flatMap_cons]
      rfl

/-! ## The past of a registry -/

/-- The token was handed out at a moment. -/
def Issues (e : Occurrence) (token : String) (issuedAt : Instant) : Prop :=
  e.action = .issue token ∧ e.answer = .ok (.issued token) ∧ e.before.clock.read = .ok issuedAt

/-- An attempt of the right shape presented the token, with whatever signature and answer. -/
def Presents (e : Occurrence) (token : String) : Prop :=
  ∃ attempt drawn, e.action = .register attempt drawn ∧ attempt.validate = .ok () ∧
    attempt.fields.nonce = token

/-- The token that an event handed out. -/
def issuedToken? (e : Occurrence) : Option String :=
  match e.answer with
  | .ok (.issued token) => some token
  | _ => none

/-- The tokens handed out in a run, oldest first. -/
def issuedTokens (trail : List Occurrence) : List String :=
  trail.filterMap issuedToken?

/-- In a run whose events are `trail`, the token was handed out with an expiry one lifetime later,
and `since` is what happened from then on. -/
def IssuedThen (lifetime : Span) (trail : List Occurrence) (token : String) (expiry : Instant)
    (since : List Occurrence) : Prop :=
  ∃ before e issuedAt, trail = before ++ e :: since ∧ Issues e token issuedAt ∧
    issuedAt.after? lifetime = some expiry

theorem issuedToken?_eq_some_iff {e : Occurrence} :
    issuedToken? e = some token ↔ e.answer = .ok (.issued token) := by
  unfold issuedToken?
  split
  next answer issued hanswer => simp [hanswer]
  next hother => simpa using hother token

theorem mem_issuedTokens {trail : List Occurrence} :
    token ∈ issuedTokens trail ↔ ∃ e ∈ trail, e.answer = .ok (.issued token) := by
  simp only [issuedTokens, List.mem_filterMap, issuedToken?_eq_some_iff]

theorem step_issue_eq_issued_iff {other : String} :
    (s.step (.issue other)).1 = .ok (.issued token) ↔
      (s.nonces.step (.issue other)).1 = .ok (.issued token) := by
  rw [Ledger.Session.step_eq_issued_iff]
  simp only [step, issue_eq, nonces]
  rcases hissue : (s.registry.ledger.issue s.clock.read other).1 with _ | _ | _ <;>
    simp [Except.map, hissue]

theorem eq_issue_of_issued {action : Action}
    (hissued : (s.step action).1 = .ok (.issued token)) : ∃ other, action = .issue other := by
  cases action with
  | issue other => exact ⟨other, rfl⟩
  | register attempt drawn =>
      change (s.registry.register s.clock.read attempt drawn).1.map Answer.verdict = _ at hissued
      cases hresult : (s.registry.register s.clock.read attempt drawn).1 <;>
        simp [hresult, Except.map] at hissued
  | sweep =>
      change (s.registry.sweep s.clock.read).1.map Answer.swept = _ at hissued
      cases hresult : (s.registry.sweep s.clock.read).1 <;> simp [hresult, Except.map] at hissued
  | sweepEvery interval span => simp [step] at hissued
  | advance span =>
      change (s.clock.advance span).1.map (fun _ => Answer.done) = _ at hissued
      cases hresult : (s.clock.advance span).1 <;> simp [hresult, Except.map] at hissued
  | setOutage outage => simp [step] at hissued

theorem issuedToken?_eq_none {action : Action} (hnot : ∀ token, action ≠ .issue token) :
    issuedToken? (eventOf step s action) = none := by
  rw [Option.eq_none_iff_forall_ne_some]
  intro token hissued
  obtain ⟨other, rfl⟩ := eq_issue_of_issued (issuedToken?_eq_some_iff.mp hissued)
  exact hnot other rfl

theorem issuedTokens_nonceEvents (s : Session) (action : Action) :
    Ledger.Session.issuedTokens (nonceEvents (eventOf step s action)) =
      (issuedToken? (eventOf step s action)).toList := by
  -- Only an attempt to issue matters; whatever else happens hands out nothing on either side.
  by_cases hissue : ∃ token, action = .issue token
  · obtain ⟨token, rfl⟩ := hissue
    change Ledger.Session.issuedTokens [eventOf Ledger.Session.step s.nonces (.issue token)] = _
    rw [Ledger.Session.issuedTokens_cons]
    refine (List.append_nil _).trans (congrArg Option.toList (Option.ext fun other => ?_))
    rw [Ledger.Session.issuedToken?_eq_some_iff, issuedToken?_eq_some_iff]
    exact step_issue_eq_issued_iff.symm
  · have hnot : ∀ token, action ≠ .issue token := fun token heq => hissue ⟨token, heq⟩
    rw [issuedToken?_eq_none hnot]
    exact Ledger.Session.issuedTokens_eq_nil fun token hmem =>
      hnot token (Action.issue_mem_onNonces_iff.mp hmem)

theorem issuedTokens_flatMap (s : Session) (actions : List Action) :
    Ledger.Session.issuedTokens ((events step s actions).flatMap nonceEvents) =
      issuedTokens (events step s actions) := by
  induction actions generalizing s with
  | nil => rfl
  | cons action rest ih =>
      rw [events_cons, List.flatMap_cons, Ledger.Session.issuedTokens_append, ih,
        issuedTokens_nonceEvents]
      exact (filterMap_cons_eq issuedToken? _ _).symm

theorem exists_consume_iff {e : Occurrence} :
    (∃ e' ∈ nonceEvents e, e'.action = .consume token) ↔ Presents e token := by
  have hactions : (nonceEvents e).map (·.action) = e.action.onNonces := events_action _ _
  unfold Presents
  rw [← Action.consume_mem_onNonces_iff, ← hactions, List.mem_map]

/-! ## From a registry to its ledger -/

/-- What was issued in a run of a registry was issued in the run of its ledger. -/
theorem IssuedThen.onNonces {lifetime : Span} {actions : List Action} {expiry : Instant}
    {since : List Occurrence}
    (hissued : IssuedThen lifetime (events step s actions) token expiry since) :
    Ledger.Session.IssuedThen lifetime ((events step s actions).flatMap nonceEvents) token expiry
      (since.flatMap nonceEvents) := by
  obtain ⟨before, e, issuedAt, hsplit, ⟨haction, hanswer, hread⟩, hafter⟩ := hissued
  obtain ⟨first, action, rest, -, -, rfl, -⟩ := exists_split_of_events hsplit
  obtain rfl : action = .issue token := haction
  refine ⟨before.flatMap nonceEvents,
    eventOf Ledger.Session.step (outcome step s first).nonces (.issue token), issuedAt, ?_,
    ⟨rfl, step_issue_eq_issued_iff.mp hanswer, hread⟩, hafter⟩
  rw [hsplit, List.flatMap_append, List.flatMap_cons]
  rfl

theorem ledgerSettings_outcome (s : Session) (actions : List Action) :
    (outcome step s actions).registry.ledger.settings = s.registry.ledger.settings := by
  have hsettings := Ledger.Session.settings_outcome s.nonces (actions.flatMap Action.onNonces)
  rw [← nonces_outcome] at hsettings
  exact hsettings

theorem lifetime_outcome (s : Session) (actions : List Action) :
    (outcome step s actions).registry.ledger.lifetime = s.registry.ledger.lifetime :=
  congrArg Prod.fst (ledgerSettings_outcome s actions)

/-- A token that was handed out has an issue in the past of the run. -/
theorem exists_issuedThen {past : List Action}
    (hissued : token ∈ issuedTokens (events step start past)) :
    ∃ expiry since,
      IssuedThen start.registry.ledger.lifetime (events step start past) token expiry since := by
  obtain ⟨e, he, hanswer⟩ := mem_issuedTokens.mp hissued
  obtain ⟨before, since, hsplit⟩ := List.append_of_mem he
  obtain ⟨first, action, rest, -, -, rfl, -⟩ := exists_split_of_events hsplit
  obtain ⟨other, rfl⟩ := eq_issue_of_issued hanswer
  obtain ⟨hother, now, expiry, hread, hafter, -⟩ :=
    Ledger.Session.exists_of_step_issued (step_issue_eq_issued_iff.mp hanswer)
  obtain rfl : other = token := Ledger.Action.issue.inj hother
  have hlifetime := lifetime_outcome start first
  exact ⟨expiry, since, before, _, now, hsplit, ⟨rfl, hanswer, hread⟩, hlifetime ▸ hafter⟩

section Past

variable {past : List Action} (hstart : start.nonces.Coherent)
  (hempty : ∀ token, start.registry.ledger.find? token = none)
  (hdistinct : (issuedTokens (events step start past)).Nodup)
  (hread : (outcome step start past).clock.read = .ok now)

include hdistinct in
theorem issuedTokens_onNonces_nodup :
    (Ledger.Session.issuedTokens (events Ledger.Session.step start.nonces
      (past.flatMap Action.onNonces))).Nodup := by
  rw [nonceEvents_of_run, issuedTokens_flatMap]
  exact hdistinct

theorem ledger_outcome (start : Session) (past : List Action) :
    (outcome step start past).registry.ledger =
      (outcome Ledger.Session.step start.nonces (past.flatMap Action.onNonces)).ledger :=
  congrArg Ledger.Session.ledger (nonces_outcome start past)

include hstart hempty in
theorem find?_outcome_of_not_issued (hnot : token ∉ issuedTokens (events step start past)) :
    (outcome step start past).registry.ledger.find? token = none := by
  rw [← issuedTokens_flatMap, ← nonceEvents_of_run] at hnot
  rw [ledger_outcome]
  exact Ledger.Session.find?_outcome_of_none hstart (hempty token) hnot

include hstart hdistinct hread in
theorem judge_eq_ok_iff_of_issuedThen {expiry : Instant} {since : List Occurrence}
    (hissued : IssuedThen start.registry.ledger.lifetime (events step start past) token expiry
      since) :
    (outcome step start past).registry.ledger.judge now token = .ok () ↔
      now < expiry ∧ ∀ e ∈ since, ¬ Presents e token := by
  have honNonces := hissued.onNonces
  rw [← nonceEvents_of_run] at honNonces
  have hread' : (outcome Ledger.Session.step start.nonces
      (past.flatMap Action.onNonces)).clock.read = .ok now := by
    rw [← nonces_outcome]
    exact hread
  rw [ledger_outcome, Ledger.Session.judge_eq_ok_iff_of_issuedThen hstart
    (issuedTokens_onNonces_nodup hdistinct) hread' honNonces]
  refine and_congr_right fun _ => ?_
  simp only [← exists_consume_iff, List.mem_flatMap]
  constructor
  · rintro hunpresented e he ⟨e', he', hconsume⟩
    exact hunpresented e' ⟨e, he, he'⟩ hconsume
  · rintro hunpresented e' ⟨e, he, he'⟩ hconsume
    exact hunpresented e he ⟨e', he', hconsume⟩

include hstart hempty hdistinct hread in
/-- The nonce of an attempt may be used exactly if it was issued, has not expired and was not
presented since, by whatever attempt. -/
theorem judge_eq_ok_iff :
    (outcome step start past).registry.ledger.judge now token = .ok () ↔
      ∃ expiry since,
        IssuedThen start.registry.ledger.lifetime (events step start past) token expiry since ∧
          now < expiry ∧ ∀ e ∈ since, ¬ Presents e token := by
  constructor
  · intro hok
    have hmem : token ∈ issuedTokens (events step start past) := by
      by_contra hnot
      simp [Ledger.judge, find?_outcome_of_not_issued hstart hempty hnot] at hok
    obtain ⟨expiry, since, hissued⟩ := exists_issuedThen hmem
    have hiff := judge_eq_ok_iff_of_issuedThen hstart hdistinct hread hissued
    exact ⟨expiry, since, hissued, hiff.mp hok⟩
  · rintro ⟨expiry, since, hissued, hunpresented⟩
    exact (judge_eq_ok_iff_of_issuedThen hstart hdistinct hread hissued).mpr hunpresented

end Past

end Session

end Enrollment.Registry
