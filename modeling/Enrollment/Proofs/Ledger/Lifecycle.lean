import Enrollment.Proofs.Ledger.Lookup

/-!
# The life of a token

What a ledger answers to a token that is presented is decided by the past of the run alone: by the
moment at which the token was issued, by whether it was accepted since, and, once it has expired, by
whether anything removed it since. The argument follows one nonce through the events after its
issue. As long as its token is not issued again, an event either removes it, which takes a sweep or
its own token presented after its expiry, or keeps it, consumed if its token was accepted.
-/

namespace Enrollment.Ledger.Session

/-- An event of a session. -/
abbrev Occurrence : Type :=
  Event Session Action (Except TimeOverflow Answer)

/-- The token was handed out at a moment. -/
def Issues (e : Occurrence) (token : String) (issuedAt : Instant) : Prop :=
  e.action = .issue token ∧ e.answer = .ok (.issued token) ∧ e.before.clock.read = .ok issuedAt

/-- The token was presented and accepted. -/
def Accepts (e : Occurrence) (token : String) : Prop :=
  e.action = .consume token ∧ e.answer = .ok .consumed

/-- A sweep ran at a moment: it was called for, or it was due and a full ledger was to issue. -/
def Sweeps (e : Occurrence) (now : Instant) : Prop :=
  e.action = .sweep ∨
    ((∃ token, e.action = .issue token) ∧ e.before.ledger.isFull = true ∧
      e.before.ledger.sweepDue now = true)

/-- At or after an expiry, the token was presented or a sweep ran. -/
def Purges (e : Occurrence) (token : String) (expiry : Instant) : Prop :=
  ∃ now, e.before.clock.read = .ok now ∧ expiry ≤ now ∧ (e.action = .consume token ∨ Sweeps e now)

/-- The token that an event handed out. -/
def issuedToken? (e : Occurrence) : Option String :=
  match e.answer with
  | .ok (.issued token) => some token
  | _ => none

/-- The tokens handed out in a run, oldest first. -/
def issuedTokens (trail : List Occurrence) : List String :=
  trail.filterMap issuedToken?

/-- The token that an event accepted. -/
def acceptedToken? (e : Occurrence) : Option String :=
  match e.action, e.answer with
  | .consume token, .ok .consumed => some token
  | _, _ => none

/-- The tokens accepted in a run, oldest first. -/
def acceptedTokens (trail : List Occurrence) : List String :=
  trail.filterMap acceptedToken?

/-- In a run whose events are `trail`, the token was handed out with an expiry one lifetime later,
and `since` is what happened from then on. -/
def IssuedThen (lifetime : Span) (trail : List Occurrence) (token : String) (expiry : Instant)
    (since : List Occurrence) : Prop :=
  ∃ before e issuedAt, trail = before ++ e :: since ∧ Issues e token issuedAt ∧
    issuedAt.after? lifetime = some expiry

theorem IssuedThen.mem_trail {lifetime : Span} {trail since : List Occurrence} {token : String}
    {expiry : Instant} (hissued : IssuedThen lifetime trail token expiry since) {e : Occurrence}
    (he : e ∈ since) : e ∈ trail := by
  obtain ⟨before, issue, issuedAt, rfl, -⟩ := hissued
  exact List.mem_append_right _ (List.mem_cons_of_mem _ he)

/-! ## One nonce through one event -/

/-- What is left of a nonce that nothing removed: it is consumed if it was or if `accepted`. -/
def Kept (n : Nonce) (accepted : Prop) (found : Option Nonce) : Prop :=
  ∃ consumed, found = some { n with consumed } ∧ (consumed = true ↔ n.consumed = true ∨ accepted)

theorem kept_of_eq {n : Nonce} {accepted : Prop} {found : Option Nonce} (hfound : found = some n)
    (hnot : ¬ accepted) : Kept n accepted found :=
  ⟨n.consumed, hfound, by simp [hnot]⟩

/-- What an event makes of a tracked nonce: it removes the nonce or keeps it. -/
def Follows (n : Nonce) (removed accepted : Prop) (found : Option Nonce) : Prop :=
  (removed → found = none) ∧ (¬ removed → Kept n accepted found)

theorem follows_of_eq_ite {n : Nonce} {removed accepted : Prop} {found : Option Nonce}
    (leaves : Prop) [Decidable leaves] (hfound : found = if leaves then none else some n)
    (hremoved : removed ↔ leaves) (hnot : ¬ accepted) : Follows n removed accepted found := by
  refine ⟨fun hr => ?_, fun hr => kept_of_eq ?_ hnot⟩
  · rw [hfound, if_pos (hremoved.mp hr)]
  · rw [hfound, if_neg (hremoved.not.mp hr)]

variable {s : Session} {token : String} {now : Instant}

theorem step_eq_issued_iff {action : Action} :
    (s.step action).1 = .ok (.issued token) ↔
      ∃ other, action = .issue other ∧
        (s.ledger.issue s.clock.read other).1 = .ok (.ok token) := by
  cases action with
  | issue other =>
      change (s.ledger.issue s.clock.read other).1.map Answer.ofIssue = _ ↔ _
      rcases hissue : (s.ledger.issue s.clock.read other).1 with _ | _ | _ <;>
        simp [Except.map, Answer.ofIssue, hissue]
  | consume other =>
      change (s.ledger.consume s.clock.read other).1.map Answer.ofConsume = _ ↔ _
      rcases (s.ledger.consume s.clock.read other).1 with _ | _ | _ <;>
        simp [Except.map, Answer.ofConsume]
  | sweep =>
      change (s.ledger.sweep s.clock.read).1.map Answer.swept = _ ↔ _
      cases (s.ledger.sweep s.clock.read).1 <;> simp [Except.map]
  | advance span =>
      change (s.clock.advance span).1.map (fun _ => Answer.advanced) = _ ↔ _
      cases (s.clock.advance span).1 <;> simp [Except.map]

theorem issue_ne_of_step_ne {other : String}
    (hne : (s.step (.issue other)).1 ≠ .ok (.issued token)) :
    (s.ledger.issue s.clock.read other).1 ≠ .ok (.ok token) :=
  fun heq => hne (step_eq_issued_iff.mpr ⟨other, rfl, heq⟩)

theorem ledger_step_of_unread {e : TimeOverflow} (hread : s.clock.read = .error e)
    (action : Action) : (s.step action).2.ledger = s.ledger := by
  cases action <;> simp [step, hread, issue, consume, sweep]

theorem find?_step_of_none (hs : s.Coherent) (hnone : s.ledger.find? token = none)
    (action : Action) (hne : (s.step action).1 ≠ .ok (.issued token)) :
    (s.step action).2.ledger.find? token = none := by
  cases hread : s.clock.read with
  | error e => rwa [ledger_step_of_unread hread]
  | ok now =>
      cases action with
      | issue other =>
          have hlookup := hs.find?_issue_of_ne now (hread ▸ issue_ne_of_step_ne hne)
          simp only [step, hread]
          rw [hlookup, hnone]
          split <;> rfl
      | consume other =>
          simp only [step, hread, consume]
          by_cases hother : other = token
          · have hjudge : s.ledger.judge now other = .error .notFound := by
              simp [judge, hother, hnone]
            rw [consumeAt_eq, hjudge]
            exact hnone
          · rwa [hs.find?_consumeAt_of_ne now hother]
      | sweep =>
          simp only [step, hread, sweep]
          rw [hs.find?_sweepAt, hnone]
          rfl
      | advance span => exact hnone

theorem find?_filtered {n : Nonce} (hfind : s.ledger.find? token = some n) :
    (s.ledger.find? token).filter (fun n => !n.isExpiredAt now) =
      if n.expiresAt ≤ now then none else some n := by
  rw [hfind]
  by_cases hexpired : n.expiresAt ≤ now
  · simp [hexpired, Nonce.isExpiredAt_iff.mpr hexpired]
  · simp [hexpired, Nonce.isExpiredAt_eq_false_iff.mpr (Instant.not_le.mp hexpired)]

theorem purges_iff (hread : s.clock.read = .ok now) {action : Action} {expiry : Instant} :
    Purges (eventOf step s action) token expiry ↔
      expiry ≤ now ∧ (action = .consume token ∨ Sweeps (eventOf step s action) now) := by
  constructor
  · rintro ⟨now', hnow', hpurges⟩
    obtain rfl : now = now' := Except.ok.inj (hread.symm.trans hnow')
    exact hpurges
  · exact fun hpurges => ⟨now, hread, hpurges⟩

theorem step_consume_eq (hread : s.clock.read = .ok now) :
    (s.step (.consume token)).1 = .ok (.ofConsume (s.ledger.judge now token)) := by
  simp only [step, hread, consume, consumeAt_eq]
  rfl

theorem accepts_iff (hread : s.clock.read = .ok now) :
    Accepts (eventOf step s (.consume token)) token ↔ s.ledger.judge now token = .ok () := by
  simp only [Accepts, eventOf, step_consume_eq hread, true_and]
  cases s.ledger.judge now token <;> simp [Answer.ofConsume]

theorem judge_of_accepts {action : Action} (haccepts : Accepts (eventOf step s action) token) :
    ∃ now, s.clock.read = .ok now ∧ s.ledger.judge now token = .ok () := by
  obtain rfl : action = .consume token := haccepts.1
  cases hread : s.clock.read with
  | error e =>
      have hanswer := haccepts.2
      simp [eventOf, step, hread, consume, Except.map] at hanswer
  | ok now => exact ⟨now, rfl, (accepts_iff hread).mp haccepts⟩

/-- A token presented before its expiry is accepted once and kept as consumed. -/
theorem follows_consume_of_live (hread : s.clock.read = .ok now) {n : Nonce}
    (hfind : s.ledger.find? token = some n) (hlive : n.isExpiredAt now = false) :
    Follows n (Purges (eventOf step s (.consume token)) token n.expiresAt)
      (Accepts (eventOf step s (.consume token)) token)
      ((s.step (.consume token)).2.ledger.find? token) := by
  have hkept : ¬ Purges (eventOf step s (.consume token)) token n.expiresAt := by
    intro hpurges
    have hexpired := Nonce.isExpiredAt_iff.mpr ((purges_iff hread).mp hpurges).1
    rw [hlive] at hexpired
    cases hexpired
  have haccepts : Accepts (eventOf step s (.consume token)) token ↔ n.consumed = false := by
    rw [accepts_iff hread]
    cases hconsumed : n.consumed <;> simp [judge, hfind, hlive, hconsumed]
  refine ⟨fun hpurges => absurd hpurges hkept, fun _ => ⟨true, ?_, ?_⟩⟩
  · simp only [step, hread, consume]
    exact find?_consumeAt_of_live hfind hlive
  · rw [haccepts]
    cases n.consumed <;> simp

theorem follows_consume_of_expired (hs : s.Coherent) (hread : s.clock.read = .ok now) {n : Nonce}
    (hfind : s.ledger.find? token = some n) (hexpired : n.isExpiredAt now = true) :
    Follows n (Purges (eventOf step s (.consume token)) token n.expiresAt)
      (Accepts (eventOf step s (.consume token)) token)
      ((s.step (.consume token)).2.ledger.find? token) := by
  refine follows_of_eq_ite True ?_ ?_ ?_
  · simp only [step, hread, consume]
    exact hs.find?_consumeAt_of_expired hfind hexpired
  · rw [purges_iff hread]
    simp [Nonce.isExpiredAt_iff.mp hexpired]
  · rw [accepts_iff hread]
    simp [judge, hfind, hexpired]

theorem follows_consume_of_ne (hs : s.Coherent) (hread : s.clock.read = .ok now) {n : Nonce}
    (hfind : s.ledger.find? token = some n) {other : String} (hother : other ≠ token) :
    Follows n (Purges (eventOf step s (.consume other)) token n.expiresAt)
      (Accepts (eventOf step s (.consume other)) token)
      ((s.step (.consume other)).2.ledger.find? token) := by
  refine follows_of_eq_ite False ?_ ?_ (by simp [Accepts, eventOf, hother])
  · simp only [step, hread, consume]
    exact (hs.find?_consumeAt_of_ne now hother).trans hfind
  · rw [purges_iff hread]
    simp [Sweeps, eventOf, hother]

/-- An attempt to issue another token removes what has expired, if it sweeps. -/
theorem follows_issue (hs : s.Coherent) (hread : s.clock.read = .ok now) {n : Nonce}
    (hfind : s.ledger.find? token = some n) {other : String}
    (hne : (s.step (.issue other)).1 ≠ .ok (.issued token)) :
    Follows n (Purges (eventOf step s (.issue other)) token n.expiresAt)
      (Accepts (eventOf step s (.issue other)) token)
      ((s.step (.issue other)).2.ledger.find? token) := by
  have hlookup := hs.find?_issue_of_ne now (hread ▸ issue_ne_of_step_ne hne)
  rw [find?_filtered hfind, hfind] at hlookup
  refine follows_of_eq_ite (n.expiresAt ≤ now ∧
    (s.ledger.isFull && s.ledger.sweepDue now) = true) ?_ ?_ (by simp [Accepts, eventOf])
  · simp only [step, hread]
    rw [hlookup]
    split <;> split <;> simp_all
  · rw [purges_iff hread]
    simp [Sweeps, eventOf]

theorem follows_of_unread {e : TimeOverflow} (hread : s.clock.read = .error e) {n : Nonce}
    (hfind : s.ledger.find? token = some n) (action : Action) :
    Follows n (Purges (eventOf step s action) token n.expiresAt)
      (Accepts (eventOf step s action) token) ((s.step action).2.ledger.find? token) := by
  rw [ledger_step_of_unread hread]
  refine ⟨?_, fun _ => kept_of_eq hfind ?_⟩
  · rintro ⟨now, hnow, -⟩
    simp [eventOf, hread] at hnow
  · intro haccepts
    obtain ⟨now, hnow, -⟩ := judge_of_accepts haccepts
    simp [hread] at hnow

/-- An event that does not hand out its token either removes a nonce or keeps it. -/
theorem follows_step (hs : s.Coherent) {n : Nonce} (hfind : s.ledger.find? token = some n)
    (action : Action) (hne : (s.step action).1 ≠ .ok (.issued token)) :
    Follows n (Purges (eventOf step s action) token n.expiresAt)
      (Accepts (eventOf step s action) token) ((s.step action).2.ledger.find? token) := by
  cases hread : s.clock.read with
  | error e => exact follows_of_unread hread hfind action
  | ok now =>
      cases action with
      | issue other => exact follows_issue hs hread hfind hne
      | consume other =>
          by_cases hother : other = token
          · subst hother
            cases hexpired : n.isExpiredAt now with
            | false => exact follows_consume_of_live hread hfind hexpired
            | true => exact follows_consume_of_expired hs hread hfind hexpired
          · exact follows_consume_of_ne hs hread hfind hother
      | sweep =>
          refine follows_of_eq_ite (n.expiresAt ≤ now) ?_ ?_ (by simp [Accepts, eventOf])
          · simp only [step, hread, sweep]
            exact (hs.find?_sweepAt now token).trans (find?_filtered hfind)
          · rw [purges_iff hread]
            simp [Sweeps, eventOf]
      | advance span =>
          refine follows_of_eq_ite False hfind ?_ (by simp [Accepts, eventOf])
          rw [purges_iff hread]
          simp [Sweeps, eventOf]

/-! ## One nonce through a run -/

theorem issuedTokens_append (first second : List Occurrence) :
    issuedTokens (first ++ second) = issuedTokens first ++ issuedTokens second :=
  List.filterMap_append

theorem issuedToken?_eq_some_iff {e : Occurrence} :
    issuedToken? e = some token ↔ e.answer = .ok (.issued token) := by
  unfold issuedToken?
  split
  next answer issued hanswer => simp [hanswer]
  next hother => simpa using hother token

theorem issuedTokens_cons (e : Occurrence) (trail : List Occurrence) :
    issuedTokens (e :: trail) = (issuedToken? e).toList ++ issuedTokens trail :=
  filterMap_cons_eq issuedToken? e trail

theorem mem_issuedTokens {trail : List Occurrence} :
    token ∈ issuedTokens trail ↔ ∃ e ∈ trail, e.answer = .ok (.issued token) := by
  simp only [issuedTokens, List.mem_filterMap, issuedToken?_eq_some_iff]

theorem issuedTokens_eq_nil {actions : List Action}
    (hnot : ∀ token, Action.issue token ∉ actions) : issuedTokens (events step s actions) = [] := by
  rw [List.eq_nil_iff_forall_not_mem]
  intro token hmem
  obtain ⟨e, he, hissued⟩ := mem_issuedTokens.mp hmem
  obtain ⟨before, since, hsplit⟩ := List.append_of_mem he
  obtain ⟨first, action, rest, rfl, -, rfl, -⟩ := exists_split_of_events hsplit
  obtain ⟨other, rfl, -⟩ := step_eq_issued_iff.mp hissued
  exact hnot other (List.mem_append_right _ List.mem_cons_self)

theorem acceptedToken?_eq_some_iff {e : Occurrence} :
    acceptedToken? e = some token ↔ Accepts e token := by
  unfold acceptedToken? Accepts
  split
  next accepted haction hanswer => simp [haction, hanswer]
  next hother => simpa using hother token

theorem mem_acceptedTokens {trail : List Occurrence} :
    token ∈ acceptedTokens trail ↔ ∃ e ∈ trail, Accepts e token := by
  simp only [acceptedTokens, List.mem_filterMap, acceptedToken?_eq_some_iff]

theorem acceptedTokens_append (first second : List Occurrence) :
    acceptedTokens (first ++ second) = acceptedTokens first ++ acceptedTokens second :=
  List.filterMap_append

theorem acceptedTokens_singleton (e : Occurrence) :
    acceptedTokens [e] = (acceptedToken? e).toList :=
  (filterMap_cons_eq acceptedToken? e []).trans (List.append_nil _)

theorem not_issued_cons {action : Action} {actions : List Action}
    (hnot : token ∉ issuedTokens (events step s (action :: actions))) :
    (s.step action).1 ≠ .ok (.issued token) ∧
      token ∉ issuedTokens (events step (s.step action).2 actions) := by
  simp only [mem_issuedTokens, events_cons, List.mem_cons, exists_eq_or_imp, not_or] at hnot ⊢
  exact hnot

theorem find?_outcome_of_none (hs : s.Coherent) (hnone : s.ledger.find? token = none)
    {actions : List Action} (hnot : token ∉ issuedTokens (events step s actions)) :
    (outcome step s actions).ledger.find? token = none := by
  induction actions generalizing s with
  | nil => exact hnone
  | cons action rest ih =>
      obtain ⟨hne, hrest⟩ := not_issued_cons hnot
      exact ih (hs.step action) (find?_step_of_none hs hnone action hne) hrest

/-- A tracked nonce whose token is not handed out again: the first event that purges it removes it,
and without one it is kept. -/
theorem follows_outcome (hs : s.Coherent) {n : Nonce} (hfind : s.ledger.find? token = some n)
    {actions : List Action} (hnot : token ∉ issuedTokens (events step s actions)) :
    Follows n (∃ e ∈ events step s actions, Purges e token n.expiresAt)
      (∃ e ∈ events step s actions, Accepts e token)
      ((outcome step s actions).ledger.find? token) := by
  induction actions generalizing s n with
  | nil => exact ⟨by simp, fun _ => kept_of_eq hfind (by simp)⟩
  | cons action rest ih =>
      obtain ⟨hne, hrest⟩ := not_issued_cons hnot
      obtain ⟨hremoved, hkept⟩ := follows_step hs hfind action hne
      simp only [events_cons, List.mem_cons, exists_eq_or_imp, outcome_cons]
      -- What was kept may have been consumed, so the induction is over every nonce of the token.
      by_cases hpurges : Purges (eventOf step s action) token n.expiresAt
      · have hnone := find?_outcome_of_none (hs.step action) (hremoved hpurges) hrest
        exact ⟨fun _ => hnone, fun hno => absurd (Or.inl hpurges) hno⟩
      · obtain ⟨consumed, hfound, hconsumed⟩ := hkept hpurges
        obtain ⟨hlater, hstays⟩ := ih (hs.step action) hfound hrest
        refine ⟨fun hany => hlater (hany.resolve_left hpurges), fun hno => ?_⟩
        obtain ⟨consumed', hend, hconsumed'⟩ := hstays fun hany => hno (Or.inr hany)
        refine ⟨consumed', hend, ?_⟩
        rw [hconsumed', hconsumed, or_assoc]

/-! ## From the issue of a token to its next presentation -/

/-- A token that is handed out is tracked from then on, for one lifetime. -/
theorem exists_of_step_issued {action : Action}
    (hissued : (s.step action).1 = .ok (.issued token)) :
    action = .issue token ∧ ∃ issuedAt expiry, s.clock.read = .ok issuedAt ∧
      issuedAt.after? s.ledger.lifetime = some expiry ∧
      (s.step action).2.ledger.find? token = some ⟨token, issuedAt, expiry, false⟩ := by
  obtain ⟨other, rfl, hother⟩ := step_eq_issued_iff.mp hissued
  cases hread : s.clock.read with
  | error e =>
      rw [hread] at hother
      cases hother
  | ok now =>
      rw [hread] at hother
      obtain ⟨rfl, expiry, hafter, hfind⟩ := exists_of_issue_issued hother
      refine ⟨rfl, now, expiry, rfl, hafter, ?_⟩
      simp only [step, hread]
      exact hfind

theorem not_mem_issuedTokens_of_split {before since : List Occurrence} {e : Occurrence}
    (hdistinct : (issuedTokens (before ++ e :: since)).Nodup)
    (hissued : e.answer = .ok (.issued token)) :
    token ∉ issuedTokens before ∧ token ∉ issuedTokens since := by
  have hsplit : issuedTokens (before ++ e :: since) =
      issuedTokens before ++ token :: issuedTokens since := by
    rw [issuedTokens_append, issuedTokens_cons, issuedToken?_eq_some_iff.mpr hissued]
    rfl
  rw [hsplit, List.nodup_middle, List.nodup_cons, List.mem_append, not_or] at hdistinct
  exact hdistinct.1

/-- The nonce of a token that was issued, at the end of the run. -/
theorem follows_of_issuedThen {start : Session} (hstart : start.Coherent) {past : List Action}
    (hdistinct : (issuedTokens (events step start past)).Nodup) {expiry : Instant}
    {since : List Occurrence}
    (hissued : IssuedThen start.ledger.lifetime (events step start past) token expiry since) :
    ∃ issuedAt, Follows ⟨token, issuedAt, expiry, false⟩ (∃ e ∈ since, Purges e token expiry)
      (∃ e ∈ since, Accepts e token) ((outcome step start past).ledger.find? token) := by
  obtain ⟨before, e, issuedAt, hsplit, ⟨-, hanswer, hread⟩, hafter⟩ := hissued
  have hnot := (not_mem_issuedTokens_of_split (hsplit ▸ hdistinct) hanswer).2
  obtain ⟨first, action, rest, rfl, -, rfl, rfl⟩ := exists_split_of_events hsplit
  have hfirst := hstart.outcome first
  obtain ⟨-, now, expiry', hread', hafter', hfind⟩ := exists_of_step_issued hanswer
  have hlifetime : (outcome step start first).ledger.lifetime = start.ledger.lifetime :=
    congrArg Prod.fst (settings_outcome start first)
  obtain rfl : now = issuedAt := Except.ok.inj (hread'.symm.trans hread)
  obtain rfl : expiry' = expiry := Option.some.inj (hafter'.symm.trans (hlifetime ▸ hafter))
  refine ⟨now, ?_⟩
  rw [outcome_append, outcome_cons]
  exact follows_outcome (hfirst.step action) hfind hnot

/-- A token that was issued has an issue in the past of the run. -/
theorem exists_issuedThen {start : Session} {past : List Action}
    (hissued : token ∈ issuedTokens (events step start past)) :
    ∃ expiry since,
      IssuedThen start.ledger.lifetime (events step start past) token expiry since := by
  obtain ⟨e, he, hanswer⟩ := mem_issuedTokens.mp hissued
  obtain ⟨before, since, hsplit⟩ := List.append_of_mem he
  obtain ⟨first, action, rest, -, -, rfl, -⟩ := exists_split_of_events hsplit
  obtain ⟨haction, now, expiry, hread, hafter, -⟩ := exists_of_step_issued hanswer
  have hlifetime : (outcome step start first).ledger.lifetime = start.ledger.lifetime :=
    congrArg Prod.fst (settings_outcome start first)
  exact ⟨expiry, since, before, _, now, hsplit, ⟨haction, hanswer, hread⟩, hlifetime ▸ hafter⟩

theorem mem_issuedTokens_of_accepts {start : Session} (hstart : start.Coherent)
    (hempty : start.ledger.find? token = none) {past : List Action}
    {before since : List Occurrence} {e : Occurrence}
    (hsplit : events step start past = before ++ e :: since) (haccepts : Accepts e token) :
    token ∈ issuedTokens before := by
  obtain ⟨first, action, rest, rfl, rfl, rfl, rfl⟩ := exists_split_of_events hsplit
  by_contra hnot
  have hnone := find?_outcome_of_none hstart hempty hnot
  obtain ⟨now, -, hjudge⟩ := judge_of_accepts haccepts
  simp [judge, hnone] at hjudge

/-- Of a token that was issued once, every acceptance comes after the issue. -/
theorem mem_since_of_accepts {start : Session} (hstart : start.Coherent)
    (hempty : start.ledger.find? token = none) {past : List Action}
    (hdistinct : (issuedTokens (events step start past)).Nodup) {expiry : Instant}
    {since : List Occurrence}
    (hissued : IssuedThen start.ledger.lifetime (events step start past) token expiry since)
    {e : Occurrence} (he : e ∈ events step start past) (haccepts : Accepts e token) :
    e ∈ since := by
  obtain ⟨before, issue, issuedAt, hsplit, ⟨haction, hanswer, -⟩, -⟩ := hissued
  have hbefore := (not_mem_issuedTokens_of_split (hsplit ▸ hdistinct) hanswer).1
  rw [hsplit, List.mem_append, List.mem_cons] at he
  rcases he with he | rfl | he
  · -- Accepted before the issue, the token would have been issued twice.
    obtain ⟨earlier, later, rfl⟩ := List.append_of_mem he
    rw [List.append_assoc, List.cons_append] at hsplit
    have hearlier := mem_issuedTokens_of_accepts hstart hempty hsplit haccepts
    exact absurd (issuedTokens_append _ _ ▸ List.mem_append_left _ hearlier) hbefore
  · have hconsume := haction.symm.trans haccepts.1
    cases hconsume
  · exact he

end Enrollment.Ledger.Session
