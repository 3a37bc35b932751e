import Enrollment.Proofs.Traffic.Interleaving
import Mathlib.Data.List.Induction

/-!
# Tokens in interleavings

However calls are interleaved, no token is accepted twice, provided that none is handed out twice:
a nonce that was accepted is marked for as long as it is tracked, and a token that is no longer
tracked is tracked never again. And no nonce leaves before it has expired, for what removes nonces
looks at readings of the clock that are not ahead of it.
-/

namespace Enrollment.Registry.Traffic

/-- The token that was handed out. -/
def issued? : Report → Option String
  | .issued token => some token
  | _ => none

/-- The token that was accepted. -/
def accepted? : Report → Option String
  | .judged token (.ok ()) => some token
  | _ => none

/-- The tokens handed out in a run, oldest first. -/
def issuedTokens (trail : List Occurrence) : List String :=
  trail.filterMap (issued? ·.answer)

/-- The tokens accepted in a run, oldest first. -/
def acceptedTokens (trail : List Occurrence) : List String :=
  trail.filterMap (accepted? ·.answer)

variable {s : Traffic} {action : Action} {report : Report} {entries : List Nonce}
  {token : String} {n : Nonce} {trail : List Occurrence}

theorem issuedTokens_snoc (trail : List Occurrence) (e : Occurrence) :
    issuedTokens (trail ++ [e]) = issuedTokens trail ++ (issued? e.answer).toList := by
  unfold issuedTokens
  rw [List.filterMap_append, filterMap_cons_eq]
  simp

theorem issuedTokens_append (s : Traffic) (first rest : List Action) :
    issuedTokens (events step s (first ++ rest)) =
      issuedTokens (events step s first) ++
        issuedTokens (events step (outcome step s first) rest) := by
  rw [events_append]
  exact List.filterMap_append

theorem acceptedTokens_snoc (trail : List Occurrence) (e : Occurrence) :
    acceptedTokens (trail ++ [e]) = acceptedTokens trail ++ (accepted? e.answer).toList := by
  unfold acceptedTokens
  rw [List.filterMap_append, filterMap_cons_eq]
  simp

theorem issued?_of_token? (hreport : token? report = none) : issued? report = none := by
  cases report <;> simp_all [token?, issued?]

theorem accepted?_of_token? (hreport : token? report = none) : accepted? report = none := by
  cases report <;> simp_all [token?, accepted?]

theorem issued?_next (r : Registry) (c : Call) : issued? (c.next r).1 = none := by
  obtain ⟨attempt, drawn, stage⟩ := c
  cases stage with
  | creating =>
      simp only [Call.next]
      cases r.outage <;> rfl
  | _ => rfl

/-- Only an attempt to issue hands out a token. -/
theorem issued?_step (hnot : ∀ token, action ≠ .issue token) : issued? (s.step action).1 = none := by
  cases action with
  | issue token => exact absurd rfl (hnot token)
  | proceed caller =>
      simp only [step]
      split
      · rfl
      · exact issued?_next _ _
  | call attempt drawn => rfl
  | advance span => rfl
  | setOutage outage => rfl
  | _ =>
      simp only [step]
      split <;> rfl

theorem issuedTokens_eq_nil {actions : List Action} (hnot : ∀ token, .issue token ∉ actions) :
    issuedTokens (events step s actions) = [] := by
  apply List.filterMap_eq_nil_iff.mpr
  intro e he
  obtain ⟨past, future, hsplit⟩ := List.append_of_mem he
  obtain ⟨first, action, rest, rfl, -, rfl, -⟩ := exists_split_of_events hsplit
  apply issued?_step
  rintro token rfl
  exact hnot token (by simp)

/-! ## No token is accepted twice -/

/-- What is tracked was handed out, and what was accepted is marked if it is tracked. -/
structure Accounted (issued accepted : List String) (entries : List Nonce) : Prop where
  tracked : ∀ n ∈ entries, n.token ∈ issued
  known : ∀ token ∈ accepted, token ∈ issued
  marked : ∀ n ∈ entries, n.token ∈ accepted → n.consumed = true
  accepted_nodup : accepted.Nodup

variable {l : Ledger} {issued accepted : List String}

theorem Accounted.of_subset (h : Accounted issued accepted l.entries)
    (hsubset : entries ⊆ l.entries) : Accounted issued accepted entries where
  tracked n hn := h.tracked n (hsubset hn)
  known := h.known
  marked n hn := h.marked n (hsubset hn)
  accepted_nodup := h.accepted_nodup

theorem Accounted.accept (h : Accounted issued accepted l.entries) {now : Instant}
    (hjudge : l.judge now token = .ok ()) :
    Accounted issued (accepted ++ [token]) (l.markConsumed token).entries := by
  obtain ⟨n, hfind, -, hfresh⟩ := Ledger.exists_of_judge_eq_ok hjudge
  have hn := List.mem_of_find?_eq_some hfind
  obtain rfl := Ledger.token_of_find? hfind
  refine ⟨?_, ?_, ?_, ?_⟩
  · intro m hm
    obtain ⟨m, hold, rfl⟩ := List.mem_map.mp hm
    rw [Nonce.mark_token]
    exact h.tracked m hold
  · intro token htoken
    rcases List.mem_append.mp htoken with hold | hnew
    · exact h.known token hold
    · rw [List.mem_singleton.mp hnew]
      exact h.tracked n hn
  · intro m hm haccepted
    obtain ⟨m, hold, rfl⟩ := List.mem_map.mp hm
    by_cases heq : m.token = n.token
    · simp [Nonce.mark, heq]
    · have hsame : m.mark n.token = m := by simp [Nonce.mark, heq]
      rw [hsame] at haccepted ⊢
      rcases List.mem_append.mp haccepted with hbefore | hnew
      · exact h.marked m hold hbefore
      · exact absurd (List.mem_singleton.mp hnew) heq
  · -- The nonce was not marked, so that its token was not accepted before.
    apply List.nodup_append.mpr
    refine ⟨h.accepted_nodup, List.nodup_singleton _, ?_⟩
    rintro token htoken _ hnew rfl
    rw [List.mem_singleton.mp hnew] at htoken
    rw [h.marked n hn htoken] at hfresh
    cases hfresh

theorem Accounted.issue (h : Accounted issued accepted l.entries) (hnew : n.token ∉ issued) :
    Accounted (issued ++ [n.token]) accepted (l.insert n).entries := by
  refine ⟨?_, ?_, ?_, h.accepted_nodup⟩
  · intro m hm
    rcases List.mem_cons.mp hm with rfl | hold
    · exact List.mem_append_right _ (List.mem_singleton_self _)
    · exact List.mem_append_left _ (h.tracked m (List.mem_filter.mp hold).1)
  · intro token htoken
    exact List.mem_append_left _ (h.known token htoken)
  · intro m hm haccepted
    rcases List.mem_cons.mp hm with rfl | hold
    · exact absurd (h.known _ haccepted) hnew
    · exact h.marked m (List.mem_filter.mp hold).1 haccepted

/-- Each of the four ways to change the nonces keeps the account. -/
theorem Accounted.change (h : Accounted issued accepted s.ledger.entries)
    (hchange : Change s action report entries)
    (hdistinct : (issued ++ (issued? report).toList).Nodup) :
    Accounted (issued ++ (issued? report).toList) (accepted ++ (accepted? report).toList)
      entries := by
  cases hchange with
  | kept hreport =>
      rw [issued?_of_token? hreport, accepted?_of_token? hreport]
      simpa using h
  | @judged _ call now _ _ _ =>
      cases hjudge : s.ledger.judge now call.token with
      | ok _ =>
          simp only [Ledger.checkAndMark, hjudge]
          simpa [issued?, accepted?] using h.accept hjudge
      | error e =>
          simp only [Ledger.checkAndMark, hjudge]
          simpa [issued?, accepted?] using h
  | @discarded _ now token _ =>
      have hless : Accounted issued accepted (s.ledger.discard now token).entries :=
        h.of_subset (List.filter_subset_self _)
      simpa [issued?, accepted?] using hless
  | @issued token now expiry hread =>
      have hnew : token ∉ issued := by
        intro hmem
        exact (List.nodup_append.mp hdistinct).2.2 token hmem token (by simp [issued?]) rfl
      simpa [issued?, accepted?] using h.issue (n := ⟨token, now, expiry, false⟩) hnew

theorem accounted_outcome {start : Traffic} (hstart : start.Timely)
    (hempty : start.ledger.entries = []) (actions : List Action)
    (hdistinct : (issuedTokens (events step start actions)).Nodup) :
    Accounted (issuedTokens (events step start actions))
      (acceptedTokens (events step start actions)) (outcome step start actions).ledger.entries := by
  induction actions using List.reverseRecOn with
  | nil =>
      have hnone : ∀ n ∈ start.ledger.entries, False := by simp [hempty]
      exact ⟨fun n hn => (hnone n hn).elim, by simp [acceptedTokens],
        fun n hn => (hnone n hn).elim, List.nodup_nil⟩
  | append_singleton first action ih =>
      rw [events_snoc, issuedTokens_snoc] at hdistinct ⊢
      rw [acceptedTokens_snoc, outcome_append]
      have hfirst := ih (List.Nodup.of_append_left hdistinct)
      exact hfirst.change (change_step (hstart.outcome first) action) hdistinct

/-- No tracked nonce has the token that an action hands out. -/
def Fresh (s : Traffic) (action : Action) : Prop :=
  ∀ token, (s.step action).1 = .issued token → ∀ n ∈ s.ledger.entries, n.token ≠ token

/-- A token that is tracked was handed out before, and so is not handed out once more. -/
theorem fresh_of_nodup {start : Traffic} (hstart : start.Timely)
    (hempty : start.ledger.entries = []) {first : List Action}
    (hdistinct : (issuedTokens (events step start (first ++ [action]))).Nodup) :
    (outcome step start first).Fresh action := by
  rw [events_snoc, issuedTokens_snoc] at hdistinct
  obtain ⟨hfirst, -, hdisjoint⟩ := List.nodup_append.mp hdistinct
  rintro _ hissued n hn rfl
  have htracked := (accounted_outcome hstart hempty first hfirst).tracked n hn
  exact hdisjoint n.token htracked n.token (by simp [eventOf, hissued, issued?]) rfl

/-! ## No nonce leaves before it has expired -/

/-- None of the four ways to change the nonces removes one that has not expired. -/
theorem Change.stays (h : Change s action report entries) (hn : n ∈ s.ledger.entries)
    (hlive : s.clock.elapsed.nanos < n.expiresAt.nanos)
    (hfresh : ∀ token, report = .issued token → n.token ≠ token) :
    n ∈ entries ∨ { n with consumed := true } ∈ entries := by
  cases h with
  | kept _ => exact Or.inl hn
  | @judged _ call now _ _ _ =>
      cases hjudge : s.ledger.judge now call.token with
      | ok _ =>
          simp only [Ledger.checkAndMark, hjudge]
          have hmarked : n.mark call.token ∈ (s.ledger.markConsumed call.token).entries :=
            List.mem_map_of_mem hn
          unfold Nonce.mark at hmarked
          split at hmarked
          · exact Or.inr hmarked
          · exact Or.inl hmarked
      | error e =>
          simp only [Ledger.checkAndMark, hjudge]
          exact Or.inl hn
  | @discarded _ now token hnow =>
      have hkept : n.isExpiredAt now = false := by
        rw [Nonce.isExpiredAt_eq_false_iff, Instant.lt_def]
        omega
      exact Or.inl (List.mem_filter.mpr ⟨hn, by simp [hkept]⟩)
  | @issued token now expiry _ =>
      have hne : n.token ≠ token := hfresh token rfl
      exact Or.inl (List.mem_cons_of_mem _ (List.mem_filter.mpr ⟨hn, by simpa using hne⟩))

end Enrollment.Registry.Traffic
