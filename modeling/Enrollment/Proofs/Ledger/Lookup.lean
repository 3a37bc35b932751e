import Enrollment.Proofs.Ledger.Coherence

/-!
# Looking up a token

What each operation on a ledger does to the nonce that is tracked under one token. Only issuing the
token puts a nonce there; consuming it marks the nonce, or removes it once it has expired; a sweep
removes it once it has expired; everything else leaves it as it is.
-/

namespace Enrollment.Ledger

variable {l l' : Ledger} {elapsed : Span} {now : Instant} {token : String}

/-- Where nonces left by a rule, a lookup finds what the rule let stay. -/
theorem Coherent.find?_filter (h : l.Coherent elapsed) (h' : l'.Coherent elapsed)
    {keep : Nonce → Bool} (hentries : l'.entries = l.entries.filter keep) (token : String) :
    l'.find? token = (l.find? token).filter keep := by
  apply Option.ext
  intro n
  rw [h'.find?_eq_some_iff, hentries, List.mem_filter, Option.filter_eq_some_iff,
    h.find?_eq_some_iff]
  exact and_right_comm

theorem Coherent.find?_sweepAt (h : l.Coherent elapsed) (now : Instant) (token : String) :
    (l.sweepAt now).2.find? token = (l.find? token).filter (fun n => !n.isExpiredAt now) :=
  h.find?_filter (h.sweepAt now) rfl token

theorem Coherent.find?_evict (h : l.Coherent elapsed) (now : Instant) (other token : String) :
    (l.evict now other).find? token =
      (l.find? token).filter (fun n => !(n.token == other && n.isExpiredAt now)) :=
  h.find?_filter (h.evict now other) rfl token

theorem find?_markConsumed (l : Ledger) (other token : String) :
    (l.markConsumed other).find? token = (l.find? token).map (Nonce.mark other) := by
  simp only [find?, markConsumed, List.find?_map]
  apply congrArg (Option.map (Nonce.mark other))
  apply congrArg (fun p => List.find? p l.entries)
  funext n
  simp

theorem find?_insert_self (l : Ledger) (n : Nonce) : (l.insert n).find? n.token = some n := by
  simp [find?, insert]

theorem find?_insert_of_ne (l : Ledger) {n : Nonce} (hne : n.token ≠ token) :
    (l.insert n).find? token = l.find? token := by
  simp only [find?, insert]
  rw [List.find?_cons_of_neg (by simpa using hne), List.find?_filter]
  congr 1
  funext m
  by_cases hm : m.token = token
  · simp [hm, Ne.symm hne]
  · simp [hm]

theorem token_of_find? {n : Nonce} (hfind : l.find? token = some n) : n.token = token := by
  simpa using List.find?_some hfind

/-- A nonce that a rule lets stay is found where others left by the rule. -/
theorem find?_filter_of_kept {ns : List Nonce} {n : Nonce} {p keep : Nonce → Bool}
    (hfind : ns.find? p = some n) (hkept : keep n = true) : (ns.filter keep).find? p = some n := by
  obtain ⟨hn, before, after, rfl, hbefore⟩ := List.find?_eq_some_iff_append.mp hfind
  rw [List.filter_append, List.filter_cons_of_pos hkept]
  refine List.find?_eq_some_iff_append.mpr ⟨hn, _, _, rfl, ?_⟩
  intro m hm
  exact hbefore m (List.mem_filter.mp hm).1

/-! ## Lookups after a token was judged -/

theorem find?_checkAndMark_of_ne {n : Nonce} {other : String}
    (hfind : l.find? token = some n) (hne : other ≠ token) :
    (l.checkAndMark now other).2.find? token = some n := by
  unfold checkAndMark
  split
  · have hother : n.token ≠ other := by
      rw [token_of_find? hfind]
      exact hne.symm
    rw [find?_markConsumed, hfind]
    simp [Nonce.mark, hother]
  · exact hfind

/-- A nonce that has not expired is accepted if it is not marked, and is marked from then on. -/
theorem checkAndMark_of_live {n : Nonce} (hfind : l.find? token = some n)
    (hlive : n.isExpiredAt now = false) :
    l.judge now token = (if n.consumed then .error .alreadyUsed else .ok ()) ∧
      (l.checkAndMark now token).2.find? token = some { n with consumed := true } := by
  have htoken : n.token = token := token_of_find? hfind
  cases hconsumed : n.consumed with
  | false =>
      have hjudge : l.judge now token = .ok () := by simp [judge, hfind, hlive, hconsumed]
      refine ⟨hjudge, ?_⟩
      simp only [checkAndMark, hjudge]
      rw [find?_markConsumed, hfind]
      simp [Nonce.mark, htoken]
  | true =>
      have hjudge : l.judge now token = .error .alreadyUsed := by
        simp [judge, hfind, hlive, hconsumed]
      refine ⟨hjudge, ?_⟩
      simp only [checkAndMark, hjudge]
      rw [hfind, ← hconsumed]

/-! ## Lookups after a call -/

theorem Coherent.find?_makeRoom (h : l.Coherent elapsed) (now : Instant) (token : String) :
    (l.makeRoom now).find? token =
      if l.isFull && l.sweepDue now then (l.find? token).filter (fun n => !n.isExpiredAt now)
      else l.find? token := by
  unfold Ledger.makeRoom
  split
  · exact h.find?_sweepAt now token
  · rfl

/-- An attempt to issue that does not hand out the token leaves the lookup alone. -/
theorem find?_grant_of_ne (l : Ledger) (now : Instant) {other : String}
    (hne : (l.grant now other).1 ≠ .ok (.ok token)) :
    (l.grant now other).2.find? token = l.find? token := by
  unfold grant at hne ⊢
  split
  next => rfl
  next hfull =>
    split
    next => rfl
    next expiry hafter =>
      have hother : other ≠ token := by simpa [hfull, hafter] using hne
      exact find?_insert_of_ne l hother

/-- A token that is handed out is tracked, for one lifetime from now. -/
theorem exists_of_issue_issued {other : String}
    (hissued : (l.issue (.ok now) other).1 = .ok (.ok token)) :
    other = token ∧ ∃ expiry, now.after? l.lifetime = some expiry ∧
      (l.issue (.ok now) other).2.find? token = some ⟨token, now, expiry, false⟩ := by
  have hlifetime : (l.makeRoom now).lifetime = l.lifetime :=
    congrArg Prod.fst (settings_makeRoom l now)
  simp only [issue, grant, hlifetime] at hissued ⊢
  split at hissued
  next => cases hissued
  next hfull =>
    split at hissued
    next => cases hissued
    next expiry hafter =>
      obtain rfl : other = token := by simpa using hissued
      refine ⟨rfl, expiry, hafter, ?_⟩
      simp only [hfull, Bool.false_eq_true, if_false]
      exact find?_insert_self _ _

theorem Coherent.find?_issue_of_ne (h : l.Coherent elapsed) (now : Instant) {other : String}
    (hne : (l.issue (.ok now) other).1 ≠ .ok (.ok token)) :
    (l.issue (.ok now) other).2.find? token =
      if l.isFull && l.sweepDue now then (l.find? token).filter (fun n => !n.isExpiredAt now)
      else l.find? token :=
  (find?_grant_of_ne _ now hne).trans (h.find?_makeRoom now token)

theorem Coherent.find?_consumeAt_of_ne (h : l.Coherent elapsed) (now : Instant) {other : String}
    (hne : other ≠ token) : (l.consumeAt now other).2.find? token = l.find? token := by
  rw [consumeAt_eq]
  cases hfind : l.find? token with
  | none =>
      split
      · exact (find?_markConsumed l other token).trans (by rw [hfind]; rfl)
      · exact (h.find?_evict now other token).trans (by rw [hfind]; rfl)
      · exact hfind
  | some n =>
      have hother : (n.token == other) = false := by
        simpa [token_of_find? hfind] using Ne.symm hne
      split
      · refine (find?_markConsumed l other token).trans ?_
        simp [hfind, Nonce.mark, hother]
      · refine (h.find?_evict now other token).trans ?_
        simp [hfind, hother]
      · exact hfind

theorem Coherent.find?_consumeAt_of_expired (h : l.Coherent elapsed) {n : Nonce}
    (hfind : l.find? token = some n) (hexpired : n.isExpiredAt now = true) :
    (l.consumeAt now token).2.find? token = none := by
  have hjudge : l.judge now token = .error .expired := by simp [judge, hfind, hexpired]
  rw [consumeAt_eq, hjudge]
  refine (h.find?_evict now token token).trans ?_
  simp [hfind, token_of_find? hfind, hexpired]

theorem find?_consumeAt_of_live {n : Nonce} (hfind : l.find? token = some n)
    (hlive : n.isExpiredAt now = false) :
    (l.consumeAt now token).2.find? token = some { n with consumed := true } := by
  obtain ⟨hjudge, hmarked⟩ := checkAndMark_of_live hfind hlive
  have hentries : (l.consumeAt now token).2.entries = (l.checkAndMark now token).2.entries := by
    rw [consumeAt_eq, checkAndMark, hjudge]
    cases n.consumed <;> rfl
  unfold find?
  rw [hentries]
  exact hmarked

end Enrollment.Ledger
