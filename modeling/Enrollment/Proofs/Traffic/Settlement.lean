import Enrollment.Proofs.Traffic.Winners

/-!
# Every interleaving

What holds of all interleavings of a new registry that hand out no token twice, put together: how
races end, that no nonce leaves early, and that what leaves is counted.
-/

namespace Enrollment.Registry.Traffic

/-- A registry with nothing under way. -/
def start (clock : Clock) (registry : Registry) : Traffic :=
  ⟨clock, registry, [], []⟩

/-- A call has come to its answer. -/
def answered : Stage → Bool
  | .answered _ => true
  | _ => false

/-- Every call is answered and no sweep is under way. -/
def Idle (s : Traffic) : Prop :=
  (∀ call ∈ s.calls, answered call.stage = true) ∧ s.sweeps = []

instance (s : Traffic) : Decidable s.Idle :=
  inferInstanceAs (Decidable (_ ∧ _))

variable {s : Traffic}

theorem timely_start (clock : Clock) (registry : Registry) : (start clock registry).Timely where
  calls_le _ hcall := absurd hcall List.not_mem_nil
  sweeps_le _ hsweep := absurd hsweep List.not_mem_nil

theorem owed_of_idle (hidle : s.Idle) : s.owed = 0 := by
  obtain ⟨hcalls, hsweeps⟩ := hidle
  have hnothing : ∀ owed ∈ s.calls.map (Call.owed ·.stage), owed = 0 := by
    intro owed howed
    obtain ⟨call, hcall, rfl⟩ := List.mem_map.mp howed
    have hanswered := hcalls call hcall
    cases hstage : call.stage <;> simp_all [answered, Call.owed]
  unfold owed
  rw [hsweeps, List.map_nil, List.sum_nil, Nat.add_zero]
  exact List.sum_eq_zero_iff_forall_eq_nat.mpr hnothing

/-- In every interleaving of a new registry that hands out no token twice: no token is accepted
twice; of callers that present a token that was not used, all before it expires, one is accepted and
the others are told that it was used; of authorized callers for a user identifier that is free, if
the directory is within reach of them, one makes its account and the others are told that it is in
use; no nonce leaves before it expires; and what leaves is counted once, so that, with nothing under
way, the nonces that were issued are those that are tracked and those that were evicted. -/
theorem one_winner_in_every_interleaving {lifetime : Span} {fresh : Ledger}
    (hfresh : Ledger.create lifetime = .ok fresh) (clock : Clock) (maxEntries : Nat)
    (secret : Secret) (directory : Directory) (actions : List Action)
    (hdistinct : (issuedTokens (events step
      (start clock (create (fresh.withCapacity maxEntries) secret directory)) actions)).Nodup) :
    let new := start clock (create (fresh.withCapacity maxEntries) secret directory)
    let trail := events step new actions
    let s := outcome step new actions
    (acceptedTokens trail).Nodup ∧
      (∀ first rest, actions = first ++ rest →
        let s := outcome step new first
        let later := events step s rest
        (∀ token n, s.ledger.find? token = some n → n.consumed = false →
          (∀ e ∈ later, judgement? token e ≠ none →
            e.before.clock.elapsed.nanos < n.expiresAt.nanos) →
          OneWinner (judgements token later) .alreadyUsed) ∧
        (∀ userId, s.registry.directory.get? userId = none →
          OneWinner (requests userId later) (.userInUse userId) ∧
          ((outcome step s rest).registry.directory.recordsOf userId).map (·.deviceId) =
            (made (requests userId later)).map (·.deviceId))) ∧
      (∀ e ∈ trail, ∀ n ∈ e.before.ledger.entries,
        e.before.clock.elapsed.nanos < n.expiresAt.nanos →
          n ∈ e.after.ledger.entries ∨ { n with consumed := true } ∈ e.after.ledger.entries) ∧
      s.Counted (issuedTokens trail).length (trail.map removed).sum ∧
      (s.Idle → s.ledger.tally.issued = s.ledger.size.toUInt64 + s.ledger.tally.evicted) := by
  intro new trail s
  obtain rfl := Ledger.eq_of_create hfresh
  have htimely : new.Timely := timely_start _ _
  have hempty : new.ledger.entries = [] := rfl
  have hnothing : new.Counted 0 0 := ⟨rfl, rfl, rfl⟩
  have haccounted := accounted_outcome htimely hempty actions hdistinct
  have hcounted := counted_outcome htimely hempty hnothing actions hdistinct
  refine ⟨haccounted.accepted_nodup, ?_, ?_, hcounted, ?_⟩
  · rintro first rest rfl
    rw [issuedTokens_append] at hdistinct
    obtain ⟨hfirst, -, hdisjoint⟩ := List.nodup_append.mp hdistinct
    refine ⟨?_, fun userId hfree => one_made _ hfree rest⟩
    intro token n hfind hfreshNonce hearly
    refine one_accepted (htimely.outcome first) hfind hfreshNonce ?_ hearly
    -- The nonce is tracked, so that its token was handed out before.
    have htracked := (accounted_outcome htimely hempty first hfirst).tracked n
      (List.mem_of_find?_eq_some hfind)
    rw [Ledger.token_of_find? hfind] at htracked
    intro hissued
    exact hdisjoint token htracked token hissued rfl
  · intro e he n hn hlive
    obtain ⟨past, future, hsplit⟩ := List.append_of_mem he
    obtain ⟨first, action, rest, rfl, -, rfl, -⟩ := exists_split_of_events hsplit
    have hchange := change_step (htimely.outcome first) action
    refine hchange.stays hn hlive fun token hissued =>
      fresh_of_nodup htimely hempty ?_ token hissued n hn
    have happend : first ++ action :: rest = (first ++ [action]) ++ rest := by simp
    rw [happend, issuedTokens_append] at hdistinct
    exact List.Nodup.of_append_left hdistinct
  · intro hidle
    exact hcounted.issued_eq_of_settled (owed_of_idle hidle)

/-- Two callers race for one token, the winner and a third caller for one user identifier; and a
nonce that has expired is removed by a sweep before the caller that presented it comes to that. -/
theorem two_races_for_alice :
    let fresh : Ledger := ⟨.ofSeconds 10, Ledger.defaultCapacity, [], none, {}⟩
    let secret : Secret := ⟨[1], by decide⟩
    let directory : Directory := .create "server" (.ofSeconds 300)
    let new := start .start (create (fresh.withCapacity 3) secret directory)
    let first : Fields := ⟨"a", "alice", "password", false, none⟩
    let second : Fields := ⟨"b", "alice", "another", true, none⟩
    let attempt : Attempt := ⟨first, secret.signFields first, none⟩
    let rival : Attempt := ⟨second, secret.signFields second, none⟩
    let late : Attempt := ⟨⟨"c", "bob", "password", false, none⟩, "", none⟩
    let issues : List Action := [.issue "a", .issue "b", .issue "c"]
    let presents : List Action :=
      [.call attempt default, .call attempt default, .call rival default, .proceed 1, .proceed 0,
        .proceed 2]
    let asks : List Action :=
      [.proceed 1, .proceed 2, .proceed 1, .proceed 2, .proceed 2, .proceed 1]
    let expires : List Action :=
      [.advance (.ofSeconds 10), .call late default, .proceed 0, .beginSweep, .visit 0 "c",
        .proceed 0, .proceed 0, .proceed 0, .proceed 0, .visit 0 "a", .endSweep 0]
    let issued := outcome step new issues
    let presented := outcome step new (issues ++ presents)
    let expired := outcome step new (issues ++ expires)
    Ledger.create (.ofSeconds 10) = .ok fresh ∧ (issuedTokens (events step new issues)).Nodup ∧
      judgements "a" (events step issued presents) = [(1, .ok ()), (0, .error .alreadyUsed)] ∧
      OneWinner (judgements "a" (events step issued presents)) .alreadyUsed ∧
      (requests "@alice:server" (events step presented asks)).map Prod.fst = [2, 1] ∧
      OneWinner (requests "@alice:server" (events step presented asks))
        (.userInUse "@alice:server") ∧
      expired.Idle ∧ expired.ledger.size = 1 ∧ expired.ledger.tally.evicted = 2 ∧
      expired.ledger.tally.issued =
        expired.ledger.size.toUInt64 + expired.ledger.tally.evicted := by
  intro fresh secret directory new first second attempt rival late issues presents asks expires
    issued presented expired
  have hfresh : Ledger.create (.ofSeconds 10) = .ok fresh := rfl
  let n : Nonce := ⟨"a", .origin, ⟨10000000000, by decide⟩, false⟩
  obtain ⟨hissued, hfind, hearly, htold, hfree⟩ :
      (issuedTokens (events step new issues)).Nodup ∧ issued.ledger.find? "a" = some n ∧
        (∀ e ∈ events step issued presents, judgement? "a" e ≠ none →
          e.before.clock.elapsed.nanos < n.expiresAt.nanos) ∧
        judgements "a" (events step issued presents) = [(1, .ok ()), (0, .error .alreadyUsed)] ∧
        presented.registry.directory.get? "@alice:server" = none := by
    decide +kernel
  have hasked : (requests "@alice:server" (events step presented asks)).map Prod.fst = [2, 1] := by
    decide +kernel
  obtain ⟨hidle, hsize, hevicted⟩ :
      expired.Idle ∧ expired.ledger.size = 1 ∧ expired.ledger.tally.evicted = 2 := by
    decide +kernel
  -- No other run hands out more than the first.
  have hdistinct : ∀ rest : List Action, (∀ token, .issue token ∉ rest) →
      (issuedTokens (events step new (issues ++ rest))).Nodup := by
    intro rest hnot
    rw [issuedTokens_append, issuedTokens_eq_nil hnot, List.append_nil]
    exact hissued
  have hpresents := one_winner_in_every_interleaving hfresh .start 3 secret directory
    (issues ++ presents) (hdistinct presents (by simp [presents]))
  have hasks := one_winner_in_every_interleaving hfresh .start 3 secret directory
    (issues ++ (presents ++ asks)) (hdistinct (presents ++ asks) (by simp [presents, asks]))
  have hexpires := one_winner_in_every_interleaving hfresh .start 3 secret directory
    (issues ++ expires) (hdistinct expires (by simp [expires]))
  have hnew : start .start (create (fresh.withCapacity 3) secret directory) = new := rfl
  have hpresented : outcome step new (issues ++ presents) = presented := rfl
  have hexpired : outcome step new (issues ++ expires) = expired := rfl
  have huser := (hasks.2.1 (issues ++ presents) asks rfl).2 "@alice:server"
  have hsettled := hexpires.2.2.2.2
  simp only [hnew, hpresented] at huser
  simp only [hnew, hexpired] at hsettled
  have htoken := (hpresents.2.1 issues presents rfl).1 "a" n hfind rfl hearly
  exact ⟨hfresh, hissued, htold, htoken, hasked, (huser hfree).1, hidle, hsize, hevicted,
    hsettled hidle⟩

end Enrollment.Registry.Traffic
