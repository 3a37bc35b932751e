import Enrollment.Proofs.Traffic.Evictions

/-!
# Races

Several callers may go for one thing of which there is one: a token that can be accepted, or a user
identifier that is free. Whoever comes to the section that takes it first wins, and what is left of
the race is a state in which everybody else is told the same loss, however calls are interleaved.
-/

namespace Enrollment

/-- Of callers that were answered one after another, each once, the first wins and all others are
told the same loss. -/
structure OneWinner {α ε : Type} (answers : List (Nat × Except ε α)) (loss : ε) : Prop where
  callers_nodup : (answers.map Prod.fst).Nodup
  one_wins : answers = [] ∨ ∃ winner prize losers, answers = (winner, .ok prize) :: losers ∧
    ∀ answer ∈ losers, answer.2 = .error loss

section Race

variable {State Action Answer α ε : Type}

/-- A race for what `shows` shows of events: it is open until somebody wins, and from then on it is
won. Only events that are fair need to keep to it. -/
structure Race (step : State → Action → Answer × State)
    (shows : Event State Action Answer → Option (Nat × Except ε α)) (loss : ε)
    (Fair : Event State Action Answer → Prop) (Open : State → Prop) (Won : α → State → Prop) :
    Prop where
  run : ∀ s action, Fair (eventOf step s action) → Open s →
    (shows (eventOf step s action) = none ∧ Open (step s action).2) ∨
      ∃ winner prize, shows (eventOf step s action) = some (winner, .ok prize) ∧
        Won prize (step s action).2
  lost : ∀ s action prize, Fair (eventOf step s action) → Won prize s →
    (∀ answer, shows (eventOf step s action) = some answer → answer.2 = .error loss) ∧
      Won prize (step s action).2

namespace Race

variable {step : State → Action → Answer × State}
  {shows : Event State Action Answer → Option (Nat × Except ε α)} {loss : ε}
  {Fair : Event State Action Answer → Prop} {Open : State → Prop} {Won : α → State → Prop}
  {s : State} {prize : α} {actions : List Action}

/-- In a race that is won, everybody loses. -/
theorem all_lose (h : Race step shows loss Fair Open Won) (hs : Won prize s)
    (hfair : ∀ e ∈ events step s actions, Fair e) :
    (∀ answer ∈ (events step s actions).filterMap shows, answer.2 = .error loss) ∧
      Won prize (outcome step s actions) := by
  induction actions generalizing s with
  | nil => exact ⟨by simp, hs⟩
  | cons action rest ih =>
      obtain ⟨hloss, hafter⟩ := h.lost s action prize (hfair _ List.mem_cons_self) hs
      obtain ⟨hlater, hend⟩ := ih hafter fun e he => hfair e (List.mem_cons_of_mem _ he)
      refine ⟨?_, hend⟩
      intro answer hanswer
      rw [events_cons, filterMap_cons_eq] at hanswer
      rcases List.mem_append.mp hanswer with hfirst | hrest
      · exact hloss answer (Option.mem_toList.mp hfirst)
      · exact hlater answer hrest

/-- In a race that is open, nobody goes for it, or the first wins and all others lose. -/
theorem settled (h : Race step shows loss Fair Open Won) (hs : Open s)
    (hfair : ∀ e ∈ events step s actions, Fair e) :
    ((events step s actions).filterMap shows = [] ∧ Open (outcome step s actions)) ∨
      ∃ winner prize losers, (events step s actions).filterMap shows = (winner, .ok prize) :: losers ∧
        (∀ answer ∈ losers, answer.2 = .error loss) ∧ Won prize (outcome step s actions) := by
  induction actions generalizing s with
  | nil => exact Or.inl ⟨rfl, hs⟩
  | cons action rest ih =>
      have hrest : ∀ e ∈ events step (step s action).2 rest, Fair e :=
        fun e he => hfair e (List.mem_cons_of_mem _ he)
      rw [events_cons, filterMap_cons_eq]
      rcases h.run s action (hfair _ List.mem_cons_self) hs with
        ⟨hnone, hopen⟩ | ⟨winner, prize, hwins, hwon⟩
      · rw [hnone]
        exact ih hopen hrest
      · obtain ⟨hlose, hend⟩ := h.all_lose hwon hrest
        rw [hwins]
        exact Or.inr ⟨winner, prize, _, rfl, hlose, hend⟩

end Race

end Race

namespace Registry

/-! ## Callers go on -/

namespace Call

/-- How far a call has come. -/
def rank : Stage → Nat
  | .presenting _ => 0
  | .expired _ | .accepted => 1
  | .removed _ | .authorized => 2
  | .rejected _ | .creating => 3
  | .denied _ | .made _ => 4
  | .answered _ => 5

theorem rank_lt_next (r : Registry) {c : Call} (hrank : rank c.stage < 5) :
    rank c.stage < rank (c.next r).2.2 := by
  obtain ⟨attempt, drawn, stage⟩ := c
  cases stage with
  | presenting now =>
      simp only [next]
      rcases (r.ledger.checkAndMark now (token ⟨attempt, drawn, .presenting now⟩)).1 with
        (_ | _ | _) | _ <;> simp [rank, afterJudgement]
  | accepted =>
      simp only [next]
      cases r.authority.authorize attempt <;> simp [rank, afterComparison]
  | creating =>
      simp only [next]
      cases r.outage <;> simp [rank]
  | answered answer => exact absurd hrank (Nat.lt_irrefl 5)
  | _ => exact Nat.lt_succ_self _

theorem rank_le_next (r : Registry) (c : Call) : rank c.stage ≤ rank (c.next r).2.2 := by
  obtain ⟨attempt, drawn, stage⟩ := c
  cases stage with
  | answered answer => exact Nat.le_refl 5
  | _ => exact Nat.le_of_lt (rank_lt_next r (by simp [rank]))

end Call

namespace Traffic

variable {s : Traffic} {action : Action} {caller rank : Nat}

/-- A caller has come further than a rank. -/
def Passed (s : Traffic) (caller rank : Nat) : Prop :=
  ∃ call, s.calls[caller]? = some call ∧ rank < Call.rank call.stage

theorem passed_of_set {registry : Registry} {call : Call} {stage : Stage}
    (hcall : s.calls[caller]? = some call) (hrank : rank < Call.rank stage) :
    Passed { s with registry, calls := s.calls.set caller { call with stage } } caller rank := by
  obtain ⟨hlt, -⟩ := List.getElem?_eq_some_iff.mp hcall
  exact ⟨{ call with stage }, by simp [hlt], hrank⟩

theorem Passed.step (h : s.Passed caller rank) (action : Action) :
    (s.step action).2.Passed caller rank := by
  obtain ⟨call, hcall, hrank⟩ := h
  cases action with
  | call attempt drawn =>
      refine ⟨call, ?_, hrank⟩
      obtain ⟨hlt, -⟩ := List.getElem?_eq_some_iff.mp hcall
      exact (List.getElem?_append_left hlt).trans hcall
  | proceed other =>
      simp only [Traffic.step]
      split
      next => exact ⟨call, hcall, hrank⟩
      next call' hcall' =>
        by_cases hother : other = caller
        · subst hother
          obtain rfl : call' = call := Option.some.inj (hcall'.symm.trans hcall)
          exact passed_of_set hcall (Nat.lt_of_lt_of_le hrank (Call.rank_le_next _ _))
        · exact ⟨call, (List.getElem?_set_ne hother).trans hcall, hrank⟩
  | _ =>
      simp only [Traffic.step]
      repeat (first | split | exact ⟨call, hcall, hrank⟩)

/-- What an event told its caller, as far as `pick` picks it from the report. -/
def told? {Told : Type} (pick : Report → Option Told) (e : Occurrence) : Option (Nat × Told) :=
  match e.action with
  | .proceed caller => (pick e.answer).map (caller, ·)
  | _ => none

section Callers

variable {Told : Type} {pick : Report → Option Told}

theorem told?_eq_none {e : Occurrence} (hpick : pick e.answer = none) : told? pick e = none := by
  unfold told?
  split
  · rw [hpick]
    rfl
  · rfl

theorem call_of_told {told : Told} (hquiet : pick .quiet = none)
    (htold : told? pick (eventOf step s action) = some (caller, told)) :
    action = .proceed caller ∧
      ∃ call, s.calls[caller]? = some call ∧ pick (call.next s.registry).1 = some told := by
  cases action with
  | proceed other =>
      cases hcall : s.calls[other]? with
      | none => simp [told?, eventOf, step, hcall, hquiet] at htold
      | some call =>
          simp only [told?, eventOf, step, hcall, Option.map_eq_some_iff, Prod.mk.injEq] at htold
          obtain ⟨picked, hpicked, rfl, rfl⟩ := htold
          exact ⟨rfl, call, hcall, hpicked⟩
  | _ => cases htold

variable (hrank : rank < 5) (hquiet : pick .quiet = none)
  (hpick : ∀ r (c : Call) told, pick (c.next r).1 = some told → Call.rank c.stage = rank)

include hquiet hpick

theorem not_mem_callers_of_passed (h : s.Passed caller rank) (actions : List Action) :
    caller ∉ ((events step s actions).filterMap (told? pick)).map Prod.fst := by
  induction actions generalizing s with
  | nil => simp
  | cons action rest ih =>
      rw [events_cons, filterMap_cons_eq, List.map_append, List.mem_append, not_or]
      refine ⟨?_, ih (h.step action)⟩
      intro hmem
      obtain ⟨⟨other, told⟩, htold, rfl⟩ := List.mem_map.mp hmem
      obtain ⟨-, call, hcall, hpicked⟩ := call_of_told hquiet (Option.mem_toList.mp htold)
      obtain ⟨call', hcall', hlt⟩ := h
      obtain rfl : call = call' := Option.some.inj (hcall.symm.trans hcall')
      exact Nat.ne_of_gt hlt (hpick _ _ _ hpicked)

include hrank

/-- What a caller is told in a section of one rank, the caller is told once. -/
theorem callers_nodup (s : Traffic) (actions : List Action) :
    (((events step s actions).filterMap (told? pick)).map Prod.fst).Nodup := by
  induction actions generalizing s with
  | nil => exact List.nodup_nil
  | cons action rest ih =>
      rw [events_cons, filterMap_cons_eq, List.map_append]
      cases htold : told? pick (eventOf step s action) with
      | none => exact ih _
      | some answer =>
          obtain ⟨rfl, call, hcall, hpicked⟩ := call_of_told hquiet htold
          have hlt : rank < Call.rank (call.next s.registry).2.2 := by
            obtain rfl := hpick _ _ _ hpicked
            exact Call.rank_lt_next s.registry hrank
          have hpassed : (s.step (.proceed answer.1)).2.Passed answer.1 rank := by
            simp only [Traffic.step, hcall]
            exact passed_of_set hcall hlt
          exact List.nodup_cons.mpr
            ⟨not_mem_callers_of_passed hquiet hpick hpassed rest, ih _⟩

end Callers

end Traffic

end Registry

end Enrollment
