import Enrollment.Run

/-!
# Events of a run

A run answers with the answers of its events. Two facts carry every argument over runs: what each
step keeps, a run keeps, and a run that is cut at an event consists of the run before it and the run
that starts where it left off. Two more compare runs: states that no step tells apart are told apart
by no run, and a run shows what it shows without the actions that leave nothing to see.
-/

namespace Enrollment

variable {State Action Answer : Type}

variable {step : State → Action → Answer × State}

/-! ## Runs and their events -/

@[simp] theorem outcome_nil (s : State) : outcome step s [] = s := rfl

@[simp] theorem outcome_cons (s : State) (action : Action) (actions : List Action) :
    outcome step s (action :: actions) = outcome step (step s action).2 actions := rfl

@[simp] theorem events_nil (s : State) : events step s [] = [] := rfl

@[simp] theorem events_cons (s : State) (action : Action) (actions : List Action) :
    events step s (action :: actions) =
      eventOf step s action :: events step (step s action).2 actions := rfl

theorem run_cons (s : State) (action : Action) (actions : List Action) :
    run step s (action :: actions) =
      ((step s action).1 :: (run step (step s action).2 actions).1,
        (run step (step s action).2 actions).2) := rfl

/-- A run answers with the answers of its events and leaves their outcome. -/
theorem run_eq (s : State) (actions : List Action) :
    run step s actions = ((events step s actions).map (·.answer), outcome step s actions) := by
  induction actions generalizing s with
  | nil => rfl
  | cons action rest ih =>
      rw [run_cons, ih]
      rfl

theorem outcome_append (s : State) (first second : List Action) :
    outcome step s (first ++ second) = outcome step (outcome step s first) second :=
  List.foldl_append

theorem events_append (s : State) (first second : List Action) :
    events step s (first ++ second) =
      events step s first ++ events step (outcome step s first) second := by
  induction first generalizing s with
  | nil => rfl
  | cons action rest ih =>
      simp only [List.cons_append, events_cons, outcome_cons]
      rw [ih]

theorem events_snoc (s : State) (first : List Action) (action : Action) :
    events step s (first ++ [action]) =
      events step s first ++ [eventOf step (outcome step s first) action] :=
  events_append s first [action]

theorem events_action (s : State) (actions : List Action) :
    (events step s actions).map (·.action) = actions := by
  induction actions generalizing s with
  | nil => rfl
  | cons action rest ih => exact congrArg (action :: ·) (ih _)

/-- What every step keeps, a run keeps. -/
theorem outcome_induction {motive : State → Prop}
    (hstep : ∀ s action, motive s → motive (step s action).2) {s : State} (hs : motive s)
    (actions : List Action) : motive (outcome step s actions) := by
  induction actions generalizing s with
  | nil => exact hs
  | cons action rest ih => exact ih (hstep s action hs)

/-- A run cut at one of its events: the actions before it, its own, and those after it. -/
theorem exists_split_of_events {s : State} {actions : List Action}
    {past future : List (Event State Action Answer)} {e : Event State Action Answer}
    (hsplit : events step s actions = past ++ e :: future) :
    ∃ first action rest, actions = first ++ action :: rest ∧ past = events step s first ∧
      e = eventOf step (outcome step s first) action ∧
      future = events step (step (outcome step s first) action).2 rest := by
  induction actions generalizing s past with
  | nil => simp at hsplit
  | cons action rest ih =>
      cases past with
      | nil =>
          simp only [events_cons, List.nil_append, List.cons.injEq] at hsplit
          obtain ⟨rfl, rfl⟩ := hsplit
          exact ⟨[], action, rest, rfl, rfl, rfl, rfl⟩
      | cons head tail =>
          simp only [events_cons, List.cons_append, List.cons.injEq] at hsplit
          obtain ⟨rfl, htail⟩ := hsplit
          obtain ⟨first, action', later, rfl, rfl, he, hfuture⟩ := ih htail
          exact ⟨action :: first, action', later, rfl, rfl, he, hfuture⟩

/-- Two states are alike if no action is answered differently, as far as is told, or leaves states
that are not alike again. Then no run is answered differently. -/
theorem run_alike {Told : Type} {Alike : State → State → Prop} {told : Answer → Told}
    (hstep : ∀ {s s'} action, Alike s s' → told (step s action).1 = told (step s' action).1 ∧
      Alike (step s action).2 (step s' action).2)
    {s s' : State} (h : Alike s s') (actions : List Action) :
    (run step s actions).1.map told = (run step s' actions).1.map told ∧
      Alike (run step s actions).2 (run step s' actions).2 := by
  induction actions generalizing s s' with
  | nil => exact ⟨rfl, h⟩
  | cons action rest ih =>
      obtain ⟨hanswer, halike⟩ := hstep action h
      obtain ⟨hanswers, hend⟩ := ih halike
      refine ⟨?_, hend⟩
      rw [run_cons, run_cons, List.map_cons, List.map_cons, hanswer, hanswers]

/-- Two states stay alike when a hidden action is taken in the first only, and no other action shows
what they differ in. Then a run shows what it shows without its hidden actions. -/
theorem shown_without {Shown : Type} {Alike : State → State → Prop} {hidden : Action → Bool}
    {shown : Event State Action Answer → Shown}
    (hskip : ∀ {s s'} action, hidden action = true → Alike s s' → Alike (step s action).2 s')
    (hstep : ∀ {s s'} action, hidden action = false → Alike s s' →
      shown (eventOf step s action) = shown (eventOf step s' action) ∧
        Alike (step s action).2 (step s' action).2)
    {s s' : State} (h : Alike s s') (actions : List Action) :
    ((events step s actions).filter (!hidden ·.action)).map shown =
        (events step s' (actions.filter (!hidden ·))).map shown ∧
      Alike (outcome step s actions) (outcome step s' (actions.filter (!hidden ·))) := by
  induction actions generalizing s s' with
  | nil => exact ⟨rfl, h⟩
  | cons action rest ih =>
      rw [events_cons, outcome_cons]
      cases hhidden : hidden action with
      | true =>
          -- Only the first of the two runs takes this step, and it shows nothing.
          rw [List.filter_cons_of_neg (by simp [eventOf, hhidden]),
            List.filter_cons_of_neg (by simp [hhidden])]
          exact ih (hskip action hhidden h)
      | false =>
          obtain ⟨hshown, halike⟩ := hstep action hhidden h
          obtain ⟨hrest, hend⟩ := ih halike
          rw [List.filter_cons_of_pos (by simp [eventOf, hhidden]),
            List.filter_cons_of_pos (by simp [hhidden]), events_cons, outcome_cons,
            List.map_cons, List.map_cons, hshown, hrest]
          exact ⟨rfl, hend⟩

/-! ## What events show -/

/-- What the first event shows comes before what the others show. -/
theorem filterMap_cons_eq {Event Shown : Type} (f : Event → Option Shown) (e : Event)
    (trail : List Event) : (e :: trail).filterMap f = (f e).toList ++ trail.filterMap f := by
  rw [List.filterMap_cons]
  cases f e <;> rfl

end Enrollment
