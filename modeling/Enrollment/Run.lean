/-!
# Runs

A machine answers each action and moves on. A run is a list of actions, each of which is answered in
the state that the actions before it left. The events of a run list, oldest first, what was done, in
which state, and to which answer, so that a property of a run can speak about its past.
-/

namespace Enrollment

/-- One action of a run: the state it found, its answer and the state it left. -/
structure Event (State Action Answer : Type) where
  before : State
  action : Action
  answer : Answer
  after : State

variable {State Action Answer : Type}

/-- The event of an action in a state. -/
def eventOf (step : State → Action → Answer × State) (s : State) (action : Action) :
    Event State Action Answer :=
  ⟨s, action, (step s action).1, (step s action).2⟩

/-- The events of a run, oldest first. -/
def events (step : State → Action → Answer × State) (s : State) :
    List Action → List (Event State Action Answer)
  | [] => []
  | action :: actions => eventOf step s action :: events step (step s action).2 actions

/-- The state that a run leaves. -/
def outcome (step : State → Action → Answer × State) (s : State) (actions : List Action) : State :=
  actions.foldl (fun s action => (step s action).2) s

/-- The answers of a run, oldest first, and the state it leaves. -/
def run (step : State → Action → Answer × State) (s : State) :
    List Action → List Answer × State
  | [] => ([], s)
  | action :: actions =>
      let (answer, s) := step s action
      let (answers, s) := run step s actions
      (answer :: answers, s)

end Enrollment
