import Mathlib.Tactic

/-! Runs of a deterministic machine fed with events, and the induction over them. -/

namespace NearRtRic.Runs

variable {State Event : Type} (step : State → Event → State)

def run (state : State) (events : List Event) : State :=
  events.foldl step state

/-- Every step of the run is taken from a state that allows it. -/
def Along (allowed : State → Event → Prop) : State → List Event → Prop
  | _, [] => True
  | state, event :: events => allowed state event ∧ Along allowed (step state event) events

@[simp] theorem run_nil (state : State) : run step state [] = state := rfl

@[simp] theorem run_cons (state : State) (event : Event) (events : List Event) :
    run step state (event :: events) = run step (step state event) events := rfl

theorem run_append (state : State) (first second : List Event) :
    run step state (first ++ second) = run step (run step state first) second := by
  simp only [run, List.foldl_append]

theorem run_concat (state : State) (events : List Event) (event : Event) :
    run step state (events ++ [event]) = step (run step state events) event := by
  rw [run_append, run_cons, run_nil]

variable {step} {allowed : State → Event → Prop}

@[simp] theorem along_nil (state : State) : Along step allowed state [] := trivial

@[simp] theorem along_cons (state : State) (event : Event) (events : List Event) :
    Along step allowed state (event :: events) ↔
      allowed state event ∧ Along step allowed (step state event) events := Iff.rfl

theorem along_append (state : State) (first second : List Event) :
    Along step allowed state (first ++ second) ↔
      Along step allowed state first ∧ Along step allowed (run step state first) second := by
  induction first generalizing state with
  | nil => simp
  | cons event events ih => simp [ih, and_assoc]

/-- The induction over a run: what every allowed step preserves holds at its end. -/
theorem run_invariant (holds : State → Prop)
    (preserved : ∀ state event, holds state → allowed state event → holds (step state event))
    (state : State) (events : List Event) (start : holds state)
    (along : Along step allowed state events) : holds (run step state events) := by
  induction events generalizing state with
  | nil => exact start
  | cons event events ih =>
      exact ih (step state event) (preserved state event start along.1) along.2

/-- An invariant that holds where a step starts may strengthen what is known of the step. -/
theorem along_strengthen (holds : State → Prop) {stronger : State → Event → Prop}
    (preserved : ∀ state event, holds state → allowed state event → holds (step state event))
    (gives : ∀ state event, holds state → allowed state event → stronger state event)
    (state : State) (events : List Event) (start : holds state)
    (along : Along step allowed state events) : Along step stronger state events := by
  induction events generalizing state with
  | nil => trivial
  | cons event events ih =>
      exact ⟨gives _ _ start along.1, ih _ (preserved _ _ start along.1) along.2⟩

/-- A condition on the steps is exact when a step that breaks it can be continued, within the
condition, until the property fails: it then holds along a run just when no prefix of the run
and no continuation of that prefix goes wrong. -/
theorem along_iff_secure (holds : State → Prop) {property : State → Event → Prop}
    (preserved : ∀ state event, holds state → allowed state event → holds (step state event))
    (gives : ∀ state event, holds state → allowed state event → property state event)
    (needed : ∀ state event, holds state → ¬ allowed state event →
      ∃ rest, Along step allowed (step state event) rest ∧
        ¬ Along step property state (event :: rest))
    (state : State) (events : List Event) (start : holds state) :
    Along step allowed state events ↔
      ∀ first, first <+: events → ∀ rest, Along step allowed (run step state first) rest →
        Along step property state (first ++ rest) := by
  constructor
  · rintro along first ⟨last, rfl⟩ rest continued
    have whole := (along_append state first rest).mpr
      ⟨((along_append state first last).mp along).1, continued⟩
    exact along_strengthen holds preserved gives state _ start whole
  · intro secure
    induction events generalizing state with
    | nil => trivial
    | cons event events ih =>
        have fits : allowed state event := by
          by_contra breaks
          obtain ⟨rest, continued, fails⟩ := needed state event start breaks
          exact fails (secure [event] ⟨events, rfl⟩ rest continued)
        refine ⟨fits, ih (step state event) (preserved state event start fits) ?_⟩
        intro first within rest continued
        obtain ⟨last, rfl⟩ := within
        exact (secure (event :: first) ⟨last, rfl⟩ rest continued).2

/-! Machines that may fault: those whose step is that of `step`, where the event lets it go on. -/

section Faults

variable {faulting : State → Event → Option State} {goesOn : Event → Prop}

theorem foldlM_of_goes_on
    (taken : ∀ state event, goesOn event → faulting state event = some (step state event))
    (state : State) (events : List Event) (all : ∀ event ∈ events, goesOn event) :
    events.foldlM faulting state = some (run step state events) := by
  induction events generalizing state with
  | nil => rfl
  | cons event events ih =>
      have ⟨here, later⟩ := List.forall_mem_cons.mp all
      rw [List.foldlM_cons, taken state event here]
      exact ih (step state event) later

theorem foldlM_of_fault
    (taken : ∀ state event, goesOn event → faulting state event = some (step state event))
    (faults : ∀ state event, ¬ goesOn event → faulting state event = none)
    (state : State) (events : List Event) (stops : ∃ event ∈ events, ¬ goesOn event) :
    events.foldlM faulting state = none := by
  induction events generalizing state with
  | nil => simp at stops
  | cons event events ih =>
      rw [List.foldlM_cons]
      by_cases here : goesOn event
      · rw [taken state event here]
        refine ih (step state event) ?_
        obtain ⟨other, member, stop⟩ := stops
        rcases List.mem_cons.mp member with rfl | member
        · exact absurd here stop
        · exact ⟨other, member, stop⟩
      · rw [faults state event here]
        rfl

end Faults

theorem along_congr {other : State → Event → Prop}
    (same : ∀ state event, allowed state event ↔ other state event)
    (state : State) (events : List Event) :
    Along step allowed state events ↔ Along step other state events := by
  induction events generalizing state with
  | nil => exact Iff.rfl
  | cons event events ih => rw [along_cons, along_cons, same, ih]

theorem along_mono {other : State → Event → Prop}
    (gives : ∀ state event, allowed state event → other state event) {state : State}
    {events : List Event} (along : Along step allowed state events) :
    Along step other state events :=
  along_strengthen (fun _ => True) (fun _ _ _ _ => trivial) (fun state event _ => gives state event)
    state events trivial along

instance decidableAlong [∀ state event, Decidable (allowed state event)] :
    ∀ (state : State) (events : List Event), Decidable (Along step allowed state events)
  | _, [] => .isTrue trivial
  | state, event :: events =>
      have := decidableAlong (step state event) events
      inferInstanceAs (Decidable (_ ∧ _))

theorem along_true (state : State) (events : List Event) :
    Along step (fun _ _ => True) state events := by
  induction events generalizing state with
  | nil => trivial
  | cons event events ih => exact ⟨trivial, ih _⟩

end NearRtRic.Runs
