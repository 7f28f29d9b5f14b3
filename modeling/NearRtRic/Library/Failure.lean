import NearRtRic.Library.Program

/-! Programs run alone by a service that refuses one call. -/

namespace NearRtRic.Program

variable {Call : Type} {Answer : Call → Type} {Error Value Next State : Type}

/-- The program alone, where the service refuses the call number `countdown` among
those that can fail: that call has no effect and raises `error`. -/
def runFailing (service : Service Call Answer State) (canFail : Call → Bool) (error : Error) :
    Nat → Program Call Answer Error Value → State → Except Error Value × State
  | _, .done value, state => (.ok value, state)
  | _, .raise raised, state => (.error raised, state)
  | countdown, .call request next, state =>
      if canFail request then
        match countdown with
        | 0 => (.error error, state)
        | countdown + 1 =>
            runFailing service canFail error countdown (next (service.answer request state))
              (service.effect request state)
      else
        runFailing service canFail error countdown (next (service.answer request state))
          (service.effect request state)

def calls (service : Service Call Answer State) :
    Program Call Answer Error Value → State → List Call
  | .done _, _ => []
  | .raise _, _ => []
  | .call request next, state =>
      request :: (next (service.answer request state)).calls service (service.effect request state)

def afterCalls (service : Service Call Answer State) (made : List Call) (state : State) : State :=
  made.foldl (fun current request => service.effect request current) state

variable {service : Service Call Answer State}

@[simp] theorem calls_done (value : Value) (state : State) :
    (Program.done value : Program Call Answer Error Value).calls service state = [] := rfl

@[simp] theorem calls_raise (error : Error) (state : State) :
    (Program.raise error : Program Call Answer Error Value).calls service state = [] := rfl

@[simp] theorem calls_call (request : Call)
    (next : Answer request → Program Call Answer Error Value) (state : State) :
    (Program.call request next).calls service state =
      request :: (next (service.answer request state)).calls service
        (service.effect request state) := rfl

@[simp] theorem afterCalls_nil (state : State) : afterCalls service [] state = state := rfl

@[simp] theorem afterCalls_cons (request : Call) (made : List Call) (state : State) :
    afterCalls service (request :: made) state =
      afterCalls service made (service.effect request state) := rfl

theorem afterCalls_append (first second : List Call) (state : State) :
    afterCalls service (first ++ second) state =
      afterCalls service second (afterCalls service first state) := by
  simp only [afterCalls, List.foldl_append]

theorem afterCalls_keeps {View : Type} (view : State → View) {made : List Call}
    (keeps : ∀ request ∈ made, ∀ state, view (service.effect request state) = view state)
    (state : State) : view (afterCalls service made state) = view state := by
  induction made generalizing state with
  | nil => rfl
  | cons request made ih =>
      have later : ∀ other ∈ made, ∀ state, view (service.effect other state) = view state :=
        fun other member => keeps other (List.mem_cons_of_mem _ member)
      rw [afterCalls_cons, ih later, keeps request List.mem_cons_self]

theorem calls_bind_ok {program : Program Call Answer Error Value} {state after : State}
    {value : Value} (rest : Value → Program Call Answer Error Next)
    (returned : program.run service state = (.ok value, after)) :
    (program >>= rest).calls service state =
      program.calls service state ++ (rest value).calls service after := by
  induction program generalizing state with
  | done same =>
      cases returned
      rfl
  | raise error => cases returned
  | call request next ih => exact congrArg (request :: ·) (ih _ returned)

theorem calls_bind_error {program : Program Call Answer Error Value} {state after : State}
    {error : Error} (rest : Value → Program Call Answer Error Next)
    (raised : program.run service state = (.error error, after)) :
    (program >>= rest).calls service state = program.calls service state := by
  induction program generalizing state with
  | done value => cases raised
  | raise same => rfl
  | call request next ih => exact congrArg (request :: ·) (ih _ raised)

theorem runFailing_safe {canFail : Call → Bool} {error : Error} {countdown : Nat} {request : Call}
    {next : Answer request → Program Call Answer Error Value} {state : State}
    (safe : ¬ canFail request = true) :
    runFailing service canFail error countdown (.call request next) state =
      runFailing service canFail error countdown (next (service.answer request state))
        (service.effect request state) := by
  rw [runFailing.eq_def]
  exact if_neg safe

variable (service) in
/-- A run with a refused call is the run cut in front of that call. -/
theorem runFailing_cases (canFail : Call → Bool) (error : Error) (countdown : Nat)
    (program : Program Call Answer Error Value) (state : State) :
    (∃ made refused rest, program.calls service state = made ++ refused :: rest ∧
        canFail refused = true ∧ (made.filter canFail).length = countdown ∧
          runFailing service canFail error countdown program state =
            (.error error, afterCalls service made state)) ∨
      runFailing service canFail error countdown program state = program.run service state := by
  induction program generalizing state countdown with
  | done value => exact .inr rfl
  | raise raised => exact .inr rfl
  | call request next ih =>
      by_cases fails : canFail request = true
      · cases countdown with
        | zero =>
            refine .inl ⟨[], request, _, rfl, fails, rfl, ?_⟩
            rw [runFailing, if_pos fails]
            rfl
        | succ countdown =>
            rw [runFailing, if_pos fails]
            rcases ih (service.answer request state) countdown (service.effect request state) with
              ⟨made, refused, rest, split, canRefuse, counted, cut⟩ | whole
            · refine .inl ⟨request :: made, refused, rest, ?_, canRefuse, ?_, cut⟩
              · rw [calls_call, split, List.cons_append]
              · rw [List.filter_cons_of_pos fails, List.length_cons, counted]
            · exact .inr whole
      · rw [runFailing_safe fails]
        rcases ih (service.answer request state) countdown (service.effect request state) with
          ⟨made, refused, rest, split, canRefuse, counted, cut⟩ | whole
        · refine .inl ⟨request :: made, refused, rest, ?_, canRefuse, ?_, cut⟩
          · rw [calls_call, split, List.cons_append]
          · rw [List.filter_cons_of_neg fails, counted]
        · exact .inr whole

/-- Where the calls that can fail all come first, the calls made before the refused one are the
first `countdown`. -/
theorem made_eq_take {canFail : Call → Bool} {first last made rest : List Call} {refused : Call}
    (failing : ∀ request ∈ first, canFail request = true)
    (safe : ∀ request ∈ last, ¬ canFail request = true)
    (split : first ++ last = made ++ refused :: rest) (canRefuse : canFail refused = true) :
    made = first.take (made.filter canFail).length ∧
      (made.filter canFail).length < first.length := by
  rcases List.append_eq_append_iff.mp split with ⟨middle, made_eq, last_eq⟩ |
    ⟨middle, first_eq, rest_eq⟩
  · have member : refused ∈ last := by simp [last_eq]
    exact absurd canRefuse (safe refused member)
  · cases middle with
    | nil =>
        have same : refused :: rest = last := rest_eq
        have member : refused ∈ last := by
          rw [← same]
          exact List.mem_cons_self
        exact absurd canRefuse (safe refused member)
    | cons next middle =>
        have whole : made.filter canFail = made := by
          rw [List.filter_eq_self]
          intro request member
          exact failing request (by simp [first_eq, member])
        rw [whole, first_eq]
        constructor
        · exact (List.take_left' rfl).symm
        · simp

/-- Reads in front of and behind the writes leave the state to the writes made. -/
theorem afterCalls_take {reads writes later : List Call}
    (idle : ∀ request ∈ reads ++ later, ∀ state, service.effect request state = state)
    (countdown : Nat) (state : State) :
    afterCalls service ((reads ++ writes ++ later).take countdown) state =
      afterCalls service (writes.take (countdown - reads.length)) state := by
  rw [List.take_append, List.take_append, afterCalls_append, afterCalls_append]
  have before : afterCalls service (reads.take countdown) state = state := by
    apply afterCalls_keeps id
    intro request member
    exact idle request (List.mem_append_left _ (List.mem_of_mem_take member))
  rw [before]
  apply afterCalls_keeps id
  intro request member
  exact idle request (List.mem_append_right _ (List.mem_of_mem_take member))

end NearRtRic.Program
