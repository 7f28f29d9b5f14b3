import NearRtRic.Library.Runs

/-! Programs whose only effects are calls to a service.

A program is the tree of its possible continuations, so one definition can be run
alone to its end, run with a call that fails, or interleaved with other programs
one call at a time. -/

namespace NearRtRic

inductive Program (Call : Type) (Answer : Call → Type) (Error Value : Type) where
  | done (value : Value)
  | raise (error : Error)
  | call (request : Call) (next : Answer request → Program Call Answer Error Value)

/-- What a service answers to a call in a state, and the state it leaves. -/
structure Service (Call : Type) (Answer : Call → Type) (State : Type) where
  answer : (request : Call) → State → Answer request
  effect : Call → State → State

namespace Program

variable {Call : Type} {Answer : Call → Type} {Error Value Next State : Type}

protected def bind :
    Program Call Answer Error Value → (Value → Program Call Answer Error Next) →
      Program Call Answer Error Next
  | .done value, rest => rest value
  | .raise error, _ => .raise error
  | .call request next, rest => .call request (fun answer => (next answer).bind rest)

instance : Monad (Program Call Answer Error) where
  pure := .done
  bind := Program.bind

def perform (request : Call) : Program Call Answer Error (Answer request) :=
  .call request .done

def forEach {Item : Type} (items : List Item)
    (body : Item → Program Call Answer Error Unit) : Program Call Answer Error Unit :=
  match items with
  | [] => .done ()
  | item :: rest => (body item).bind (fun _ => forEach rest body)

@[simp] theorem pure_eq (value : Value) :
    (pure value : Program Call Answer Error Value) = .done value := rfl

@[simp] theorem done_bind (value : Value) (rest : Value → Program Call Answer Error Next) :
    (Program.done value >>= rest) = rest value := rfl

@[simp] theorem raise_bind (error : Error) (rest : Value → Program Call Answer Error Next) :
    (Program.raise error >>= rest) = .raise error := rfl

@[simp] theorem call_bind (request : Call)
    (next : Answer request → Program Call Answer Error Value)
    (rest : Value → Program Call Answer Error Next) :
    (Program.call request next >>= rest) = .call request (fun answer => next answer >>= rest) :=
  rfl

theorem bind_assoc {Last : Type} (program : Program Call Answer Error Value)
    (middle : Value → Program Call Answer Error Next)
    (last : Next → Program Call Answer Error Last) :
    (program >>= middle) >>= last = program >>= fun value => middle value >>= last := by
  induction program with
  | done value => rfl
  | raise error => rfl
  | call request next ih =>
      simp only [call_bind]
      congr 1
      funext answer
      exact ih answer

/-- The program alone, with a service that never fails. -/
def run (service : Service Call Answer State) :
    Program Call Answer Error Value → State → Except Error Value × State
  | .done value, state => (.ok value, state)
  | .raise error, state => (.error error, state)
  | .call request next, state =>
      (next (service.answer request state)).run service (service.effect request state)

@[simp] theorem run_done (service : Service Call Answer State) (value : Value) (state : State) :
    (Program.done value : Program Call Answer Error Value).run service state =
      (.ok value, state) := rfl

@[simp] theorem run_raise (service : Service Call Answer State) (error : Error) (state : State) :
    (Program.raise error : Program Call Answer Error Value).run service state =
      (.error error, state) := rfl

@[simp] theorem run_call (service : Service Call Answer State) (request : Call)
    (next : Answer request → Program Call Answer Error Value) (state : State) :
    (Program.call request next).run service state =
      (next (service.answer request state)).run service (service.effect request state) := rfl

@[simp] theorem run_perform (service : Service Call Answer State) (request : Call)
    (state : State) :
    (perform request : Program Call Answer Error (Answer request)).run service state =
      (.ok (service.answer request state), service.effect request state) := rfl

/-- Sequencing: the rest runs where the first part returned, an error skips it. -/
theorem run_bind (service : Service Call Answer State)
    (program : Program Call Answer Error Value)
    (rest : Value → Program Call Answer Error Next) (state : State) :
    (program >>= rest).run service state =
      match program.run service state with
      | (.ok value, after) => (rest value).run service after
      | (.error error, after) => (.error error, after) := by
  induction program generalizing state with
  | done value => rfl
  | raise error => rfl
  | call request next ih => exact ih _ _

theorem run_bind_ok (service : Service Call Answer State)
    {program : Program Call Answer Error Value} {state after : State} {value : Value}
    (rest : Value → Program Call Answer Error Next)
    (returned : program.run service state = (.ok value, after)) :
    (program >>= rest).run service state = (rest value).run service after := by
  rw [run_bind, returned]

theorem run_bind_error (service : Service Call Answer State)
    {program : Program Call Answer Error Value} {state after : State} {error : Error}
    (rest : Value → Program Call Answer Error Next)
    (raised : program.run service state = (.error error, after)) :
    (program >>= rest).run service state = (.error error, after) := by
  rw [run_bind, raised]

/-- Turning the result into another leaves the state where the program left it. -/
theorem run_bind_done (service : Service Call Answer State)
    (program : Program Call Answer Error Value) (result : Value → Next) (state : State) :
    ((program >>= fun value => .done (result value)).run service state).2 =
      (program.run service state).2 := by
  rw [run_bind]
  cases ended : program.run service state with
  | mk outcome after => cases outcome <;> rfl

@[simp] theorem run_forEach_nil {Item : Type} (service : Service Call Answer State)
    (body : Item → Program Call Answer Error Unit) (state : State) :
    (forEach [] body).run service state = (.ok (), state) := rfl

/-- Every call the program can make is one of `calls`. -/
def Confined (calls : Call → Prop) : Program Call Answer Error Value → Prop
  | .done _ => True
  | .raise _ => True
  | .call request next => calls request ∧ ∀ answer, (next answer).Confined calls

theorem confined_bind {calls : Call → Prop} {program : Program Call Answer Error Value}
    {rest : Value → Program Call Answer Error Next} (first : program.Confined calls)
    (then_ : ∀ value, (rest value).Confined calls) : (program >>= rest).Confined calls := by
  induction program with
  | done value => exact then_ value
  | raise error => trivial
  | call request next ih => exact ⟨first.1, fun answer => ih answer (first.2 answer)⟩

/-- A program confined to reads answers alike in two states that answer them alike. -/
theorem confined_answer {service : Service Call Answer State} {calls : Call → Prop}
    {program : Program Call Answer Error Value} (confined : program.Confined calls)
    {first second : State}
    (readsFirst : ∀ request, calls request → service.effect request first = first)
    (readsSecond : ∀ request, calls request → service.effect request second = second)
    (alike : ∀ request, calls request →
      service.answer request first = service.answer request second) :
    (program.run service first).1 = (program.run service second).1 := by
  induction program with
  | done value => rfl
  | raise error => rfl
  | call request next ih =>
      rw [run_call, run_call, readsFirst request confined.1, readsSecond request confined.1,
        alike request confined.1]
      exact ih _ (confined.2 _)

/-- The call a program makes next. -/
def pending : Program Call Answer Error Value → Option Call
  | .call request _ => some request
  | _ => none

@[simp] theorem pending_call (request : Call)
    (next : Answer request → Program Call Answer Error Value) :
    (Program.call request next).pending = some request := rfl

@[simp] theorem pending_done (value : Value) :
    (Program.done value : Program Call Answer Error Value).pending = none := rfl

@[simp] theorem pending_raise (error : Error) :
    (Program.raise error : Program Call Answer Error Value).pending = none := rfl

/-- How a program that makes no further call has ended. -/
def outcome : Program Call Answer Error Value → Option (Except Error Value)
  | .done value => some (.ok value)
  | .raise error => some (.error error)
  | .call _ _ => none

theorem eq_raise_of_outcome {program : Program Call Answer Error Value} {error : Error}
    (ended : program.outcome = some (.error error)) : program = .raise error := by
  cases program with
  | raise raised => cases ended; rfl
  | done value => cases ended
  | call request next => cases ended

end Program

end NearRtRic
