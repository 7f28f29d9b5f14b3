import NearRtRic.Library.Program

/-! Programs in surroundings that answer every call as they like. -/

namespace NearRtRic.Program

variable {Call : Type} {Answer : Call → Type} {Error Value Next : Type}

/-- The calls made from call number `made` on, and how the program ends. -/
def runWith (answers : Nat → (request : Call) → Answer request) :
    Nat → Program Call Answer Error Value → List Call × Except Error Value
  | _, .done value => ([], .ok value)
  | _, .raise error => ([], .error error)
  | made, .call request next =>
      let rest := (next (answers made request)).runWith answers (made + 1)
      (request :: rest.1, rest.2)

variable (answers : Nat → (request : Call) → Answer request)

@[simp] theorem runWith_done (made : Nat) (value : Value) :
    (Program.done value : Program Call Answer Error Value).runWith answers made =
      ([], .ok value) := rfl

@[simp] theorem runWith_raise (made : Nat) (error : Error) :
    (Program.raise error : Program Call Answer Error Value).runWith answers made =
      ([], .error error) := rfl

@[simp] theorem runWith_call (made : Nat) (request : Call)
    (next : Answer request → Program Call Answer Error Value) :
    (Program.call request next).runWith answers made =
      (request :: ((next (answers made request)).runWith answers (made + 1)).1,
        ((next (answers made request)).runWith answers (made + 1)).2) := rfl

variable {answers}

theorem runWith_bind_ok {made : Nat} {program : Program Call Answer Error Value}
    {calls : List Call} {value : Value} (rest : Value → Program Call Answer Error Next)
    (returned : program.runWith answers made = (calls, .ok value)) :
    (program >>= rest).runWith answers made =
      (calls ++ ((rest value).runWith answers (made + calls.length)).1,
        ((rest value).runWith answers (made + calls.length)).2) := by
  induction program generalizing made calls with
  | done same =>
      cases returned
      rfl
  | raise error => cases returned
  | call request next ih =>
      rw [runWith_call] at returned
      injection returned with first second
      have tail := ih (answers made request) (Prod.ext rfl second)
      rw [call_bind, runWith_call, tail, ← first]
      simp only [List.length_cons, List.cons_append, Nat.add_assoc, Nat.add_comm 1]

theorem runWith_bind_error {made : Nat} {program : Program Call Answer Error Value}
    {calls : List Call} {error : Error} (rest : Value → Program Call Answer Error Next)
    (raised : program.runWith answers made = (calls, .error error)) :
    (program >>= rest).runWith answers made = (calls, .error error) := by
  induction program generalizing made calls with
  | done value => cases raised
  | raise same =>
      cases raised
      rfl
  | call request next ih =>
      rw [runWith_call] at raised
      injection raised with first second
      have tail := ih (answers made request) (Prod.ext rfl second)
      rw [call_bind, runWith_call, tail, ← first]

end NearRtRic.Program
