import NearRtRic.Library.Program

/-! Threads that interleave their calls to one service. -/

namespace NearRtRic

/-- A thread is what it was started for and what is left of its program. -/
structure Thread (Tag Call : Type) (Answer : Call → Type) (Error Value : Type) where
  tag : Tag
  rest : Program Call Answer Error Value

structure Pool (Tag Call : Type) (Answer : Call → Type) (Error Value State : Type) where
  state : State
  threads : List (Thread Tag Call Answer Error Value)

namespace Pool

inductive Event (Tag : Type) where
  | begin (tag : Tag)
  | turn (index : Nat)
  deriving DecidableEq, Repr

section

variable {Tag Call : Type} {Answer : Call → Type} {Error Value State : Type}
variable (service : Service Call Answer State)
variable (start : Tag → Program Call Answer Error Value)
variable (spawn : Call → Option Tag)

/-- A turn makes one call of one thread. A call may start a further thread. -/
def step (pool : Pool Tag Call Answer Error Value State) :
    Event Tag → Pool Tag Call Answer Error Value State
  | .begin tag => { pool with threads := pool.threads ++ [⟨tag, start tag⟩] }
  | .turn index =>
      match pool.threads[index]? with
      | some ⟨tag, .call request next⟩ =>
          { state := service.effect request pool.state
            threads :=
              pool.threads.set index ⟨tag, next (service.answer request pool.state)⟩ ++
                (spawn request).toList.map (fun child => ⟨child, start child⟩) }
      | _ => pool

variable {service start spawn}
variable {pool : Pool Tag Call Answer Error Value State}

theorem step_begin (tag : Tag) :
    step service start spawn pool (.begin tag) =
      { pool with threads := pool.threads ++ [⟨tag, start tag⟩] } := rfl

theorem step_turn {index : Nat} {tag : Tag} {request : Call}
    {next : Answer request → Program Call Answer Error Value}
    (acting : pool.threads[index]? = some ⟨tag, .call request next⟩) :
    step service start spawn pool (.turn index) =
      { state := service.effect request pool.state
        threads :=
          pool.threads.set index ⟨tag, next (service.answer request pool.state)⟩ ++
            (spawn request).toList.map (fun child => ⟨child, start child⟩) } := by
  simp only [step, acting]

variable (service start spawn pool) in
/-- A turn is a call of the thread it names, or nothing. -/
theorem turn_cases (index : Nat) :
    (∃ tag request next, pool.threads[index]? = some ⟨tag, .call request next⟩) ∨
      step service start spawn pool (.turn index) = pool := by
  cases found : pool.threads[index]? with
  | none => exact .inr (by simp only [step, found])
  | some thread =>
      obtain ⟨tag, rest⟩ := thread
      cases rest with
      | call request next => exact .inl ⟨tag, request, next, rfl⟩
      | done value => exact .inr (by simp only [step, found])
      | raise error => exact .inr (by simp only [step, found])

theorem thread_after_begin {tag : Tag} {index : Nat}
    {thread : Thread Tag Call Answer Error Value}
    (found : (step service start spawn pool (.begin tag)).threads[index]? = some thread) :
    pool.threads[index]? = some thread ∨ thread = ⟨tag, start tag⟩ := by
  rw [step_begin, List.getElem?_append] at found
  split at found
  · exact .inl found
  · right
    have member := List.mem_of_getElem? found
    simpa using member

theorem thread_after_turn {index other : Nat} {tag : Tag} {request : Call}
    {next : Answer request → Program Call Answer Error Value}
    {thread : Thread Tag Call Answer Error Value}
    (acting : pool.threads[index]? = some ⟨tag, .call request next⟩)
    (found : (step service start spawn pool (.turn index)).threads[other]? = some thread) :
    (other = index ∧ thread = ⟨tag, next (service.answer request pool.state)⟩) ∨
      (other ≠ index ∧ pool.threads[other]? = some thread) ∨
      (∃ child, spawn request = some child ∧ thread = ⟨child, start child⟩) := by
  rw [step_turn acting] at found
  simp only [List.getElem?_append, List.length_set] at found
  split at found
  · next inside =>
      by_cases same : other = index
      · subst other
        rw [List.getElem?_set_self inside] at found
        exact .inl ⟨rfl, (Option.some.inj found).symm⟩
      · rw [List.getElem?_set_ne (Ne.symm same)] at found
        exact .inr (.inl ⟨same, found⟩)
  · right; right
    have member := List.mem_of_getElem? found
    simp only [List.mem_map, Option.mem_toList] at member
    obtain ⟨child, spawned, rfl⟩ := member
    exact ⟨child, spawned, rfl⟩

theorem thread_kept {index other : Nat} {thread : Thread Tag Call Answer Error Value}
    (found : pool.threads[other]? = some thread) (differ : other ≠ index) :
    (step service start spawn pool (.turn index)).threads[other]? = some thread := by
  rcases turn_cases service start spawn pool index with ⟨tag, request, next, acting⟩ | same
  · have inside : other < pool.threads.length := (List.getElem?_eq_some_iff.mp found).1
    rw [step_turn acting]
    simp only
    rw [List.getElem?_append_left (by simpa using inside), List.getElem?_set_ne differ.symm, found]
  · rw [same, found]

theorem thread_turned {index : Nat} {tag : Tag} {request : Call}
    {next : Answer request → Program Call Answer Error Value}
    (acting : pool.threads[index]? = some ⟨tag, .call request next⟩) :
    (step service start spawn pool (.turn index)).threads[index]? =
      some ⟨tag, next (service.answer request pool.state)⟩ := by
  have inside : index < pool.threads.length := (List.getElem?_eq_some_iff.mp acting).1
  rw [step_turn acting]
  simp only
  rw [List.getElem?_append_left (by simpa using inside), List.getElem?_set_self inside]

theorem state_turned {index : Nat} {tag : Tag} {request : Call}
    {next : Answer request → Program Call Answer Error Value}
    (acting : pool.threads[index]? = some ⟨tag, .call request next⟩) :
    (step service start spawn pool (.turn index)).state = service.effect request pool.state := by
  rw [step_turn acting]

/-- Proof outlines: what every thread asserts of the state holds after an event when it holds of a
new thread at its start, of the acting thread after its call, and survives the call of another. -/
theorem outline_step (asserts : State → Thread Tag Call Answer Error Value → Prop)
    (event : Event Tag) (before : ∀ thread ∈ pool.threads, asserts pool.state thread)
    (started : ∀ tag, event = .begin tag → asserts pool.state ⟨tag, start tag⟩)
    (own : ∀ index tag request next, event = .turn index →
      pool.threads[index]? = some ⟨tag, .call request next⟩ →
        asserts (service.effect request pool.state)
          ⟨tag, next (service.answer request pool.state)⟩)
    (free : ∀ index tag request next other thread, event = .turn index →
      pool.threads[index]? = some ⟨tag, .call request next⟩ →
        other ≠ index → pool.threads[other]? = some thread →
          asserts (service.effect request pool.state) thread)
    (spawned : ∀ index tag request next child, event = .turn index →
      pool.threads[index]? = some ⟨tag, .call request next⟩ → spawn request = some child →
        asserts (service.effect request pool.state) ⟨child, start child⟩) :
    ∀ thread ∈ (step service start spawn pool event).threads,
      asserts (step service start spawn pool event).state thread := by
  intro thread member
  rcases List.mem_iff_getElem?.mp member with ⟨other, found⟩
  cases event with
  | begin tag =>
      rcases thread_after_begin found with old | new
      · exact before thread (List.mem_of_getElem? old)
      · rw [new]
        exact started tag rfl
  | turn index =>
      rcases turn_cases service start spawn pool index with ⟨tag, request, next, acting⟩ | same
      · rw [state_turned acting]
        rcases thread_after_turn acting found with ⟨_, turned⟩ | ⟨differ, old⟩ |
          ⟨child, forked, new⟩
        · rw [turned]
          exact own index tag request next rfl acting
        · exact free index tag request next other thread rfl acting differ old
        · rw [new]
          exact spawned index tag request next child rfl acting forked
      · rw [same] at member ⊢
        exact before thread member

variable (service start spawn) in
theorem run_alone {index : Nat} {tag : Tag} (rest : Program Call Answer Error Value)
    (found : pool.threads[index]? = some ⟨tag, rest⟩) :
    ∃ turns, (Runs.run (step service start spawn) pool
        (List.replicate turns (.turn index))).state = (rest.run service pool.state).2 ∧
      (Runs.run (step service start spawn) pool
        (List.replicate turns (.turn index))).threads[index]? =
          some ⟨tag, match (rest.run service pool.state).1 with
            | .ok value => .done value
            | .error error => .raise error⟩ := by
  induction rest generalizing pool with
  | done value => exact ⟨0, rfl, found⟩
  | raise error => exact ⟨0, rfl, found⟩
  | call request next ih =>
      have turned : (step service start spawn pool (.turn index)).threads[index]? =
          some ⟨tag, next (service.answer request pool.state)⟩ := thread_turned found
      obtain ⟨turns, state, thread⟩ := ih (service.answer request pool.state) turned
      refine ⟨turns + 1, ?_, ?_⟩
      · rw [List.replicate_succ, Runs.run_cons, state, state_turned found, Program.run_call]
      · rw [List.replicate_succ, Runs.run_cons, thread, state_turned found, Program.run_call]

end

end Pool

end NearRtRic
