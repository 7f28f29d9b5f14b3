import NearRtRic.A1.Sequential

/-! Request threads and timer threads that interleave their SDL calls. -/

namespace NearRtRic.A1

inductive Job where
  | request (request : Request)
  | timer (policyTypeId : Nat) (policyInstanceId : String) (ttl : Int)
  deriving DecidableEq

def jobProgram (settings : Settings) : Job → A1M Json
  | .request request => program settings request
  | .timer policyTypeId policyInstanceId ttl => do
      deleteAfter policyTypeId policyInstanceId ttl
      pure .null

/-- `Thread(target=_delete_after, ...).start()` -/
def spawned : Call → Option Job
  | .startTimer policyTypeId policyInstanceId ttl =>
      some (.timer policyTypeId policyInstanceId ttl)
  | _ => none

theorem spawned_ne_request {call : Call} (request : Request) :
    spawned call ≠ some (.request request) := by
  cases call <;> simp [spawned]

abbrev JobThread := Thread Job Call Answer A1Error Json

abbrev Concurrent := Pool Job Call Answer A1Error Json World

namespace Concurrent

def step (settings : Settings) (pool : Concurrent) (event : Pool.Event Job) : Concurrent :=
  Pool.step service (jobProgram settings) spawned pool event

def start (world : World) : Concurrent := ⟨world, []⟩

def Quiescent (pool : Concurrent) : Prop :=
  ∀ thread ∈ pool.threads, thread.rest.pending = none

/-- An event leaves the world as the call of at most one thread leaves it. -/
theorem state_step (settings : Settings) (pool : Concurrent) (event : Pool.Event Job) :
    (step settings pool event).state = pool.state ∨
      ∃ thread ∈ pool.threads, ∃ request, thread.rest.pending = some request ∧
        (step settings pool event).state = service.effect request pool.state := by
  cases event with
  | begin job => exact .inl rfl
  | turn index =>
      rcases Pool.turn_cases service (jobProgram settings) spawned pool index with
        ⟨job, request, next, acting⟩ | same
      · right
        exact ⟨_, List.mem_of_getElem? acting, request, rfl, Pool.state_turned acting⟩
      · exact .inl (congrArg Pool.state same)

/-- A thread that takes all the turns ends where its program ends alone. -/
theorem run_alone (settings : Settings) {pool : Concurrent} {index : Nat} {thread : JobThread}
    (found : pool.threads[index]? = some thread) :
    ∃ turns, (Runs.run (step settings) pool (List.replicate turns (.turn index))).state =
      (thread.rest.run service pool.state).2 := by
  rcases Pool.run_alone service (jobProgram settings) spawned thread.rest found with
    ⟨turns, ended, _⟩
  exact ⟨turns, ended⟩

end Concurrent

end NearRtRic.A1
