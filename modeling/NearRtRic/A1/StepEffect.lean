import NearRtRic.A1.Refinement

/-! Everything a step of the sequential machine can do, said once. -/

namespace NearRtRic.A1

variable {settings : Settings} {world : World}

theorem accepted_store {policyTypeId : Nat} {policyInstanceId : String} {body : Body}
    {creationTimestamp : String} :
    accepted settings world
        (.storePolicyInstance policyTypeId policyInstanceId body creationTimestamp) = true ↔
      (world.sdl.get (generateTypeKey policyTypeId)).isSome := by
  rw [accepted, program]
  cases typed : world.sdl.get (generateTypeKey policyTypeId) with
  | some typeBody =>
      rw [Program.run_bind_ok service _ (storePolicyInstance_run body creationTimestamp typed)]
      rfl
  | none =>
      rw [Program.run_bind_error service _ (storePolicyInstance_raises body creationTimestamp typed)]
      rfl

theorem accepted_status {policyTypeId : Nat} {policyInstanceId handlerId : String}
    {status : Json} :
    accepted settings world
        (.setPolicyInstanceStatus policyTypeId policyInstanceId handlerId status) = true ↔
      Valid world policyTypeId policyInstanceId := by
  rw [accepted, program]
  by_cases valid : Valid world policyTypeId policyInstanceId
  · rw [Program.run_bind_ok service _ (setPolicyInstanceStatus_run handlerId status valid)]
    simp [valid]
  · rcases setPolicyInstanceStatus_raises handlerId status valid with ⟨error, raised⟩
    rw [Program.run_bind_error service _ raised]
    simp [valid]

/-- `delete_policy_instance` needs both keys and metadata with a creation time. -/
def Deletable (world : World) (policyTypeId : Nat) (policyInstanceId : String)
    (createdAt : Json) : Prop :=
  Valid world policyTypeId policyInstanceId ∧
    ((world.sdl.get (generateInstanceMetadataKey policyTypeId policyInstanceId)).getD
      .null).getItem "created_at" = .ok createdAt

theorem deletePolicyInstance_deletable (settings : Settings) {policyTypeId : Nat}
    {policyInstanceId : String} {createdAt : Json} (deletedTimestamp : String)
    (deletable : Deletable world policyTypeId policyInstanceId createdAt) :
    (deletePolicyInstance settings policyTypeId policyInstanceId deletedTimestamp).run
        service world =
      (.ok (), { world with
        sdl := world.sdl.set (generateInstanceMetadataKey policyTypeId policyInstanceId)
          (deletedMetadata createdAt deletedTimestamp)
        timers := world.timers ++ [⟨policyTypeId, policyInstanceId,
          deletionTtl settings ((world.sdl.findAndGet
            (generateHandlerPrefix policyTypeId policyInstanceId)).map Prod.snd), false⟩] }) := by
  cases held : world.sdl.get (generateInstanceMetadataKey policyTypeId policyInstanceId) with
  | some metadata =>
      have created := deletable.2
      rw [held, Option.getD_some] at created
      exact deletePolicyInstance_run settings deletedTimestamp deletable.1 held created
  | none =>
      have created := deletable.2
      rw [held] at created
      exact absurd created (by simp [Json.getItem])

theorem deletePolicyInstance_not_deletable (settings : Settings) {policyTypeId : Nat}
    {policyInstanceId : String} (deletedTimestamp : String)
    (refused : ∀ createdAt, ¬ Deletable world policyTypeId policyInstanceId createdAt) :
    ∃ error, (deletePolicyInstance settings policyTypeId policyInstanceId deletedTimestamp).run
      service world = (.error error, world) := by
  by_cases valid : Valid world policyTypeId policyInstanceId
  · cases created : ((world.sdl.get
        (generateInstanceMetadataKey policyTypeId policyInstanceId)).getD .null).getItem
          "created_at" with
    | ok createdAt => exact absurd ⟨valid, created⟩ (refused createdAt)
    | error error =>
        exact ⟨.item error, deletePolicyInstance_subscript settings deletedTimestamp valid created⟩
  · exact deletePolicyInstance_raises settings deletedTimestamp valid

theorem accepted_delete {policyTypeId : Nat} {policyInstanceId deletedTimestamp : String} :
    accepted settings world
        (.deletePolicyInstance policyTypeId policyInstanceId deletedTimestamp) = true ↔
      ∃ createdAt, Deletable world policyTypeId policyInstanceId createdAt := by
  rw [accepted, program]
  by_cases deletable : ∃ createdAt, Deletable world policyTypeId policyInstanceId createdAt
  · rcases deletable with ⟨createdAt, deletable⟩
    rw [Program.run_bind_ok service _
      (deletePolicyInstance_deletable settings deletedTimestamp deletable)]
    exact ⟨fun _ => ⟨createdAt, deletable⟩, fun _ => rfl⟩
  · have refused := not_exists.mp deletable
    rcases deletePolicyInstance_not_deletable settings deletedTimestamp refused with
      ⟨error, raised⟩
    rw [Program.run_bind_error service _ raised]
    simp [deletable]

/-- The world after a step, by what the step did. -/
inductive StepEffect (settings : Settings) (world : World) : Operation → World → Prop where
  | refused (request : Request) (raised : accepted settings world request = false) :
      StepEffect settings world (.request request) world
  | reported (policyTypeId : Nat) (policyInstanceId : String) :
      StepEffect settings world
        (.request (.getPolicyInstanceStatus policyTypeId policyInstanceId)) world
  | typeStored (policyTypeId : Nat) (body : Body)
      (untyped : world.sdl.get (generateTypeKey policyTypeId) = none) :
      StepEffect settings world (.request (.storePolicyType policyTypeId body))
        { world with sdl := world.sdl.set (generateTypeKey policyTypeId) (.obj body) }
  | typeDeleted (policyTypeId : Nat) (empty : Empty world.sdl policyTypeId) :
      StepEffect settings world (.request (.deletePolicyType policyTypeId))
        { world with sdl := world.sdl.delete (generateTypeKey policyTypeId) }
  | stored (policyTypeId : Nat) (policyInstanceId : String) (body : Body)
      (creationTimestamp : String)
      (typed : (world.sdl.get (generateTypeKey policyTypeId)).isSome) :
      StepEffect settings world
        (.request (.storePolicyInstance policyTypeId policyInstanceId body creationTimestamp))
        { world with
          sdl := storedSdl world.sdl policyTypeId policyInstanceId body creationTimestamp }
  | deleted (policyTypeId : Nat) (policyInstanceId deletedTimestamp : String) (createdAt : Json)
      (deletable : Deletable world policyTypeId policyInstanceId createdAt) :
      StepEffect settings world
        (.request (.deletePolicyInstance policyTypeId policyInstanceId deletedTimestamp))
        { world with
          sdl := world.sdl.set (generateInstanceMetadataKey policyTypeId policyInstanceId)
            (deletedMetadata createdAt deletedTimestamp)
          timers := world.timers ++ [⟨policyTypeId, policyInstanceId,
            deletionTtl settings ((world.sdl.findAndGet
              (generateHandlerPrefix policyTypeId policyInstanceId)).map Prod.snd), false⟩] }
  | statusSet (policyTypeId : Nat) (policyInstanceId handlerId : String) (status : Json)
      (valid : Valid world policyTypeId policyInstanceId) :
      StepEffect settings world
        (.request (.setPolicyInstanceStatus policyTypeId policyInstanceId handlerId status))
        { world with
          sdl := world.sdl.set (generateHandlerKey policyTypeId policyInstanceId handlerId)
            status }
  | checkIdle (index : Nat)
      (idle : ∀ timer, world.timers[index]? = some timer → timer.asleep = true) :
      StepEffect settings world (.timerCheck index) world
  | timerLaid (index : Nat) (timer : Timer) (found : world.timers[index]? = some timer)
      (awake : timer.asleep = false)
      (valid : Valid world timer.policyTypeId timer.policyInstanceId) :
      StepEffect settings world (.timerCheck index)
        { world with
          timers := world.timers.set index { timer with asleep := true } }
  | timerEnded (index : Nat) (timer : Timer) (found : world.timers[index]? = some timer)
      (awake : timer.asleep = false)
      (invalid : ¬ Valid world timer.policyTypeId timer.policyInstanceId) :
      StepEffect settings world (.timerCheck index)
        { world with timers := world.timers.eraseIdx index }
  | expiryIdle (index : Nat)
      (idle : ∀ timer, world.timers[index]? = some timer → timer.asleep = false) :
      StepEffect settings world (.timerExpiry index) world
  | expired (index : Nat) (timer : Timer) (found : world.timers[index]? = some timer)
      (asleep : timer.asleep = true) :
      StepEffect settings world (.timerExpiry index)
        { world with
          sdl := expiredSdl world.sdl timer.policyTypeId timer.policyInstanceId
          timers := world.timers.eraseIdx index }

/-- A request that raises leaves the world alone: every check comes before the first write. -/
theorem effect_of_raise {request : Request} {error : A1Error}
    (raised : (program settings request).run service world = (.error error, world)) :
    StepEffect settings world (.request request) (step settings world (.request request)) := by
  have unchanged : step settings world (.request request) = world := by
    rw [step, raised]
  rw [unchanged]
  apply StepEffect.refused
  rw [accepted, raised]

theorem effect_of_request {request : Request} {value : Json} {after : World}
    (returned : (program settings request).run service world = (.ok value, after))
    (effect : StepEffect settings world (.request request) after) :
    StepEffect settings world (.request request) (step settings world (.request request)) := by
  rw [step, returned]
  exact effect

theorem request_effect (request : Request) :
    StepEffect settings world (.request request) (step settings world (.request request)) := by
  cases request with
  | storePolicyType policyTypeId body =>
      by_cases fresh : idMatches policyTypeId body = true ∧
          world.sdl.get (generateTypeKey policyTypeId) = none
      · exact effect_of_request
          (Program.run_bind_ok service _ (storePolicyType_run fresh.1 fresh.2))
          (.typeStored policyTypeId body fresh.2)
      · have refused : idMatches policyTypeId body = false ∨
            (world.sdl.get (generateTypeKey policyTypeId)).isSome := by
          rcases not_and_or.mp fresh with differs | held
          · exact .inl (Bool.eq_false_iff.mpr differs)
          · exact .inr (Option.isSome_iff_ne_none.mpr held)
        rcases storePolicyType_raises refused with ⟨error, raised⟩
        exact effect_of_raise (Program.run_bind_error service _ raised)
  | deletePolicyType policyTypeId =>
      cases typed : world.sdl.get (generateTypeKey policyTypeId) with
      | none =>
          exact effect_of_raise (Program.run_bind_error service _ (deletePolicyType_raises typed))
      | some typeBody =>
          by_cases empty : Empty world.sdl policyTypeId
          · exact effect_of_request
              (Program.run_bind_ok service _ (deletePolicyType_run typed empty))
              (.typeDeleted policyTypeId empty)
          · exact effect_of_raise
              (Program.run_bind_error service _ (deletePolicyType_refuses typed empty))
  | storePolicyInstance policyTypeId policyInstanceId body creationTimestamp =>
      cases typed : world.sdl.get (generateTypeKey policyTypeId) with
      | none =>
          exact effect_of_raise (Program.run_bind_error service _
            (storePolicyInstance_raises body creationTimestamp typed))
      | some typeBody =>
          exact effect_of_request (Program.run_bind_ok service _
            (storePolicyInstance_run body creationTimestamp typed))
            (.stored policyTypeId policyInstanceId body creationTimestamp (by simp [typed]))
  | deletePolicyInstance policyTypeId policyInstanceId deletedTimestamp =>
      by_cases deletable : ∃ createdAt, Deletable world policyTypeId policyInstanceId createdAt
      · rcases deletable with ⟨createdAt, deletable⟩
        exact effect_of_request (Program.run_bind_ok service _
          (deletePolicyInstance_deletable settings deletedTimestamp deletable))
          (.deleted policyTypeId policyInstanceId deletedTimestamp createdAt deletable)
      · rcases deletePolicyInstance_not_deletable settings deletedTimestamp
          (not_exists.mp deletable) with ⟨error, raised⟩
        exact effect_of_raise (Program.run_bind_error service _ raised)
  | setPolicyInstanceStatus policyTypeId policyInstanceId handlerId status =>
      by_cases valid : Valid world policyTypeId policyInstanceId
      · exact effect_of_request (Program.run_bind_ok service _
          (setPolicyInstanceStatus_run handlerId status valid))
          (.statusSet policyTypeId policyInstanceId handlerId status valid)
      · rcases setPolicyInstanceStatus_raises handlerId status valid with ⟨error, raised⟩
        exact effect_of_raise (Program.run_bind_error service _ raised)
  | getPolicyInstanceStatus policyTypeId policyInstanceId =>
      have unchanged : step settings world
          (.request (.getPolicyInstanceStatus policyTypeId policyInstanceId)) = world := by
        rw [step, program]
        by_cases valid : Valid world policyTypeId policyInstanceId
        · rw [getPolicyInstanceStatus_run valid]
        · rcases getPolicyInstanceStatus_raises valid with ⟨error, raised⟩
          rw [raised]
      rw [unchanged]
      exact .reported policyTypeId policyInstanceId

theorem effect_of_idle {operation : Operation} (idle : step settings world operation = world)
    (effect : StepEffect settings world operation world) :
    StepEffect settings world operation (step settings world operation) := by
  rw [idle]
  exact effect

/-- The inversion of a step: one case for everything that can happen. -/
theorem step_effect (settings : Settings) (world : World) (operation : Operation) :
    StepEffect settings world operation (step settings world operation) := by
  cases operation with
  | request request => exact request_effect request
  | timerCheck index =>
      cases found : world.timers[index]? with
      | none => exact effect_of_idle (by rw [step, found]) (.checkIdle index (by simp [found]))
      | some timer =>
          cases asleep : timer.asleep with
          | true =>
              exact effect_of_idle (by simp [step, found, asleep])
                (.checkIdle index (by simp [found, asleep]))
          | false =>
              by_cases valid : Valid world timer.policyTypeId timer.policyInstanceId
              · have ended : step settings world (.timerCheck index) =
                    { world with
                      timers := world.timers.set index { timer with asleep := true } } := by
                  simp [step, found, asleep, instanceIsValid_run valid]
                rw [ended]
                exact .timerLaid index timer found asleep valid
              · rcases instanceIsValid_raises valid with ⟨error, raised⟩
                have ended : step settings world (.timerCheck index) =
                    { world with timers := world.timers.eraseIdx index } := by
                  simp [step, found, asleep, raised]
                rw [ended]
                exact .timerEnded index timer found asleep valid
  | timerExpiry index =>
      cases found : world.timers[index]? with
      | none => exact effect_of_idle (by rw [step, found]) (.expiryIdle index (by simp [found]))
      | some timer =>
          cases asleep : timer.asleep with
          | false =>
              exact effect_of_idle (by simp [step, found, asleep])
                (.expiryIdle index (by simp [found, asleep]))
          | true =>
              have ended : step settings world (.timerExpiry index) =
                  { world with
                    sdl := expiredSdl world.sdl timer.policyTypeId timer.policyInstanceId
                    timers := world.timers.eraseIdx index } := by
                simp [step, found, asleep, deleteExpired_run]
              rw [ended]
              exact .expired index timer found asleep

end NearRtRic.A1
