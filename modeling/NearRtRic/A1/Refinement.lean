import NearRtRic.A1.Registry

/-! The machine over the SDL simulates the registry, operation by operation. -/

namespace NearRtRic.A1

section Stores

/-! What each write leaves under the keys of the three families. -/

variable (sdl : KeyValue Json) (first second : Nat) (text other : String)

@[simp] theorem get_cleared_type :
    (clearedSdl sdl second other).get (generateTypeKey first) = sdl.get (generateTypeKey first) := by
  simp [get_clearedSdl]

@[simp] theorem get_cleared_instance :
    (clearedSdl sdl second other).get (generateInstanceKey first text) =
      sdl.get (generateInstanceKey first text) := by
  simp [get_clearedSdl]

@[simp] theorem get_cleared_metadata :
    (clearedSdl sdl second other).get (generateInstanceMetadataKey first text) =
      sdl.get (generateInstanceMetadataKey first text) := by
  simp [get_clearedSdl]

@[simp] theorem get_expired_type :
    (expiredSdl sdl second other).get (generateTypeKey first) = sdl.get (generateTypeKey first) := by
  simp [expiredSdl, KeyValue.get_delete]

@[simp] theorem get_expired_instance :
    (expiredSdl sdl second other).get (generateInstanceKey first text) =
      if first = second ∧ text = other then none else sdl.get (generateInstanceKey first text) := by
  simp [expiredSdl, KeyValue.get_delete]

@[simp] theorem get_expired_metadata :
    (expiredSdl sdl second other).get (generateInstanceMetadataKey first text) =
      if first = second ∧ text = other then none
      else sdl.get (generateInstanceMetadataKey first text) := by
  simp [expiredSdl, KeyValue.get_delete, (instance_ne_metadata _ _ _ _).symm]

variable (body : Body) (creationTimestamp : String)

@[simp] theorem get_stored_type :
    (storedSdl sdl second other body creationTimestamp).get (generateTypeKey first) =
      sdl.get (generateTypeKey first) := by
  rw [storedSdl]
  split <;> simp [KeyValue.get_set]

@[simp] theorem get_stored_instance :
    (storedSdl sdl second other body creationTimestamp).get (generateInstanceKey first text) =
      if first = second ∧ text = other then some (.obj body)
      else sdl.get (generateInstanceKey first text) := by
  rw [storedSdl]
  split <;> simp [KeyValue.get_set]

@[simp] theorem get_stored_metadata :
    (storedSdl sdl second other body creationTimestamp).get
        (generateInstanceMetadataKey first text) =
      if first = second ∧ text = other then some (storedMetadata creationTimestamp)
      else sdl.get (generateInstanceMetadataKey first text) := by
  rw [storedSdl]
  split <;> simp [KeyValue.get_set, (instance_ne_metadata _ _ _ _).symm]

end Stores

namespace Represents

variable {world : World} {registry : Registry} {policyTypeId : Nat} {policyInstanceId : String}

theorem untyped (represents : Represents world registry)
    (absent : ¬ (registry.types policyTypeId).isSome) :
    world.sdl.get (generateTypeKey policyTypeId) = none := by
  rw [represents.types, Option.not_isSome_iff_eq_none.mp absent]
  rfl

/-- A write that reaches one type only. -/
theorem sets_type (represents : Represents world registry) {sdl : KeyValue Json}
    (body : Option Body)
    (types : ∀ other : Nat, sdl.get (generateTypeKey other) =
      if other = policyTypeId then body.map .obj else world.sdl.get (generateTypeKey other))
    (instances : ∀ (other : Nat) (text : String),
      sdl.get (generateInstanceKey other text) = world.sdl.get (generateInstanceKey other text))
    (metadata : ∀ (other : Nat) (text : String),
      sdl.get (generateInstanceMetadataKey other text) =
        world.sdl.get (generateInstanceMetadataKey other text)) :
    Represents { world with sdl := sdl } (registry.setType policyTypeId body) where
  types := by
    intro other
    rw [types]
    by_cases same : other = policyTypeId
    · simp [Registry.setType, same]
    · simp [Registry.setType, same, represents.types]
  instances := fun other text => (instances other text).trans (represents.instances other text)
  metadata := fun other text => (metadata other text).trans (represents.metadata other text)
  timers := represents.timers

/-- A write that reaches one policy only. -/
theorem sets_policy (represents : Represents world registry) {sdl : KeyValue Json}
    (policy : Option Policy)
    (types : ∀ other : Nat,
      sdl.get (generateTypeKey other) = world.sdl.get (generateTypeKey other))
    (instances : ∀ (other : Nat) (text : String), sdl.get (generateInstanceKey other text) =
      if other = policyTypeId ∧ text = policyInstanceId then
        policy.map (fun held => .obj held.body)
      else world.sdl.get (generateInstanceKey other text))
    (metadata : ∀ (other : Nat) (text : String), sdl.get (generateInstanceMetadataKey other text) =
      if other = policyTypeId ∧ text = policyInstanceId then policy.map Policy.metadata
      else world.sdl.get (generateInstanceMetadataKey other text)) :
    Represents { world with sdl := sdl }
      (registry.setPolicy policyTypeId policyInstanceId policy) where
  types := fun other => (types other).trans (represents.types other)
  instances := by
    intro other text
    rw [instances]
    by_cases same : other = policyTypeId ∧ text = policyInstanceId
    · simp [Registry.setPolicy, same]
    · simp [Registry.setPolicy, same, represents.instances]
  metadata := by
    intro other text
    rw [metadata]
    by_cases same : other = policyTypeId ∧ text = policyInstanceId
    · simp [Registry.setPolicy, same]
    · simp [Registry.setPolicy, same, represents.metadata]
  timers := represents.timers

theorem stores_type (represents : Represents world registry) (body : Body) :
    Represents { world with sdl := world.sdl.set (generateTypeKey policyTypeId) (.obj body) }
      (registry.setType policyTypeId (some body)) := by
  apply represents.sets_type
  · intro other
    simp [KeyValue.get_set]
  · intro other text
    exact KeyValue.get_set_other _ _ (type_ne_instance _ _ _).symm
  · intro other text
    exact KeyValue.get_set_other _ _ (type_ne_metadata _ _ _).symm

theorem deletes_type (represents : Represents world registry) :
    Represents { world with sdl := world.sdl.delete (generateTypeKey policyTypeId) }
      (registry.setType policyTypeId none) := by
  apply represents.sets_type
  · intro other
    simp [KeyValue.get_delete]
  · intro other text
    exact KeyValue.get_delete_other _ (type_ne_instance _ _ _).symm
  · intro other text
    exact KeyValue.get_delete_other _ (type_ne_metadata _ _ _).symm

theorem stores_instance (represents : Represents world registry) (body : Body)
    (creationTimestamp : String) (statuses : String → Option Json) :
    Represents
      { world with
        sdl := storedSdl world.sdl policyTypeId policyInstanceId body creationTimestamp }
      (registry.setPolicy policyTypeId policyInstanceId
        (some ⟨body, creationTimestamp, none, statuses⟩)) := by
  apply represents.sets_policy
  · intro other
    exact get_stored_type _ _ _ _ body creationTimestamp
  · intro other text
    exact get_stored_instance _ _ _ _ _ body creationTimestamp
  · intro other text
    exact get_stored_metadata _ _ _ _ _ body creationTimestamp

theorem expires (represents : Represents world registry) :
    Represents { world with sdl := expiredSdl world.sdl policyTypeId policyInstanceId }
      (registry.setPolicy policyTypeId policyInstanceId none) := by
  apply represents.sets_policy
  · intro other
    exact get_expired_type _ _ _ _
  · intro other text
    exact get_expired_instance _ _ _ _ _
  · intro other text
    exact get_expired_metadata _ _ _ _ _

/-- Nothing is written where the policy's entry is already held. -/
theorem held_stays {sdl : KeyValue Json} (key : Nat → String → String) {value : Option Json}
    (held : sdl.get (key policyTypeId policyInstanceId) = value) (other : Nat) (text : String) :
    sdl.get (key other text) =
      if other = policyTypeId ∧ text = policyInstanceId then value
      else sdl.get (key other text) := by
  split
  · next here => rw [here.1, here.2, held]
  · rfl

theorem marks_deleted (represents : Represents world registry) {policy : Policy}
    (held : registry.policies policyTypeId policyInstanceId = some policy)
    (deletedTimestamp : String) :
    Represents
      { world with
        sdl := world.sdl.set (generateInstanceMetadataKey policyTypeId policyInstanceId)
          (deletedMetadata (.float policy.createdAt) deletedTimestamp) }
      (registry.setPolicy policyTypeId policyInstanceId
        (some { policy with deletedAt := some deletedTimestamp })) := by
  apply represents.sets_policy
  · intro other
    exact KeyValue.get_set_other _ _ (type_ne_metadata _ _ _)
  · intro other text
    have body := represents.instances policyTypeId policyInstanceId
    rw [held] at body
    rw [KeyValue.get_set_other _ _ (instance_ne_metadata _ _ _ _)]
    exact held_stays generateInstanceKey body other text
  · intro other text
    simp [KeyValue.get_set, Policy.metadata]

theorem sets_status (represents : Represents world registry) {policy : Policy}
    (held : registry.policies policyTypeId policyInstanceId = some policy)
    (handlerId : String) (status : Json) (statuses : String → Option Json) :
    Represents
      { world with
        sdl := world.sdl.set (generateHandlerKey policyTypeId policyInstanceId handlerId) status }
      (registry.setPolicy policyTypeId policyInstanceId
        (some { policy with statuses := statuses })) := by
  have body := represents.instances policyTypeId policyInstanceId
  have metadata := represents.metadata policyTypeId policyInstanceId
  rw [held] at body metadata
  apply represents.sets_policy
  · intro other
    exact KeyValue.get_set_other _ _ (type_ne_handler _ _ _ _)
  · intro other text
    rw [KeyValue.get_set_other _ _ (instance_ne_handler _ _ _ _ _)]
    exact held_stays generateInstanceKey body other text
  · intro other text
    rw [KeyValue.get_set_other _ _ (metadata_ne_handler _ _ _ _ _)]
    exact held_stays generateInstanceMetadataKey metadata other text

theorem starts_timer (represents : Represents world registry) (ttl : Int) :
    Represents
      { world with
        timers := world.timers ++ [⟨policyTypeId, policyInstanceId, ttl, false⟩] }
      { registry with
        timers := registry.timers ++ [⟨policyTypeId, policyInstanceId, false⟩] } where
  types := represents.types
  instances := represents.instances
  metadata := represents.metadata
  timers := by simp [represents.timers]

theorem after_delete (represents : Represents world registry) (settings : Settings)
    (deletedTimestamp : String) :
    Represents
      ((deletePolicyInstance settings policyTypeId policyInstanceId deletedTimestamp).run
        service world).2
      (registry.request (.deletePolicyInstance policyTypeId policyInstanceId
        deletedTimestamp)) := by
  rw [Registry.request]
  by_cases valid : registry.Valid policyTypeId policyInstanceId
  · rcases Option.isSome_iff_exists.mp valid.2 with ⟨policy, held⟩
    have metadata := represents.metadata policyTypeId policyInstanceId
    rw [held] at metadata
    rw [if_pos valid, deletePolicyInstance_run settings deletedTimestamp
      ((represents.valid_iff _ _).mpr valid) metadata policy.created_at, held]
    exact (represents.marks_deleted held deletedTimestamp).starts_timer _
  · rcases deletePolicyInstance_raises settings deletedTimestamp
      (fun passes => valid ((represents.valid_iff _ _).mp passes)) with ⟨error, raised⟩
    rw [if_neg valid, raised]
    exact represents

theorem after_status (represents : Represents world registry) (handlerId : String)
    (status : Json) :
    Represents
      ((setPolicyInstanceStatus policyTypeId policyInstanceId handlerId status).run
        service world).2
      (registry.request (.setPolicyInstanceStatus policyTypeId policyInstanceId handlerId
        status)) := by
  rw [Registry.request]
  by_cases valid : registry.Valid policyTypeId policyInstanceId
  · rcases Option.isSome_iff_exists.mp valid.2 with ⟨policy, held⟩
    rw [if_pos valid, setPolicyInstanceStatus_run handlerId status
      ((represents.valid_iff _ _).mpr valid), held]
    exact represents.sets_status held handlerId status _
  · rcases setPolicyInstanceStatus_raises handlerId status
      (fun passes => valid ((represents.valid_iff _ _).mp passes)) with ⟨error, raised⟩
    rw [if_neg valid, raised]
    exact represents

theorem after_store (represents : Represents world registry) (body : Body)
    (creationTimestamp : String) :
    Represents
      ((storePolicyInstance policyTypeId policyInstanceId body creationTimestamp).run
        service world).2
      (registry.request (.storePolicyInstance policyTypeId policyInstanceId body
        creationTimestamp)) := by
  rw [Registry.request]
  by_cases typed : (registry.types policyTypeId).isSome
  · rcases Option.isSome_iff_exists.mp
      ((represents.typed_iff _).mpr typed) with ⟨typeBody, present⟩
    rw [if_pos typed, storePolicyInstance_run body creationTimestamp present]
    exact represents.stores_instance body creationTimestamp _
  · rw [if_neg typed, storePolicyInstance_raises body creationTimestamp (represents.untyped typed)]
    exact represents

theorem after_store_type (represents : Represents world registry) (body : Body) :
    Represents ((storePolicyType policyTypeId body).run service world).2
      (registry.request (.storePolicyType policyTypeId body)) := by
  rw [Registry.request]
  by_cases fresh : idMatches policyTypeId body ∧ registry.types policyTypeId = none
  · have absent : world.sdl.get (generateTypeKey policyTypeId) = none := by
      rw [represents.types, fresh.2]
      rfl
    rw [if_pos fresh, storePolicyType_run fresh.1 absent]
    exact represents.stores_type body
  · have refused : idMatches policyTypeId body = false ∨
        (world.sdl.get (generateTypeKey policyTypeId)).isSome := by
      by_cases same : idMatches policyTypeId body = true
      · right
        rw [represents.typed_iff, Option.isSome_iff_ne_none]
        intro absent
        exact fresh ⟨same, absent⟩
      · exact .inl (Bool.eq_false_iff.mpr same)
    rcases storePolicyType_raises refused with ⟨error, raised⟩
    rw [if_neg fresh, raised]
    exact represents

theorem after_delete_type (represents : Represents world registry) :
    Represents ((deletePolicyType policyTypeId).run service world).2
      (registry.request (.deletePolicyType policyTypeId)) := by
  rw [Registry.request]
  by_cases typed : (registry.types policyTypeId).isSome
  · rcases Option.isSome_iff_exists.mp
      ((represents.typed_iff _).mpr typed) with ⟨typeBody, present⟩
    by_cases empty : Empty world.sdl policyTypeId
    · rw [if_pos ((represents.empty_iff _).mp empty), deletePolicyType_run present empty]
      exact represents.deletes_type
    · rw [if_neg (fun absent => empty ((represents.empty_iff _).mpr absent)),
        deletePolicyType_refuses present empty]
      exact represents
  · have unchanged : registry.setType policyTypeId none = registry := by
      have absent := Option.not_isSome_iff_eq_none.mp typed
      rw [Registry.setType]
      congr 1
      funext other
      split
      · next same => rw [same, absent]
      · rfl
    rw [deletePolicyType_raises (represents.untyped typed), unchanged, ite_self]
    exact represents

theorem after_get_status (represents : Represents world registry) :
    Represents ((getPolicyInstanceStatus policyTypeId policyInstanceId).run service world).2
      registry := by
  by_cases valid : Valid world policyTypeId policyInstanceId
  · rw [getPolicyInstanceStatus_run valid]
    exact represents
  · rcases getPolicyInstanceStatus_raises valid with ⟨error, raised⟩
    rw [raised]
    exact represents

/-- Every request does to the registry what its calls do to the SDL. -/
theorem after_request (represents : Represents world registry) (settings : Settings)
    (request : Request) :
    Represents ((program settings request).run service world).2 (registry.request request) := by
  cases request with
  | storePolicyType policyTypeId body =>
      rw [program, Program.pure_eq, Program.run_bind_done]
      exact represents.after_store_type body
  | deletePolicyType policyTypeId =>
      rw [program, Program.pure_eq, Program.run_bind_done]
      exact represents.after_delete_type
  | storePolicyInstance policyTypeId policyInstanceId body creationTimestamp =>
      rw [program]
      simp only [Program.pure_eq, Program.run_bind_done]
      exact represents.after_store body creationTimestamp
  | deletePolicyInstance policyTypeId policyInstanceId deletedTimestamp =>
      rw [program, Program.pure_eq, Program.run_bind_done]
      exact represents.after_delete settings deletedTimestamp
  | setPolicyInstanceStatus policyTypeId policyInstanceId handlerId status =>
      rw [program, Program.pure_eq, Program.run_bind_done]
      exact represents.after_status handlerId status
  | getPolicyInstanceStatus policyTypeId policyInstanceId =>
      exact represents.after_get_status

theorem timer_at (represents : Represents world registry) (index : Nat) :
    registry.timers[index]? = world.timers[index]?.map
      (fun timer => ⟨timer.policyTypeId, timer.policyInstanceId, timer.asleep⟩) := by
  rw [represents.timers, List.getElem?_map]

theorem drops_timer (represents : Represents world registry) (index : Nat) :
    Represents { world with timers := world.timers.eraseIdx index }
      { registry with timers := registry.timers.eraseIdx index } where
  types := represents.types
  instances := represents.instances
  metadata := represents.metadata
  timers := by simp only [represents.timers, List.eraseIdx_map]

theorem lays_timer (represents : Represents world registry) (index : Nat) (timer : Timer) :
    Represents
      { world with
        timers := world.timers.set index { timer with asleep := true } }
      { registry with
        timers := registry.timers.set index
          ⟨timer.policyTypeId, timer.policyInstanceId, true⟩ } where
  types := represents.types
  instances := represents.instances
  metadata := represents.metadata
  timers := by simp only [represents.timers, List.map_set]

/-- One step of the machine is one step of the registry. -/
theorem after_step (represents : Represents world registry) (settings : Settings)
    (operation : Operation) :
    Represents (step settings world operation) (registry.step operation) := by
  cases operation with
  | request request => exact represents.after_request settings request
  | timerCheck index =>
      rw [step, Registry.step, represents.timer_at]
      cases found : world.timers[index]? with
      | none => exact represents
      | some timer =>
          simp only [Option.map_some]
          by_cases asleep : timer.asleep = true
          · rw [if_pos asleep, if_pos asleep]
            exact represents
          · rw [if_neg asleep, if_neg asleep]
            by_cases valid : Valid world timer.policyTypeId timer.policyInstanceId
            · rw [instanceIsValid_run valid, if_pos ((represents.valid_iff _ _).mp valid)]
              exact represents.lays_timer index timer
            · rcases instanceIsValid_raises valid with ⟨error, raised⟩
              rw [raised, if_neg (fun passes => valid ((represents.valid_iff _ _).mpr passes))]
              exact represents.drops_timer index
  | timerExpiry index =>
      rw [step, Registry.step, represents.timer_at]
      cases found : world.timers[index]? with
      | none => exact represents
      | some timer =>
          simp only [Option.map_some]
          by_cases asleep : timer.asleep = true
          · rw [if_pos asleep, if_pos asleep, deleteExpired_run]
            exact represents.expires.drops_timer index
          · rw [if_neg asleep, if_neg asleep]
            exact represents

end Represents

/-- Forward simulation: a run of the machine is the same run of the registry. -/
theorem represents_run (settings : Settings) (operations : List Operation) {world : World}
    {registry : Registry} (represents : Represents world registry) :
    Represents (Runs.run (step settings) world operations)
      (Runs.run Registry.step registry operations) := by
  induction operations generalizing world registry with
  | nil => exact represents
  | cons operation operations ih => exact ih (represents.after_step settings operation)

/-- Every run that starts from an empty store. -/
theorem represents_reachable (settings : Settings) (operations : List Operation) :
    Represents (Runs.run (step settings) World.empty operations)
      (Runs.run Registry.step Registry.empty operations) :=
  represents_run settings operations represents_empty

end NearRtRic.A1
