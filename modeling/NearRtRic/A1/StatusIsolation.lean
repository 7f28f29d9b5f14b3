import NearRtRic.A1.Statuses

/-! Whether what one instance does shows in the statuses of another. -/

namespace NearRtRic.A1

def statusReads (policyTypeId : Nat) (policyInstanceId : String) (request : Call) : Prop :=
  request = .get (generateTypeKey policyTypeId) ∨
    request = .get (generateInstanceKey policyTypeId policyInstanceId) ∨
    request = .get (generateInstanceMetadataKey policyTypeId policyInstanceId) ∨
    request = .findAndGet (generateHandlerPrefix policyTypeId policyInstanceId)

section Reads

variable {policyTypeId : Nat} {policyInstanceId : String}

theorem typeIsValid_confined :
    (typeIsValid policyTypeId).Confined (statusReads policyTypeId policyInstanceId) := by
  refine ⟨.inl rfl, ?_⟩
  intro answer
  cases answer <;> trivial

theorem instanceIsValid_confined :
    (instanceIsValid policyTypeId policyInstanceId).Confined
      (statusReads policyTypeId policyInstanceId) := by
  apply Program.confined_bind typeIsValid_confined
  intro _
  refine ⟨.inr (.inl rfl), ?_⟩
  intro answer
  cases answer <;> trivial

theorem getPolicyInstanceStatus_confined :
    (getPolicyInstanceStatus policyTypeId policyInstanceId).Confined
      (statusReads policyTypeId policyInstanceId) := by
  have item : ∀ result : Except Json.ItemError Json,
      (ofItem result).Confined (statusReads policyTypeId policyInstanceId) := by
    intro result
    cases result <;> trivial
  apply Program.confined_bind instanceIsValid_confined
  intro _
  have metadata : (getMetadata policyTypeId policyInstanceId).Confined
      (statusReads policyTypeId policyInstanceId) :=
    Program.confined_bind instanceIsValid_confined
      (fun _ => ⟨.inr (.inr (.inl rfl)), fun _ => trivial⟩)
  apply Program.confined_bind metadata
  intro existing
  apply Program.confined_bind (item _)
  intro notInEffect
  have statuses : (getStatuses policyTypeId policyInstanceId).Confined
      (statusReads policyTypeId policyInstanceId) :=
    Program.confined_bind instanceIsValid_confined
      (fun _ => ⟨.inr (.inr (.inr rfl)), fun _ => trivial⟩)
  apply Program.confined_bind statuses
  intro vector
  split
  · exact item _
  · trivial

theorem statusReads_effect (request : Call)
    (read : statusReads policyTypeId policyInstanceId request) (world : World) :
    service.effect request world = world := by
  rcases read with rfl | rfl | rfl | rfl <;> rfl

end Reads

def subject (world : World) : Operation → Option (Nat × String)
  | .request (.storePolicyInstance policyTypeId policyInstanceId _ _)
  | .request (.deletePolicyInstance policyTypeId policyInstanceId _)
  | .request (.setPolicyInstanceStatus policyTypeId policyInstanceId _ _) =>
      some (policyTypeId, policyInstanceId)
  | .timerExpiry index =>
      (world.timers[index]?).map (fun timer => (timer.policyTypeId, timer.policyInstanceId))
  | _ => none

def statusList (world : World) (policyTypeId : Nat) (policyInstanceId : String) : List Json :=
  (handlerSearch world.sdl policyTypeId policyInstanceId).map Prod.snd

/-- The list of statuses, the aggregated status and the delay of a deletion stay as they are. -/
structure StatusesKept (settings : Settings) (before after : World) (policyTypeId : Nat)
    (policyInstanceId : String) : Prop where
  statuses : statusList after policyTypeId policyInstanceId =
    statusList before policyTypeId policyInstanceId
  report : ((getPolicyInstanceStatus policyTypeId policyInstanceId).run service after).1 =
    ((getPolicyInstanceStatus policyTypeId policyInstanceId).run service before).1
  delay : deletionTtl settings (statusList after policyTypeId policyInstanceId) =
    deletionTtl settings (statusList before policyTypeId policyInstanceId)

def Isolates (settings : Settings) (world : World) (operation : Operation) : Prop :=
  ∀ (policyTypeId otherType : Nat) (policyInstanceId otherInstance : String),
    subject world operation = some (policyTypeId, policyInstanceId) →
    (otherType, otherInstance) ≠ (policyTypeId, policyInstanceId) →
      StatusesKept settings world (step settings world operation) otherType otherInstance

section Held

/-! Under plain ids the handler entries are the statuses of the registry. -/

variable {settings : Settings} {world : World} {registry : Registry}

def HoldsStatuses (sdl : KeyValue Json) (registry : Registry) : Prop :=
  ∀ (policyTypeId : Nat) (policyInstanceId handlerId : String),
    sdl.get (generateHandlerKey policyTypeId policyInstanceId handlerId) =
      registry.lastStatus policyTypeId policyInstanceId handlerId

theorem get_cleared_handler {sdl : KeyValue Json} (plain : PlainHandlers sdl)
    (policyTypeId otherType : Nat) (policyInstanceId otherInstance handlerId : String) :
    (clearedSdl sdl policyTypeId policyInstanceId).get
        (generateHandlerKey otherType otherInstance handlerId) =
      if otherType = policyTypeId ∧ otherInstance = policyInstanceId then none
      else sdl.get (generateHandlerKey otherType otherInstance handlerId) := by
  rw [get_clearedSdl]
  by_cases same : otherType = policyTypeId ∧ otherInstance = policyInstanceId
  · rcases same with ⟨rfl, rfl⟩
    simp
  · rw [if_neg same]
    split
    · next starts =>
        have differ : (otherType, otherInstance) ≠ (policyTypeId, policyInstanceId) := by
          simpa using same
        by_contra held
        have outside := plain.apart differ (Option.isSome_iff_ne_none.mpr (Ne.symm held)) starts
        rw [handler_key_starts] at outside
        exact Bool.noConfusion outside
    · rfl

theorem get_expired_handler {sdl : KeyValue Json} (plain : PlainHandlers sdl)
    (policyTypeId otherType : Nat) (policyInstanceId otherInstance handlerId : String) :
    (expiredSdl sdl policyTypeId policyInstanceId).get
        (generateHandlerKey otherType otherInstance handlerId) =
      if otherType = policyTypeId ∧ otherInstance = policyInstanceId then none
      else sdl.get (generateHandlerKey otherType otherInstance handlerId) := by
  rw [expiredSdl, KeyValue.get_delete_other _ (metadata_ne_handler _ _ _ _ _).symm,
    KeyValue.get_delete_other _ (instance_ne_handler _ _ _ _ _).symm,
    get_cleared_handler plain]

theorem get_stored_handler {sdl : KeyValue Json} (plain : PlainHandlers sdl)
    (policyTypeId otherType : Nat) (policyInstanceId otherInstance handlerId : String)
    (body : Body) (creationTimestamp : String) :
    (storedSdl sdl policyTypeId policyInstanceId body creationTimestamp).get
        (generateHandlerKey otherType otherInstance handlerId) =
      if (sdl.get (generateInstanceKey policyTypeId policyInstanceId)).isSome ∧
          otherType = policyTypeId ∧ otherInstance = policyInstanceId then none
      else sdl.get (generateHandlerKey otherType otherInstance handlerId) := by
  rw [storedSdl, KeyValue.get_set_other _ _ (metadata_ne_handler _ _ _ _ _).symm,
    KeyValue.get_set_other _ _ (instance_ne_handler _ _ _ _ _).symm]
  by_cases held : (sdl.get (generateInstanceKey policyTypeId policyInstanceId)).isSome = true
  · rw [if_pos held, get_cleared_handler plain]
    simp [held]
  · rw [if_neg held]
    simp [held]

/-- A request that raises leaves what each handler last reported. -/
theorem lastStatus_refused (represents : Represents world registry) {request : Request}
    (raised : accepted settings world request = false) (otherType : Nat)
    (otherInstance otherHandler : String) :
    (registry.step (.request request)).lastStatus otherType otherInstance otherHandler =
      registry.lastStatus otherType otherInstance otherHandler := by
  cases request with
  | storePolicyType => rw [Registry.lastStatus_storeType]
  | deletePolicyType => rw [Registry.lastStatus_deleteType]
  | deletePolicyInstance => rw [Registry.lastStatus_delete]
  | getPolicyInstanceStatus => rfl
  | storePolicyInstance policyTypeId policyInstanceId body creationTimestamp =>
      have untyped : ¬ (registry.types policyTypeId).isSome := by
        rw [← represents.typed_iff, ← accepted_store, raised]
        exact Bool.false_ne_true
      rw [Registry.lastStatus_store, if_neg (fun both => untyped both.1)]
  | setPolicyInstanceStatus policyTypeId policyInstanceId handlerId status =>
      have invalid : ¬ registry.Valid policyTypeId policyInstanceId := by
        rw [← represents.valid_iff, ← accepted_status, raised]
        exact Bool.false_ne_true
      rw [Registry.lastStatus_status, if_neg (fun both => invalid both.1)]

theorem holdsStatuses_stored (represents : Represents world registry)
    (plain : PlainHandlers world.sdl) (holds : HoldsStatuses world.sdl registry)
    {policyTypeId : Nat} (policyInstanceId : String) (body : Body) (creationTimestamp : String)
    (typed : (world.sdl.get (generateTypeKey policyTypeId)).isSome) :
    HoldsStatuses (storedSdl world.sdl policyTypeId policyInstanceId body creationTimestamp)
      (registry.step (.request (.storePolicyInstance policyTypeId policyInstanceId body
        creationTimestamp))) := by
  intro otherType otherInstance otherHandler
  rw [Registry.lastStatus_store, get_stored_handler plain]
  simp only [(represents.typed_iff _).mp typed, true_and]
  by_cases same : otherType = policyTypeId ∧ otherInstance = policyInstanceId
  · rw [if_pos same]
    by_cases held : (world.sdl.get (generateInstanceKey policyTypeId policyInstanceId)).isSome
    · rw [if_pos ⟨held, same⟩]
    · -- an instance that is not stored has no last status
      have missing : registry.policies otherType otherInstance = none := by
        rw [represents.instances, Option.isSome_map] at held
        rw [same.1, same.2]
        exact Option.not_isSome_iff_eq_none.mp held
      rw [if_neg (fun both => held both.1), holds, Registry.lastStatus, missing]
      rfl
  · rw [if_neg same, if_neg (fun both => same both.2), holds]

theorem handlerKey_differs {policyTypeId otherType : Nat}
    {policyInstanceId otherInstance handlerId otherHandler : String}
    (plainInstance : Plain policyInstanceId) (plainHandler : Plain handlerId)
    (apart : ¬ ((otherType = policyTypeId ∧ otherInstance = policyInstanceId) ∧
      otherHandler = handlerId)) :
    generateHandlerKey otherType otherInstance otherHandler ≠
      generateHandlerKey policyTypeId policyInstanceId handlerId := by
  intro equal
  have starts := handler_key_starts otherType otherInstance otherHandler
  rw [equal] at starts
  rcases handler_key_plain plainInstance plainHandler starts with ⟨rfl, rfl⟩
  exact apart ⟨⟨rfl, rfl⟩, Text.append_left_cancel equal⟩

theorem holdsStatuses_set (represents : Represents world registry)
    (holds : HoldsStatuses world.sdl registry) {policyTypeId : Nat}
    {policyInstanceId handlerId : String} (status : Json)
    (plainInstance : Plain policyInstanceId) (plainHandler : Plain handlerId)
    (valid : Valid world policyTypeId policyInstanceId) :
    HoldsStatuses
      (world.sdl.set (generateHandlerKey policyTypeId policyInstanceId handlerId) status)
      (registry.step (.request (.setPolicyInstanceStatus policyTypeId policyInstanceId handlerId
        status))) := by
  intro otherType otherInstance otherHandler
  rw [Registry.lastStatus_status, KeyValue.get_set]
  simp only [(represents.valid_iff _ _).mp valid, true_and]
  by_cases same : (otherType = policyTypeId ∧ otherInstance = policyInstanceId) ∧
      otherHandler = handlerId
  · rcases same with ⟨⟨rfl, rfl⟩, rfl⟩
    simp
  · rw [if_neg (handlerKey_differs plainInstance plainHandler same), if_neg same, holds]

theorem holdsStatuses_step (represents : Represents world registry)
    (plain : PlainHandlers world.sdl) (holds : HoldsStatuses world.sdl registry)
    (operation : Operation) (allowed : PlainStatuses settings world operation) :
    HoldsStatuses (step settings world operation).sdl (registry.step operation) := by
  have effect := step_effect settings world operation
  generalize step settings world operation = after at effect
  intro otherType otherInstance otherHandler
  have before := holds otherType otherInstance otherHandler
  cases effect with
  | reported => exact before
  | refused request raised => rw [lastStatus_refused represents raised, before]
  | typeStored policyTypeId body untyped =>
      rw [Registry.lastStatus_storeType, ← before]
      exact KeyValue.get_set_other _ _ (type_ne_handler _ _ _ _).symm
  | typeDeleted policyTypeId empty =>
      rw [Registry.lastStatus_deleteType, ← before]
      exact KeyValue.get_delete_other _ (type_ne_handler _ _ _ _).symm
  | checkIdle index idle => rw [Registry.lastStatus_check, before]
  | timerLaid index timer found awake valid => rw [Registry.lastStatus_check, before]
  | timerEnded index timer found awake invalid => rw [Registry.lastStatus_check, before]
  | deleted policyTypeId policyInstanceId deletedTimestamp createdAt deletable =>
      rw [Registry.lastStatus_delete, ← before]
      exact KeyValue.get_set_other _ _ (metadata_ne_handler _ _ _ _ _).symm
  | stored policyTypeId policyInstanceId body creationTimestamp typed =>
      exact holdsStatuses_stored represents plain holds policyInstanceId body creationTimestamp
        typed otherType otherInstance otherHandler
  | statusSet policyTypeId policyInstanceId handlerId status valid =>
      have ⟨plainInstance, plainHandler⟩ :=
        allowed _ _ handlerId status rfl (accepted_status.mpr valid)
      exact holdsStatuses_set represents holds status plainInstance plainHandler valid otherType
        otherInstance otherHandler
  | expiryIdle index idle =>
      have quiet : ∀ timer, registry.timers[index]? = some timer → timer.asleep = false := by
        intro timer found
        rw [represents.timer_at, Option.map_eq_some_iff] at found
        rcases found with ⟨held, there, rfl⟩
        exact idle held there
      rw [Registry.step_expiry_idle registry index quiet, before]
  | expired index timer found asleep =>
      have pending : registry.timers[index]? =
          some ⟨timer.policyTypeId, timer.policyInstanceId, timer.asleep⟩ := by
        rw [represents.timer_at, found]
        rfl
      rw [Registry.lastStatus_expiry registry otherType otherInstance otherHandler index _ pending
        asleep, ← before]
      exact get_expired_handler plain _ _ _ _ _

end Held

section Keeps

variable {settings : Settings} {before after : World} {policyTypeId : Nat}
variable {policyInstanceId : String}

theorem statusesKept_of_reads
    (types : after.sdl.get (generateTypeKey policyTypeId) =
      before.sdl.get (generateTypeKey policyTypeId))
    (instances : after.sdl.get (generateInstanceKey policyTypeId policyInstanceId) =
      before.sdl.get (generateInstanceKey policyTypeId policyInstanceId))
    (metadata : after.sdl.get (generateInstanceMetadataKey policyTypeId policyInstanceId) =
      before.sdl.get (generateInstanceMetadataKey policyTypeId policyInstanceId))
    (search : handlerSearch after.sdl policyTypeId policyInstanceId =
      handlerSearch before.sdl policyTypeId policyInstanceId) :
    StatusesKept settings before after policyTypeId policyInstanceId where
  statuses := by rw [statusList, statusList, search]
  report := by
    apply Program.confined_answer getPolicyInstanceStatus_confined
    · intro request read
      exact statusReads_effect request read after
    · intro request read
      exact statusReads_effect request read before
    · intro request read
      rcases read with rfl | rfl | rfl | rfl
      · exact types
      · exact instances
      · exact metadata
      · exact search
  delay := by rw [statusList, statusList, search]

/-- The step lemma: with plain handler entries and plain ids nothing shows elsewhere. -/
theorem isolates_of_plain {world : World} {operation : Operation}
    (plain : PlainHandlers world.sdl) (allowed : PlainStatuses settings world operation) :
    Isolates settings world operation := by
  intro policyTypeId otherType policyInstanceId otherInstance acted differ
  have apart : ¬ (otherType = policyTypeId ∧ otherInstance = policyInstanceId) := by
    rintro ⟨rfl, rfl⟩
    exact differ rfl
  have effect := step_effect settings world operation
  generalize step settings world operation = after at effect
  cases effect with
  | refused => exact statusesKept_of_reads rfl rfl rfl rfl
  | reported => exact absurd acted (by simp [subject])
  | checkIdle => exact absurd acted (by simp [subject])
  | expiryIdle => exact statusesKept_of_reads rfl rfl rfl rfl
  | typeStored => exact absurd acted (by simp [subject])
  | typeDeleted => exact absurd acted (by simp [subject])
  | timerLaid => exact absurd acted (by simp [subject])
  | timerEnded => exact absurd acted (by simp [subject])
  | stored _ _ body creationTimestamp typed =>
      simp only [subject, Option.some.injEq, Prod.mk.injEq] at acted
      rcases acted with ⟨rfl, rfl⟩
      apply statusesKept_of_reads
      · exact get_stored_type _ _ _ _ _ _
      · simp [apart]
      · simp [apart]
      · exact search_stored_other plain body creationTimestamp differ
  | deleted _ _ deletedTimestamp createdAt deletable =>
      simp only [subject, Option.some.injEq, Prod.mk.injEq] at acted
      rcases acted with ⟨rfl, rfl⟩
      apply statusesKept_of_reads
      · exact KeyValue.get_set_other _ _ (type_ne_metadata _ _ _)
      · exact KeyValue.get_set_other _ _ (instance_ne_metadata _ _ _ _)
      · exact KeyValue.get_set_other _ _ (fun equal => apart (metadata_key_injective equal))
      · exact KeyValue.findAndGet_set_other _ _ (metadata_key_not_handler _ _ _ _)
  | statusSet _ _ handlerId status valid =>
      simp only [subject, Option.some.injEq, Prod.mk.injEq] at acted
      rcases acted with ⟨rfl, rfl⟩
      rcases allowed _ _ handlerId status rfl (accepted_status.mpr valid) with
        ⟨plainInstance, plainHandler⟩
      apply statusesKept_of_reads
      · exact KeyValue.get_set_other _ _ (type_ne_handler _ _ _ _)
      · exact KeyValue.get_set_other _ _ (instance_ne_handler _ _ _ _ _)
      · exact KeyValue.get_set_other _ _ (metadata_ne_handler _ _ _ _ _)
      · exact search_status_other plainInstance plainHandler status differ
  | expired index timer found asleep =>
      simp only [subject, found, Option.map_some, Option.some.injEq, Prod.mk.injEq] at acted
      rcases acted with ⟨rfl, rfl⟩
      apply statusesKept_of_reads
      · exact get_expired_type _ _ _ _
      · simp [apart]
      · simp [apart]
      · exact search_expired_other plain differ

end Keeps

theorem mixed_status_shows {settings : Settings} {world : World} {policyTypeId : Nat}
    {policyInstanceId handlerId : String} {status : Json} (plain : PlainHandlers world.sdl)
    (taken : accepted settings world
      (.setPolicyInstanceStatus policyTypeId policyInstanceId handlerId status) = true)
    (mixed : ¬ (Plain policyInstanceId ∧ Plain handlerId)) :
    ¬ Isolates settings world
      (.request (.setPolicyInstanceStatus policyTypeId policyInstanceId handlerId status)) := by
  intro isolates
  have separator : '.' ∈ policyInstanceId.toList ∨ '.' ∈ handlerId.toList := by
    by_contra neither
    exact mixed ⟨fun member => neither (.inl member), fun member => neither (.inr member)⟩
  have met : ∃ other : String, other ≠ policyInstanceId ∧
      Text.startswith (generateHandlerKey policyTypeId policyInstanceId handlerId)
        (generateHandlerPrefix policyTypeId other) = true := handler_key_mixed separator
  rcases met with ⟨other, differ, starts⟩
  have kept := (isolates policyTypeId policyTypeId policyInstanceId other rfl
    (by simpa using differ)).statuses
  have absent : world.sdl.get (generateHandlerKey policyTypeId policyInstanceId handlerId) =
      none := by
    by_contra held
    rcases plain policyTypeId policyInstanceId _ (Option.isSome_iff_ne_none.mpr held)
      (handler_key_starts _ _ _) with ⟨same, equal, plainInstance, plainHandler⟩
    have handlers : handlerId = same := Text.append_left_cancel equal
    rw [← handlers] at plainHandler
    exact mixed ⟨plainInstance, plainHandler⟩
  have written : (step settings world
      (.request (.setPolicyInstanceStatus policyTypeId policyInstanceId handlerId status))).sdl =
        world.sdl.set (generateHandlerKey policyTypeId policyInstanceId handlerId) status := by
    rw [step, program, Program.pure_eq, Program.run_bind_done,
      setPolicyInstanceStatus_run handlerId status (accepted_status.mp taken)]
  rw [statusList, handlerSearch, written, KeyValue.findAndGet_set_fresh _ _ absent starts] at kept
  have longer := congrArg List.length kept
  simp [statusList, handlerSearch] at longer

def AnswersInEffect (world : World) (policyTypeId : Nat) (policyInstanceId : String) : Prop :=
  ∃ answer, (getPolicyInstanceStatus policyTypeId policyInstanceId).run service world =
      (.ok answer, world) ∧
    answer.getItem "instance_status" = .ok (.str "IN EFFECT")

/-- The aggregate over the last statuses that the registry keeps. -/
def Registry.InEffect (registry : Registry) (policyTypeId : Nat) (policyInstanceId : String) :
    Prop :=
  registry.Valid policyTypeId policyInstanceId ∧
    ∃ handlerId, registry.lastStatus policyTypeId policyInstanceId handlerId = some (.str "OK")

theorem statusReport_policy (policy : Policy) (statuses : List Json) :
    ∃ answer, statusReport (some policy.metadata) statuses = .ok answer ∧
      answer.getItem "instance_status" =
        .ok (.str (if statuses.any (fun status => status == .str "OK") then "IN EFFECT"
          else "NOT IN EFFECT")) := by
  rw [statusReport, Policy.metadata]
  cases policy.deletedAt <;> cases statuses.any (fun status => status == .str "OK") <;>
    exact ⟨_, rfl, rfl⟩

section Report

variable {world : World} {registry : Registry} {policyTypeId : Nat} {policyInstanceId : String}

theorem any_ok_iff (plain : PlainHandlers world.sdl) (holds : HoldsStatuses world.sdl registry) :
    (statusList world policyTypeId policyInstanceId).any (fun status => status == .str "OK") =
        true ↔
      ∃ handlerId, registry.lastStatus policyTypeId policyInstanceId handlerId =
        some (.str "OK") := by
  simp only [statusList, List.any_eq_true, List.mem_map, beq_iff_eq]
  constructor
  · intro found
    rcases found with ⟨status, ⟨⟨key, value⟩, member, rfl⟩, ok⟩
    rcases (KeyValue.mem_findAndGet _ _ _ _).mp member with ⟨held, starts⟩
    rcases plain policyTypeId policyInstanceId key (by simp [held]) starts with
      ⟨handlerId, rfl, _⟩
    exact ⟨handlerId, by rw [← holds, held]; exact congrArg some ok⟩
  · intro reported
    rcases reported with ⟨handlerId, last⟩
    rw [← holds] at last
    exact ⟨.str "OK", ⟨_, (KeyValue.mem_findAndGet _ _ _ _).mpr
      ⟨last, handler_key_starts _ _ _⟩, rfl⟩, rfl⟩

theorem answersInEffect_iff (represents : Represents world registry)
    (plain : PlainHandlers world.sdl) (holds : HoldsStatuses world.sdl registry) :
    AnswersInEffect world policyTypeId policyInstanceId ↔
      registry.InEffect policyTypeId policyInstanceId := by
  rw [Registry.InEffect, ← any_ok_iff plain holds, ← represents.valid_iff]
  by_cases valid : Valid world policyTypeId policyInstanceId
  · rcases Option.isSome_iff_exists.mp ((represents.valid_iff _ _).mp valid).2 with ⟨policy, held⟩
    have metadata := represents.metadata policyTypeId policyInstanceId
    rw [held, Option.map_some] at metadata
    have ran := getPolicyInstanceStatus_run valid
    rw [metadata] at ran
    rcases statusReport_policy policy (statusList world policyTypeId policyInstanceId) with
      ⟨answer, report, item⟩
    have answered : (getPolicyInstanceStatus policyTypeId policyInstanceId).run service world =
        (.ok answer, world) := ran.trans (congrArg (fun outcome => (outcome, world)) report)
    constructor
    · intro inEffect
      rcases inEffect with ⟨other, returned, marked⟩
      rw [answered] at returned
      injection returned with returned _
      injection returned with same
      rw [← same, item] at marked
      refine ⟨valid, ?_⟩
      by_contra none
      simp [none] at marked
    · intro both
      refine ⟨answer, answered, ?_⟩
      rw [item, both.2]
      rfl
  · rcases getPolicyInstanceStatus_raises valid with ⟨error, raised⟩
    constructor
    · intro inEffect
      rcases inEffect with ⟨answer, returned, _⟩
      rw [raised] at returned
      injection returned with returned _
      cases returned
    · intro both
      exact absurd both.1 valid

end Report

/-- What holds after every run that accepts plain statuses only. -/
theorem plain_run (settings : Settings) (operations : List Operation)
    (allowed : Runs.Along (step settings) (PlainStatuses settings) World.empty operations) :
    HoldsStatuses (Runs.run (step settings) World.empty operations).sdl
      (Runs.run Registry.step Registry.empty operations) := by
  induction operations using List.reverseRecOn with
  | nil =>
      intro policyTypeId policyInstanceId handlerId
      exact KeyValue.get_empty _
  | append_singleton operations operation ih =>
      rw [Runs.along_append] at allowed
      rw [Runs.run_concat, Runs.run_concat]
      exact holdsStatuses_step (represents_reachable settings operations)
        (plainHandlers_run settings operations allowed.1) (ih allowed.1) operation allowed.2.1

/-- Every step of a run keeps the statuses of the other pairs, and every state on the way answers
IN EFFECT just where the last status of some handler is "OK", exactly when no status is accepted
under an id that holds the separator. -/
theorem statuses_isolated_iff_plain_ids (settings : Settings) (operations : List Operation) :
    (Runs.Along (step settings) (Isolates settings) World.empty operations ∧
      ∀ before after, operations = before ++ after →
        ∀ (policyTypeId : Nat) (policyInstanceId : String),
          AnswersInEffect (Runs.run (step settings) World.empty before) policyTypeId
              policyInstanceId ↔
            (Runs.run Registry.step Registry.empty before).InEffect policyTypeId
              policyInstanceId) ↔
      Runs.Along (step settings) (PlainStatuses settings) World.empty operations := by
  constructor
  · intro claimed
    have plainStep : ∀ world operation, PlainHandlers world.sdl →
        Isolates settings world operation → PlainStatuses settings world operation := by
      intro world operation plain isolates policyTypeId policyInstanceId handlerId status same taken
      by_contra mixed
      subst same
      exact mixed_status_shows plain taken mixed isolates
    apply Runs.along_strengthen (fun world => PlainHandlers world.sdl)
    · intro world operation plain isolates
      exact plainHandlers_step plain (plainStep world operation plain isolates)
    · exact plainStep
    · exact plainHandlers_empty
    · exact claimed.1
  · intro allowed
    constructor
    · apply Runs.along_strengthen (fun world => PlainHandlers world.sdl)
      · intro world operation plain plainStep
        exact plainHandlers_step plain plainStep
      · intro world operation plain plainStep
        exact isolates_of_plain plain plainStep
      · exact plainHandlers_empty
      · exact allowed
    · intro before after split policyTypeId policyInstanceId
      rw [split, Runs.along_append] at allowed
      exact answersInEffect_iff (represents_reachable settings before)
        (plainHandlers_run settings before allowed.1) (plain_run settings before allowed.1)

/-- The status of `a.b` is found by the search for the handlers of `a`. -/
theorem dotted_instance_leaks_status :
    let operations : List Operation :=
      [.request (.storePolicyType 1 [("policy_type_id", .int 1)]),
        .request (.storePolicyInstance 1 "a" [] "0.0"),
        .request (.storePolicyInstance 1 "a.b" [] "0.0")]
    let reported : Operation := .request (.setPolicyInstanceStatus 1 "a.b" "h" (.str "OK"))
    ¬ Isolates {} (Runs.run (step {}) World.empty operations) reported ∧
      AnswersInEffect (Runs.run (step {}) World.empty (operations ++ [reported])) 1 "a" := by
  constructor
  · intro isolates
    have kept := (isolates 1 1 "a.b" "a" rfl (by decide)).statuses
    exact absurd kept (by decide +kernel)
  · exact ⟨_, rfl, by decide +kernel⟩

end NearRtRic.A1
