import NearRtRic.A1.StepEffect

/-! The handler entries of an instance, and when no other instance's operation meets them. -/

namespace NearRtRic.A1

/-- The id does not hold the separator of the keys. -/
def Plain (id : String) : Prop := '.' ∉ id.toList

instance (id : String) : Decidable (Plain id) := inferInstanceAs (Decidable (¬ _))

def handlerSearch (sdl : KeyValue Json) (policyTypeId : Nat) (policyInstanceId : String) :
    List (String × Json) :=
  sdl.findAndGet (generateHandlerPrefix policyTypeId policyInstanceId)

/-- Whatever a handler search can meet was written for that instance, under plain ids. -/
def PlainHandlers (sdl : KeyValue Json) : Prop :=
  ∀ (policyTypeId : Nat) (policyInstanceId key : String), (sdl.get key).isSome →
    Text.startswith key (generateHandlerPrefix policyTypeId policyInstanceId) = true →
      ∃ handlerId : String, key = generateHandlerKey policyTypeId policyInstanceId handlerId ∧
        Plain policyInstanceId ∧ Plain handlerId

/-- A status is only accepted under ids without the separator. -/
def PlainStatuses (settings : Settings) (world : World) (operation : Operation) : Prop :=
  ∀ (policyTypeId : Nat) (policyInstanceId handlerId : String) (status : Json),
    operation = .request (.setPolicyInstanceStatus policyTypeId policyInstanceId handlerId status) →
    accepted settings world
      (.setPolicyInstanceStatus policyTypeId policyInstanceId handlerId status) = true →
        Plain policyInstanceId ∧ Plain handlerId

theorem plainHandlers_empty : PlainHandlers (∅ : KeyValue Json) := by
  intro policyTypeId policyInstanceId key held
  rw [KeyValue.get_empty] at held
  exact absurd held (by simp)

theorem PlainHandlers.mono {before after : KeyValue Json} (plain : PlainHandlers before)
    (kept : ∀ (policyTypeId : Nat) (policyInstanceId key : String),
      Text.startswith key (generateHandlerPrefix policyTypeId policyInstanceId) = true →
        (after.get key).isSome → (before.get key).isSome) : PlainHandlers after := by
  intro policyTypeId policyInstanceId key held starts
  exact plain policyTypeId policyInstanceId key
    (kept policyTypeId policyInstanceId key starts held) starts

section Writes

variable {sdl : KeyValue Json} {policyTypeId otherType : Nat}
variable {policyInstanceId otherInstance : String}

theorem plainHandlers_set_other {key : String} (plain : PlainHandlers sdl) (value : Json)
    (outside : ∀ (policyTypeId : Nat) (policyInstanceId : String),
      Text.startswith key (generateHandlerPrefix policyTypeId policyInstanceId) = false) :
    PlainHandlers (sdl.set key value) := by
  apply plain.mono
  intro searchedType searchedInstance found starts held
  have differ : found ≠ key :=
    Text.ne_of_startswith starts (outside searchedType searchedInstance)
  rw [KeyValue.get_set_other _ _ differ] at held
  exact held

theorem plainHandlers_set_handler {handlerId : String} (plain : PlainHandlers sdl)
    (plainInstance : Plain policyInstanceId) (plainHandler : Plain handlerId) (status : Json) :
    PlainHandlers
      (sdl.set (generateHandlerKey policyTypeId policyInstanceId handlerId) status) := by
  intro searchedType searchedInstance found held starts
  rw [KeyValue.get_set] at held
  by_cases written : found = generateHandlerKey policyTypeId policyInstanceId handlerId
  · subst written
    rcases handler_key_plain plainInstance plainHandler starts with ⟨rfl, rfl⟩
    exact ⟨handlerId, rfl, plainInstance, plainHandler⟩
  · rw [if_neg written] at held
    exact plain searchedType searchedInstance found held starts

theorem plainHandlers_delete (plain : PlainHandlers sdl) (key : String) :
    PlainHandlers (sdl.delete key) := by
  apply plain.mono
  intro searchedType searchedInstance found _ held
  rw [KeyValue.get_delete] at held
  by_cases removed : found = key
  · simp [removed] at held
  · rwa [if_neg removed] at held

theorem plainHandlers_cleared (plain : PlainHandlers sdl) :
    PlainHandlers (clearedSdl sdl policyTypeId policyInstanceId) := by
  apply plain.mono
  intro searchedType searchedInstance found _ held
  rw [get_clearedSdl] at held
  by_cases removed : Text.startswith found
      (generateHandlerPrefix policyTypeId policyInstanceId) = true
  · simp [removed] at held
  · rwa [if_neg removed] at held

theorem plainHandlers_expired (plain : PlainHandlers sdl) :
    PlainHandlers (expiredSdl sdl policyTypeId policyInstanceId) :=
  plainHandlers_delete (plainHandlers_delete (plainHandlers_cleared plain) _) _

theorem plainHandlers_stored (plain : PlainHandlers sdl) (body : Body)
    (creationTimestamp : String) :
    PlainHandlers (storedSdl sdl policyTypeId policyInstanceId body creationTimestamp) := by
  have cleared : PlainHandlers
      (if (sdl.get (generateInstanceKey policyTypeId policyInstanceId)).isSome then
        clearedSdl sdl policyTypeId policyInstanceId else sdl) := by
    split
    · exact plainHandlers_cleared plain
    · exact plain
  rw [storedSdl]
  apply plainHandlers_set_other _ _ (fun _ _ => metadata_key_not_handler _ _ _ _)
  exact plainHandlers_set_other cleared _ (fun _ _ => instance_key_not_handler _ _ _ _)

theorem PlainHandlers.apart (plain : PlainHandlers sdl)
    (differ : (otherType, otherInstance) ≠ (policyTypeId, policyInstanceId)) {key : String}
    (held : (sdl.get key).isSome)
    (starts : Text.startswith key (generateHandlerPrefix policyTypeId policyInstanceId) = true) :
    Text.startswith key (generateHandlerPrefix otherType otherInstance) = false := by
  rw [Bool.eq_false_iff]
  intro startsOther
  rcases plain policyTypeId policyInstanceId key held starts with
    ⟨handlerId, rfl, plainInstance, plainHandler⟩
  rcases handler_key_plain plainInstance plainHandler startsOther with ⟨rfl, rfl⟩
  exact differ rfl

theorem search_cleared_other (plain : PlainHandlers sdl)
    (differ : (otherType, otherInstance) ≠ (policyTypeId, policyInstanceId)) :
    handlerSearch (clearedSdl sdl policyTypeId policyInstanceId) otherType otherInstance =
      handlerSearch sdl otherType otherInstance := by
  apply KeyValue.findAndGet_deleteAll_other
  intro key member
  rcases (KeyValue.mem_findAndGet_keys _ _ _).mp member with ⟨held, starts⟩
  exact plain.apart differ held starts

theorem search_expired_other (plain : PlainHandlers sdl)
    (differ : (otherType, otherInstance) ≠ (policyTypeId, policyInstanceId)) :
    handlerSearch (expiredSdl sdl policyTypeId policyInstanceId) otherType otherInstance =
      handlerSearch sdl otherType otherInstance := by
  calc
    handlerSearch (expiredSdl sdl policyTypeId policyInstanceId) otherType otherInstance
        = handlerSearch ((clearedSdl sdl policyTypeId policyInstanceId).delete
            (generateInstanceKey policyTypeId policyInstanceId)) otherType otherInstance :=
          KeyValue.findAndGet_delete_other _ (metadata_key_not_handler _ _ _ _)
    _ = handlerSearch (clearedSdl sdl policyTypeId policyInstanceId) otherType otherInstance :=
          KeyValue.findAndGet_delete_other _ (instance_key_not_handler _ _ _ _)
    _ = handlerSearch sdl otherType otherInstance := search_cleared_other plain differ

theorem search_stored_other (plain : PlainHandlers sdl) (body : Body) (creationTimestamp : String)
    (differ : (otherType, otherInstance) ≠ (policyTypeId, policyInstanceId)) :
    handlerSearch (storedSdl sdl policyTypeId policyInstanceId body creationTimestamp) otherType
        otherInstance =
      handlerSearch sdl otherType otherInstance := by
  rw [storedSdl, handlerSearch,
    KeyValue.findAndGet_set_other _ _ (metadata_key_not_handler _ _ _ _),
    KeyValue.findAndGet_set_other _ _ (instance_key_not_handler _ _ _ _)]
  split
  · exact search_cleared_other plain differ
  · rfl

theorem search_status_other {handlerId : String} (plainInstance : Plain policyInstanceId)
    (plainHandler : Plain handlerId) (status : Json)
    (differ : (otherType, otherInstance) ≠ (policyTypeId, policyInstanceId)) :
    handlerSearch (sdl.set (generateHandlerKey policyTypeId policyInstanceId handlerId) status)
        otherType otherInstance =
      handlerSearch sdl otherType otherInstance := by
  apply KeyValue.findAndGet_set_other
  rw [Bool.eq_false_iff]
  intro starts
  rcases handler_key_plain plainInstance plainHandler starts with ⟨rfl, rfl⟩
  exact differ rfl

end Writes

/-- The invariant of every run that only accepts plain statuses. -/
theorem plainHandlers_step {settings : Settings} {world : World} {operation : Operation}
    (plain : PlainHandlers world.sdl) (allowed : PlainStatuses settings world operation) :
    PlainHandlers (step settings world operation).sdl := by
  have effect := step_effect settings world operation
  generalize step settings world operation = after at effect
  cases effect with
  | refused request raised => exact plain
  | reported policyTypeId policyInstanceId => exact plain
  | typeStored policyTypeId body untyped =>
      exact plainHandlers_set_other plain _ (fun _ _ => type_key_not_handler _ _ _)
  | typeDeleted policyTypeId empty => exact plainHandlers_delete plain _
  | stored policyTypeId policyInstanceId body creationTimestamp typed =>
      exact plainHandlers_stored plain body creationTimestamp
  | deleted policyTypeId policyInstanceId deletedTimestamp createdAt deletable =>
      exact plainHandlers_set_other plain _ (fun _ _ => metadata_key_not_handler _ _ _ _)
  | statusSet policyTypeId policyInstanceId handlerId status valid =>
      rcases allowed policyTypeId policyInstanceId handlerId status rfl
        (accepted_status.mpr valid) with ⟨plainInstance, plainHandler⟩
      exact plainHandlers_set_handler plain plainInstance plainHandler status
  | checkIdle index idle => exact plain
  | timerLaid index timer found awake valid => exact plain
  | timerEnded index timer found awake invalid => exact plain
  | expiryIdle index idle => exact plain
  | expired index timer found asleep => exact plainHandlers_expired plain

theorem plainHandlers_run (settings : Settings) (operations : List Operation)
    (allowed : Runs.Along (step settings) (PlainStatuses settings) World.empty operations) :
    PlainHandlers (Runs.run (step settings) World.empty operations).sdl :=
  Runs.run_invariant (fun world => PlainHandlers world.sdl)
    (fun _ _ plain plainStep => plainHandlers_step plain plainStep) World.empty operations
    plainHandlers_empty allowed

end NearRtRic.A1
