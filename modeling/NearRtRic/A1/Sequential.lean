import NearRtRic.A1.Data

/-! Each function run to its end without interruption, and A1 as a machine of such steps. -/

namespace NearRtRic.A1

inductive Request where
  | storePolicyType (policyTypeId : Nat) (body : Body)
  | deletePolicyType (policyTypeId : Nat)
  | storePolicyInstance (policyTypeId : Nat) (policyInstanceId : String) (body : Body)
      (creationTimestamp : String)
  | deletePolicyInstance (policyTypeId : Nat) (policyInstanceId : String)
      (deletedTimestamp : String)
  | setPolicyInstanceStatus (policyTypeId : Nat) (policyInstanceId handlerId : String)
      (status : Json)
  | getPolicyInstanceStatus (policyTypeId : Nat) (policyInstanceId : String)
  deriving DecidableEq

/-- Python's `None` is the answer of a function that returns nothing. -/
def program (settings : Settings) : Request → A1M Json
  | .storePolicyType policyTypeId body => do
      storePolicyType policyTypeId body
      pure .null
  | .deletePolicyType policyTypeId => do
      deletePolicyType policyTypeId
      pure .null
  | .storePolicyInstance policyTypeId policyInstanceId body creationTimestamp => do
      let operation ← storePolicyInstance policyTypeId policyInstanceId body creationTimestamp
      pure (.str operation)
  | .deletePolicyInstance policyTypeId policyInstanceId deletedTimestamp => do
      deletePolicyInstance settings policyTypeId policyInstanceId deletedTimestamp
      pure .null
  | .setPolicyInstanceStatus policyTypeId policyInstanceId handlerId status => do
      setPolicyInstanceStatus policyTypeId policyInstanceId handlerId status
      pure .null
  | .getPolicyInstanceStatus policyTypeId policyInstanceId =>
      getPolicyInstanceStatus policyTypeId policyInstanceId

/-- A timer thread takes two steps: its check of the instance, up to `time.sleep`, and the
deletion when the delay is over. -/
inductive Operation where
  | request (request : Request)
  | timerCheck (index : Nat)
  | timerExpiry (index : Nat)
  deriving DecidableEq

def accepted (settings : Settings) (world : World) (request : Request) : Bool :=
  match ((program settings request).run service world).1 with
  | .ok _ => true
  | .error _ => false

def step (settings : Settings) (world : World) : Operation → World
  | .request request => ((program settings request).run service world).2
  | .timerCheck index =>
      match world.timers[index]? with
      | some timer =>
          if timer.asleep then
            world
          else
            match (instanceIsValid timer.policyTypeId timer.policyInstanceId).run service world with
            | (.ok _, after) =>
                { after with timers := after.timers.set index { timer with asleep := true } }
            | (.error _, after) => { after with timers := after.timers.eraseIdx index }
      | none => world
  | .timerExpiry index =>
      match world.timers[index]? with
      | some timer =>
          if timer.asleep then
            let after :=
              ((deleteExpired timer.policyTypeId timer.policyInstanceId).run service world).2
            { after with timers := after.timers.eraseIdx index }
          else
            world
      | none => world

/-! The store after each function, and when it raises. -/

/-- The store without the entries that a handler search of the instance finds. -/
def clearedSdl (sdl : KeyValue Json) (policyTypeId : Nat) (policyInstanceId : String) :
    KeyValue Json :=
  sdl.deleteAll ((sdl.findAndGet (generateHandlerPrefix policyTypeId policyInstanceId)).map
    Prod.fst)

def expiredSdl (sdl : KeyValue Json) (policyTypeId : Nat) (policyInstanceId : String) :
    KeyValue Json :=
  ((clearedSdl sdl policyTypeId policyInstanceId).delete
    (generateInstanceKey policyTypeId policyInstanceId)).delete
      (generateInstanceMetadataKey policyTypeId policyInstanceId)

def storedSdl (sdl : KeyValue Json) (policyTypeId : Nat) (policyInstanceId : String)
    (body : Body) (creationTimestamp : String) : KeyValue Json :=
  ((if (sdl.get (generateInstanceKey policyTypeId policyInstanceId)).isSome then
      clearedSdl sdl policyTypeId policyInstanceId
    else
      sdl).set (generateInstanceKey policyTypeId policyInstanceId) (.obj body)).set
        (generateInstanceMetadataKey policyTypeId policyInstanceId)
        (storedMetadata creationTimestamp)

variable {world : World} {policyTypeId : Nat} {policyInstanceId : String}

theorem get_clearedSdl (sdl : KeyValue Json) (key : String) :
    (clearedSdl sdl policyTypeId policyInstanceId).get key =
      if Text.startswith key (generateHandlerPrefix policyTypeId policyInstanceId) then none
      else sdl.get key := by
  rw [clearedSdl, KeyValue.get_deleteAll]
  simp only [KeyValue.mem_findAndGet_keys]
  by_cases starts : Text.startswith key (generateHandlerPrefix policyTypeId policyInstanceId) = true
  · cases held : sdl.get key <;> simp [starts]
  · simp [starts]

theorem typeIsValid_run {typeBody : Json}
    (typed : world.sdl.get (generateTypeKey policyTypeId) = some typeBody) :
    (typeIsValid policyTypeId).run service world = (.ok (), world) := by
  simp [typeIsValid, sdlGet, typed]

theorem typeIsValid_raises (untyped : world.sdl.get (generateTypeKey policyTypeId) = none) :
    (typeIsValid policyTypeId).run service world =
      (.error (.policyTypeNotFound (toString policyTypeId)), world) := by
  simp [typeIsValid, sdlGet, untyped, raise]

/-- `_instance_is_valid` passes exactly where both keys are held. -/
def Valid (world : World) (policyTypeId : Nat) (policyInstanceId : String) : Prop :=
  (world.sdl.get (generateTypeKey policyTypeId)).isSome ∧
    (world.sdl.get (generateInstanceKey policyTypeId policyInstanceId)).isSome

theorem instanceIsValid_run (valid : Valid world policyTypeId policyInstanceId) :
    (instanceIsValid policyTypeId policyInstanceId).run service world = (.ok (), world) := by
  rcases valid with ⟨typed, held⟩
  rcases Option.isSome_iff_exists.mp typed with ⟨typeBody, typed⟩
  rcases Option.isSome_iff_exists.mp held with ⟨body, held⟩
  rw [instanceIsValid, Program.run_bind_ok service _ (typeIsValid_run typed)]
  simp [sdlGet, held]

theorem instanceIsValid_raises (invalid : ¬ Valid world policyTypeId policyInstanceId) :
    ∃ error, (instanceIsValid policyTypeId policyInstanceId).run service world =
      (.error error, world) := by
  cases typed : world.sdl.get (generateTypeKey policyTypeId) with
  | none => exact ⟨_, by rw [instanceIsValid, Program.run_bind, typeIsValid_raises typed]⟩
  | some typeBody =>
      refine ⟨.policyInstanceNotFound (toString policyTypeId), ?_⟩
      rw [instanceIsValid, Program.run_bind_ok service _ (typeIsValid_run typed)]
      have missing : world.sdl.get (generateInstanceKey policyTypeId policyInstanceId) = none := by
        by_contra held
        exact invalid ⟨by simp [typed], Option.isSome_iff_ne_none.mpr held⟩
      simp [sdlGet, missing, raise]

theorem getStatuses_run (valid : Valid world policyTypeId policyInstanceId) :
    (getStatuses policyTypeId policyInstanceId).run service world =
      (.ok ((world.sdl.findAndGet (generateHandlerPrefix policyTypeId policyInstanceId)).map
        Prod.snd), world) := by
  rw [getStatuses, Program.run_bind_ok service _ (instanceIsValid_run valid)]
  rfl

theorem getMetadata_run (valid : Valid world policyTypeId policyInstanceId) :
    (getMetadata policyTypeId policyInstanceId).run service world =
      (.ok (world.sdl.get (generateInstanceMetadataKey policyTypeId policyInstanceId)), world) := by
  rw [getMetadata, Program.run_bind_ok service _ (instanceIsValid_run valid)]
  rfl

theorem sdlDelete_loop (keys : List String) :
    (Program.forEach keys sdlDelete).run service world =
      (.ok (), { world with sdl := world.sdl.deleteAll keys }) := by
  induction keys generalizing world with
  | nil => rfl
  | cons key keys ih => exact ih

theorem clearHandlers_run :
    (clearHandlers policyTypeId policyInstanceId).run service world =
      (.ok (), { world with sdl := clearedSdl world.sdl policyTypeId policyInstanceId }) :=
  sdlDelete_loop _

theorem deleteExpired_run :
    (deleteExpired policyTypeId policyInstanceId).run service world =
      (.ok (), { world with sdl := expiredSdl world.sdl policyTypeId policyInstanceId }) := by
  rw [deleteExpired, Program.run_bind_ok service _ clearHandlers_run]
  rfl

theorem storePolicyInstance_run {typeBody : Json} (body : Body) (creationTimestamp : String)
    (typed : world.sdl.get (generateTypeKey policyTypeId) = some typeBody) :
    (storePolicyInstance policyTypeId policyInstanceId body creationTimestamp).run service world =
      (.ok (if (world.sdl.get (generateInstanceKey policyTypeId policyInstanceId)).isSome then
          "UPDATE" else "CREATE"),
        { world with
          sdl := storedSdl world.sdl policyTypeId policyInstanceId body creationTimestamp }) := by
  rw [storePolicyInstance, Program.run_bind_ok service _ (typeIsValid_run typed)]
  cases held : world.sdl.get (generateInstanceKey policyTypeId policyInstanceId) with
  | none => simp [sdlGet, held, storeInstance, sdlSet, storedSdl]
  | some old =>
      simp only [sdlGet, Program.call_bind, Program.run_call, Program.done_bind,
        service_answer_get, held, service_effect_get]
      rw [Program.run_bind_ok service _ clearHandlers_run]
      simp [storeInstance, sdlSet, storedSdl, held]

theorem storePolicyInstance_raises (body : Body) (creationTimestamp : String)
    (untyped : world.sdl.get (generateTypeKey policyTypeId) = none) :
    (storePolicyInstance policyTypeId policyInstanceId body creationTimestamp).run service world =
      (.error (.policyTypeNotFound (toString policyTypeId)), world) := by
  rw [storePolicyInstance, Program.run_bind, typeIsValid_raises untyped]

theorem setPolicyInstanceStatus_run (handlerId : String) (status : Json)
    (valid : Valid world policyTypeId policyInstanceId) :
    (setPolicyInstanceStatus policyTypeId policyInstanceId handlerId status).run service world =
      (.ok (), { world with
        sdl := world.sdl.set (generateHandlerKey policyTypeId policyInstanceId handlerId)
          status }) := by
  rcases Option.isSome_iff_exists.mp valid.1 with ⟨typeBody, typed⟩
  rw [setPolicyInstanceStatus, Program.run_bind_ok service _ (typeIsValid_run typed),
    Program.run_bind_ok service _ (instanceIsValid_run valid)]
  rfl

theorem setPolicyInstanceStatus_raises (handlerId : String) (status : Json)
    (invalid : ¬ Valid world policyTypeId policyInstanceId) :
    ∃ error, (setPolicyInstanceStatus policyTypeId policyInstanceId handlerId status).run
      service world = (.error error, world) := by
  cases typed : world.sdl.get (generateTypeKey policyTypeId) with
  | none => exact ⟨_, by rw [setPolicyInstanceStatus, Program.run_bind, typeIsValid_raises typed]⟩
  | some typeBody =>
      rcases instanceIsValid_raises invalid with ⟨error, raised⟩
      refine ⟨error, ?_⟩
      rw [setPolicyInstanceStatus, Program.run_bind_ok service _ (typeIsValid_run typed),
        Program.run_bind_error service _ raised]

theorem deletePolicyInstance_run (settings : Settings) (deletedTimestamp : String)
    {metadata createdAt : Json} (valid : Valid world policyTypeId policyInstanceId)
    (held : world.sdl.get (generateInstanceMetadataKey policyTypeId policyInstanceId) =
      some metadata)
    (created : metadata.getItem "created_at" = .ok createdAt) :
    (deletePolicyInstance settings policyTypeId policyInstanceId deletedTimestamp).run
        service world =
      (.ok (), { world with
        sdl := world.sdl.set (generateInstanceMetadataKey policyTypeId policyInstanceId)
          (deletedMetadata createdAt deletedTimestamp)
        timers := world.timers ++ [⟨policyTypeId, policyInstanceId,
          deletionTtl settings ((world.sdl.findAndGet
            (generateHandlerPrefix policyTypeId policyInstanceId)).map Prod.snd), false⟩] }) := by
  rw [deletePolicyInstance, Program.run_bind_ok service _ (instanceIsValid_run valid),
    Program.run_bind_ok service _ (getMetadata_run valid), held]
  simp only [Option.getD_some, created, ofItem, Program.done_bind, sdlSet, Program.call_bind,
    Program.run_call, service_effect_set]
  -- the metadata write leaves both validity keys and the handler entries alone
  have stillValid : Valid
      { world with
        sdl := world.sdl.set (generateInstanceMetadataKey policyTypeId policyInstanceId)
          (deletedMetadata createdAt deletedTimestamp) } policyTypeId policyInstanceId := by
    constructor
    · rw [KeyValue.get_set_other _ _ (type_ne_metadata _ _ _)]
      exact valid.1
    · rw [KeyValue.get_set_other _ _ (instance_ne_metadata _ _ _ _)]
      exact valid.2
  rw [Program.run_bind_ok service _ (getStatuses_run stillValid)]
  rw [KeyValue.findAndGet_set_other _ _ (metadata_key_not_handler _ _ _ _)]
  rfl

theorem deletePolicyInstance_raises (settings : Settings) (deletedTimestamp : String)
    (invalid : ¬ Valid world policyTypeId policyInstanceId) :
    ∃ error, (deletePolicyInstance settings policyTypeId policyInstanceId deletedTimestamp).run
      service world = (.error error, world) := by
  rcases instanceIsValid_raises invalid with ⟨error, raised⟩
  exact ⟨error, by rw [deletePolicyInstance, Program.run_bind_error service _ raised]⟩

/-- `existing_metadata["created_at"]` on metadata that is absent or of another shape. -/
theorem deletePolicyInstance_subscript (settings : Settings) (deletedTimestamp : String)
    {error : Json.ItemError} (valid : Valid world policyTypeId policyInstanceId)
    (missing : ((world.sdl.get
      (generateInstanceMetadataKey policyTypeId policyInstanceId)).getD .null).getItem
        "created_at" = .error error) :
    (deletePolicyInstance settings policyTypeId policyInstanceId deletedTimestamp).run
      service world = (.error (.item error), world) := by
  rw [deletePolicyInstance, Program.run_bind_ok service _ (instanceIsValid_run valid),
    Program.run_bind_ok service _ (getMetadata_run valid)]
  simp only [missing, ofItem, Program.raise_bind, Program.run_raise]

/-- What `get_policy_instance_status` makes of the metadata and the statuses. -/
def statusReport (metadata : Option Json) (statuses : List Json) : Except A1Error Json :=
  match (metadata.getD .null).setItem "instance_status" (.str "NOT IN EFFECT") with
  | .error error => .error (.item error)
  | .ok notInEffect =>
      if statuses.any (fun status => status == .str "OK") then
        (notInEffect.setItem "instance_status" (.str "IN EFFECT")).mapError .item
      else
        .ok notInEffect

theorem getPolicyInstanceStatus_run (valid : Valid world policyTypeId policyInstanceId) :
    (getPolicyInstanceStatus policyTypeId policyInstanceId).run service world =
      (statusReport (world.sdl.get (generateInstanceMetadataKey policyTypeId policyInstanceId))
        ((world.sdl.findAndGet (generateHandlerPrefix policyTypeId policyInstanceId)).map
          Prod.snd), world) := by
  rw [getPolicyInstanceStatus, Program.run_bind_ok service _ (instanceIsValid_run valid),
    Program.run_bind_ok service _ (getMetadata_run valid), statusReport]
  split
  · next marked => simp only [marked, ofItem, Program.raise_bind, Program.run_raise]
  · next notInEffect marked =>
      simp only [marked, ofItem, Program.done_bind]
      rw [Program.run_bind_ok service _ (getStatuses_run valid)]
      split
      · cases notInEffect.setItem "instance_status" (.str "IN EFFECT") <;> rfl
      · rfl

theorem getPolicyInstanceStatus_raises (invalid : ¬ Valid world policyTypeId policyInstanceId) :
    ∃ error, (getPolicyInstanceStatus policyTypeId policyInstanceId).run service world =
      (.error error, world) := by
  rcases instanceIsValid_raises invalid with ⟨error, raised⟩
  exact ⟨error, by rw [getPolicyInstanceStatus, Program.run_bind_error service _ raised]⟩

theorem getInstanceList_run {typeBody : Json}
    (typed : world.sdl.get (generateTypeKey policyTypeId) = some typeBody) :
    (getInstanceList policyTypeId).run service world =
      (.ok ((world.sdl.findAndGet (prefixesForType policyTypeId)).map
        (fun entry => instanceIdOfKey (prefixesForType policyTypeId) entry.1)), world) := by
  rw [getInstanceList, Program.run_bind_ok service _ (typeIsValid_run typed)]
  rfl

theorem getInstanceList_raises (untyped : world.sdl.get (generateTypeKey policyTypeId) = none) :
    (getInstanceList policyTypeId).run service world =
      (.error (.policyTypeNotFound (toString policyTypeId)), world) := by
  rw [getInstanceList, Program.run_bind, typeIsValid_raises untyped]

/-- No instance key of the type is held. -/
def Empty (sdl : KeyValue Json) (policyTypeId : Nat) : Prop :=
  ∀ policyInstanceId : String, sdl.get (generateInstanceKey policyTypeId policyInstanceId) = none

theorem empty_iff_findAndGet (sdl : KeyValue Json) :
    Empty sdl policyTypeId ↔ sdl.findAndGet (prefixesForType policyTypeId) = [] := by
  rw [KeyValue.findAndGet_eq_nil]
  constructor
  · intro empty key starts
    rcases (startswith_prefixesForType _ _).mp starts with ⟨policyInstanceId, rfl⟩
    exact empty policyInstanceId
  · intro absent policyInstanceId
    exact absent _ ((startswith_prefixesForType _ _).mpr ⟨_, rfl⟩)

theorem deletePolicyType_run {typeBody : Json}
    (typed : world.sdl.get (generateTypeKey policyTypeId) = some typeBody)
    (empty : Empty world.sdl policyTypeId) :
    (deletePolicyType policyTypeId).run service world =
      (.ok (), { world with sdl := world.sdl.delete (generateTypeKey policyTypeId) }) := by
  rw [deletePolicyType, Program.run_bind_ok service _ (getInstanceList_run typed),
    (empty_iff_findAndGet _).mp empty]
  rfl

theorem deletePolicyType_refuses {typeBody : Json}
    (typed : world.sdl.get (generateTypeKey policyTypeId) = some typeBody)
    (inhabited : ¬ Empty world.sdl policyTypeId) :
    (deletePolicyType policyTypeId).run service world =
      (.error (.cantDeleteNonEmptyType (toString policyTypeId)), world) := by
  rw [deletePolicyType, Program.run_bind_ok service _ (getInstanceList_run typed)]
  have listed : (world.sdl.findAndGet (prefixesForType policyTypeId)).map
      (fun entry => instanceIdOfKey (prefixesForType policyTypeId) entry.1) ≠ [] := by
    intro nothing
    apply inhabited
    rw [empty_iff_findAndGet]
    exact List.map_eq_nil_iff.mp nothing
  rw [if_neg listed]
  rfl

theorem deletePolicyType_raises (untyped : world.sdl.get (generateTypeKey policyTypeId) = none) :
    (deletePolicyType policyTypeId).run service world =
      (.error (.policyTypeNotFound (toString policyTypeId)), world) := by
  rw [deletePolicyType, Program.run_bind, getInstanceList_raises untyped]

/-- `body['policy_type_id']` is the id of the path. -/
def idMatches (policyTypeId : Nat) (body : Body) : Bool :=
  match (Json.obj body).getItem "policy_type_id" with
  | .ok bodyId => eqInt bodyId policyTypeId
  | .error _ => false

theorem storePolicyType_run {body : Body} (same : idMatches policyTypeId body = true)
    (untyped : world.sdl.get (generateTypeKey policyTypeId) = none) :
    (storePolicyType policyTypeId body).run service world =
      (.ok (), { world with
        sdl := world.sdl.set (generateTypeKey policyTypeId) (.obj body) }) := by
  rw [storePolicyType]
  rw [idMatches] at same
  cases found : (Json.obj body).getItem "policy_type_id" with
  | error error => simp [found] at same
  | ok bodyId =>
      simp only [found] at same
      simp [ofItem, same, sdlGet, sdlSet, untyped]

theorem storePolicyType_raises {body : Body}
    (refused : idMatches policyTypeId body = false ∨
      (world.sdl.get (generateTypeKey policyTypeId)).isSome) :
    ∃ error, (storePolicyType policyTypeId body).run service world = (.error error, world) := by
  rw [storePolicyType, idMatches] at *
  cases found : (Json.obj body).getItem "policy_type_id" with
  | error error => exact ⟨.item error, rfl⟩
  | ok bodyId =>
      simp only [found] at refused
      by_cases same : eqInt bodyId policyTypeId = true
      · rcases Option.isSome_iff_exists.mp
          (refused.resolve_left (by simp [same])) with ⟨typeBody, typed⟩
        refine ⟨.policyTypeAlreadyExists (toString policyTypeId), ?_⟩
        simp [ofItem, same, sdlGet, typed, raise]
      · refine ⟨.policyTypeIdMismatch (toString policyTypeId) bodyId, ?_⟩
        simp [ofItem, same, raise]

end NearRtRic.A1
