import NearRtRic.A1.Sequential
import NearRtRic.Library.Failure

/-! The PUT and DELETE handlers of `controller.py`, with an SDL call that fails. -/

namespace NearRtRic.A1

/-- The text of an HTTP response: given, or the `repr` of an exception. -/
inductive ResponseBody where
  | text (body : String)
  | repr (exception : A1Error)
  deriving DecidableEq

structure HttpResponse where
  body : ResponseBody
  code : Nat
  deriving DecidableEq

def logBuildHttpResp (exception : A1Error) (httpRespCode : Nat) : HttpResponse :=
  ⟨.repr exception, httpRespCode⟩

/-- The except clauses of `_try_func_return`; an exception that none of them names blows up. -/
def exceptCode : A1Error → Option Nat
  | .validationError | .policyTypeAlreadyExists _ | .policyTypeIdMismatch _ _
  | .cantDeleteNonEmptyType _ => some 400
  | .policyTypeNotFound _ | .policyInstanceNotFound _ => some 404
  | .sdl _ => some 503
  | .item _ | .schemaError => none

def tryFuncReturn : Except A1Error HttpResponse → Except A1Error HttpResponse
  | .ok response => .ok response
  | .error exception =>
      match exceptCode exception with
      | some code => .ok (logBuildHttpResp exception code)
      | none => .error exception

/-- What `jsonschema.validate` does. -/
inductive Verdict where
  | valid
  | invalid
  | badSchema
  deriving DecidableEq, Repr

def ofVerdict : Verdict → A1M Unit
  | .valid => .done ()
  | .invalid => .raise .validationError
  | .badSchema => .raise .schemaError

inductive PolicyWrite where
  | createOrReplace (policyTypeId : Nat) (policyInstanceId : String) (body : Body)
      (creationTimestamp : String)
  | delete (policyTypeId : Nat) (policyInstanceId : String) (deletedTimestamp : String)
  deriving DecidableEq

section

variable (settings : Settings) (validate : Json → Json → Verdict)

def putInstanceHandler (policyTypeId : Nat) (policyInstanceId : String) (body : Body)
    (creationTimestamp : String) : A1M HttpResponse := do
  let policyType ← getPolicyType policyTypeId
  let schema ← ofItem ((policyType.getD .null).getItem "create_schema")
  ofVerdict (validate (.obj body) schema)
  let operation ← storePolicyInstance policyTypeId policyInstanceId body creationTimestamp
  queueInstanceSend ⟨operation, policyTypeId, policyInstanceId, .obj body⟩
  pure ⟨.text "", 202⟩

def deleteInstanceHandler (policyTypeId : Nat) (policyInstanceId : String)
    (deletedTimestamp : String) : A1M HttpResponse := do
  deletePolicyInstance settings policyTypeId policyInstanceId deletedTimestamp
  queueInstanceSend ⟨"DELETE", policyTypeId, policyInstanceId, .str ""⟩
  pure ⟨.text "", 202⟩

def PolicyWrite.handler : PolicyWrite → A1M HttpResponse
  | .createOrReplace policyTypeId policyInstanceId body creationTimestamp =>
      putInstanceHandler validate policyTypeId policyInstanceId body creationTimestamp
  | .delete policyTypeId policyInstanceId deletedTimestamp =>
      deleteInstanceHandler settings policyTypeId policyInstanceId deletedTimestamp

/-- The request, where the SDL call number `countdown` raises. -/
def answerFailing (request : PolicyWrite) (error : SdlError) (countdown : Nat) (world : World) :
    Except A1Error HttpResponse × World :=
  let ended :=
    (request.handler settings validate).runFailing service Call.isSdl (.sdl error) countdown world
  (tryFuncReturn ended.1, ended.2)

end

/-- The reads that an accepted request makes before its first write. -/
def PolicyWrite.reads (world : World) : PolicyWrite → List Call
  | .createOrReplace policyTypeId policyInstanceId _ _ =>
      [.get (generateTypeKey policyTypeId), .get (generateTypeKey policyTypeId),
        .get (generateTypeKey policyTypeId),
        .get (generateInstanceKey policyTypeId policyInstanceId)] ++
        if (world.sdl.get (generateInstanceKey policyTypeId policyInstanceId)).isSome then
          [.findAndGet (generateHandlerPrefix policyTypeId policyInstanceId)]
        else
          []
  | .delete policyTypeId policyInstanceId _ =>
      [.get (generateTypeKey policyTypeId),
        .get (generateInstanceKey policyTypeId policyInstanceId),
        .get (generateTypeKey policyTypeId),
        .get (generateInstanceKey policyTypeId policyInstanceId),
        .get (generateInstanceMetadataKey policyTypeId policyInstanceId)]

def handlerClears (world : World) (policyTypeId : Nat) (policyInstanceId : String) : List Call :=
  if (world.sdl.get (generateInstanceKey policyTypeId policyInstanceId)).isSome then
    ((world.sdl.findAndGet (generateHandlerPrefix policyTypeId policyInstanceId)).map Prod.fst).map
      .delete
  else
    []

/-- The writes that an accepted request makes, in their order. -/
def PolicyWrite.writes (world : World) : PolicyWrite → List Call
  | .createOrReplace policyTypeId policyInstanceId body creationTimestamp =>
      handlerClears world policyTypeId policyInstanceId ++
        [.set (generateInstanceKey policyTypeId policyInstanceId) (.obj body),
          .set (generateInstanceMetadataKey policyTypeId policyInstanceId)
            (storedMetadata creationTimestamp)]
  | .delete policyTypeId policyInstanceId deletedTimestamp =>
      match ((world.sdl.get (generateInstanceMetadataKey policyTypeId policyInstanceId)).getD
        .null).getItem "created_at" with
      | .ok createdAt =>
          [.set (generateInstanceMetadataKey policyTypeId policyInstanceId)
            (deletedMetadata createdAt deletedTimestamp)]
      | .error _ => []

/-- The reads that follow the last write. -/
def PolicyWrite.laterReads : PolicyWrite → List Call
  | .createOrReplace _ _ _ _ => []
  | .delete policyTypeId policyInstanceId _ =>
      [.get (generateTypeKey policyTypeId),
        .get (generateInstanceKey policyTypeId policyInstanceId),
        .findAndGet (generateHandlerPrefix policyTypeId policyInstanceId)]

/-- How a request goes that meets no failure. -/
inductive Undisturbed (request : PolicyWrite) (handler : A1M HttpResponse) (world : World) : Prop
  | refused (error : A1Error) (code : exceptCode error ≠ some 503)
      (other : exceptCode error ≠ some 202)
      (raises : handler.run service world = (.error error, world))
      (reads : handler.calls service world <+: request.reads world)
  | accepted (last : List Call)
      (returns : ∃ response after, handler.run service world = (.ok response, after) ∧
        response.code = 202)
      (calls : handler.calls service world =
        (request.reads world ++ request.writes world ++ request.laterReads) ++ last)
      (outside : ∀ call ∈ last, ¬ Call.isSdl call = true)

section Undisturbed

variable {settings : Settings} {validate : Json → Json → Verdict} {world : World}
variable {policyTypeId : Nat} {policyInstanceId : String} 

theorem getPolicyType_run {typeBody : Json}
    (typed : world.sdl.get (generateTypeKey policyTypeId) = some typeBody) :
    (getPolicyType policyTypeId).run service world = (.ok (some typeBody), world) := by
  rw [getPolicyType, Program.run_bind_ok service _ (typeIsValid_run typed)]
  simp [sdlGet, typed]

theorem typeIsValid_calls :
    (typeIsValid policyTypeId).calls service world = [.get (generateTypeKey policyTypeId)] := by
  cases typed : world.sdl.get (generateTypeKey policyTypeId) <;>
    simp [typeIsValid, sdlGet, typed, raise]

theorem getPolicyType_raises (untyped : world.sdl.get (generateTypeKey policyTypeId) = none) :
    (getPolicyType policyTypeId).run service world =
      (.error (.policyTypeNotFound (toString policyTypeId)), world) := by
  rw [getPolicyType, Program.run_bind, typeIsValid_raises untyped]

theorem getPolicyType_calls {typeBody : Json}
    (typed : world.sdl.get (generateTypeKey policyTypeId) = some typeBody) :
    (getPolicyType policyTypeId).calls service world =
      [.get (generateTypeKey policyTypeId), .get (generateTypeKey policyTypeId)] := by
  rw [getPolicyType, Program.calls_bind_ok _ (typeIsValid_run typed), typeIsValid_calls]
  rfl

theorem instanceIsValid_calls (valid : Valid world policyTypeId policyInstanceId) :
    (instanceIsValid policyTypeId policyInstanceId).calls service world =
      [.get (generateTypeKey policyTypeId),
        .get (generateInstanceKey policyTypeId policyInstanceId)] := by
  rcases Option.isSome_iff_exists.mp valid.1 with ⟨typeBody, typed⟩
  rcases Option.isSome_iff_exists.mp valid.2 with ⟨body, held⟩
  rw [instanceIsValid, Program.calls_bind_ok _ (typeIsValid_run typed), typeIsValid_calls]
  simp [sdlGet, held]

theorem sdlDelete_loop_calls (keys : List String) :
    (Program.forEach keys sdlDelete).calls service world = keys.map .delete := by
  induction keys generalizing world with
  | nil => rfl
  | cons key keys ih => exact congrArg (Call.delete key :: ·) ih

theorem clearHandlers_calls :
    (clearHandlers policyTypeId policyInstanceId).calls service world =
      .findAndGet (generateHandlerPrefix policyTypeId policyInstanceId) ::
        ((world.sdl.findAndGet (generateHandlerPrefix policyTypeId policyInstanceId)).map
          Prod.fst).map .delete :=
  congrArg (_ :: ·) (sdlDelete_loop_calls _)

theorem storePolicyInstance_calls {typeBody : Json} (body : Body) (creationTimestamp : String)
    (typed : world.sdl.get (generateTypeKey policyTypeId) = some typeBody) :
    [.get (generateTypeKey policyTypeId), .get (generateTypeKey policyTypeId)] ++
        (storePolicyInstance policyTypeId policyInstanceId body creationTimestamp).calls service
          world =
      PolicyWrite.reads world (.createOrReplace policyTypeId policyInstanceId body
        creationTimestamp) ++
        PolicyWrite.writes world (.createOrReplace policyTypeId policyInstanceId body
          creationTimestamp) := by
  rw [storePolicyInstance, Program.calls_bind_ok _ (typeIsValid_run typed), typeIsValid_calls]
  simp only [sdlGet, Program.call_bind, Program.calls_call, Program.done_bind,
    service_answer_get, service_effect_get, PolicyWrite.reads, PolicyWrite.writes, handlerClears]
  cases held : world.sdl.get (generateInstanceKey policyTypeId policyInstanceId) with
  | none => simp [storeInstance, sdlSet]
  | some old =>
      simp only
      rw [Program.calls_bind_ok _ clearHandlers_run, clearHandlers_calls]
      simp [storeInstance, sdlSet]

theorem putInstanceHandler_undisturbed (body : Body) (creationTimestamp : String) :
    Undisturbed (.createOrReplace policyTypeId policyInstanceId body creationTimestamp)
      (putInstanceHandler validate policyTypeId policyInstanceId body creationTimestamp) world := by
  cases typed : world.sdl.get (generateTypeKey policyTypeId) with
  | none =>
      have raised := getPolicyType_raises typed
      apply Undisturbed.refused (.policyTypeNotFound (toString policyTypeId))
        (by simp [exceptCode]) (by simp [exceptCode])
      · rw [putInstanceHandler, Program.run_bind_error service _ raised]
      · rw [putInstanceHandler, Program.calls_bind_error _ raised, getPolicyType,
          Program.calls_bind_error _ (typeIsValid_raises typed), typeIsValid_calls]
        simp [PolicyWrite.reads]
  | some typeBody =>
      have first := getPolicyType_run typed
      have checked : [Call.get (generateTypeKey policyTypeId), .get (generateTypeKey policyTypeId)]
          <+: PolicyWrite.reads world (.createOrReplace policyTypeId policyInstanceId body
            creationTimestamp) := by
        simp [PolicyWrite.reads]
      cases found : typeBody.getItem "create_schema" with
      | error error =>
          apply Undisturbed.refused (.item error) (by simp [exceptCode]) (by simp [exceptCode])
          · rw [putInstanceHandler, Program.run_bind_ok service _ first]
            simp [found, ofItem]
          · rw [putInstanceHandler, Program.calls_bind_ok _ first, getPolicyType_calls typed]
            simp [found, ofItem, checked]
      | ok schema =>
          cases verdict : validate (.obj body) schema with
          | invalid =>
              apply Undisturbed.refused .validationError (by decide) (by decide)
              · rw [putInstanceHandler, Program.run_bind_ok service _ first]
                simp [found, ofItem, verdict, ofVerdict]
              · rw [putInstanceHandler, Program.calls_bind_ok _ first, getPolicyType_calls typed]
                simp [found, ofItem, verdict, ofVerdict, checked]
          | badSchema =>
              apply Undisturbed.refused .schemaError (by decide) (by decide)
              · rw [putInstanceHandler, Program.run_bind_ok service _ first]
                simp [found, ofItem, verdict, ofVerdict]
              · rw [putInstanceHandler, Program.calls_bind_ok _ first, getPolicyType_calls typed]
                simp [found, ofItem, verdict, ofVerdict, checked]
          | valid =>
              have stored : (storePolicyInstance policyTypeId policyInstanceId body
                  creationTimestamp).run service world = _ :=
                storePolicyInstance_run body creationTimestamp typed
              have returns : ∃ response after,
                  (putInstanceHandler validate policyTypeId policyInstanceId body
                    creationTimestamp).run service world = (.ok response, after) ∧
                      response.code = 202 := by
                rw [putInstanceHandler, Program.run_bind_ok service _ first]
                simp only [found, ofItem, verdict, ofVerdict, Option.getD_some, Program.done_bind]
                rw [Program.run_bind_ok service _ stored]
                exact ⟨_, _, rfl, rfl⟩
              have calls : ∃ operation, (putInstanceHandler validate policyTypeId policyInstanceId
                  body creationTimestamp).calls service world =
                    PolicyWrite.reads world (.createOrReplace policyTypeId policyInstanceId body
                      creationTimestamp) ++
                      PolicyWrite.writes world (.createOrReplace policyTypeId policyInstanceId body
                        creationTimestamp) ++
                        [.queuePut ⟨operation, policyTypeId, policyInstanceId, .obj body⟩] := by
                rw [putInstanceHandler, Program.calls_bind_ok _ first, getPolicyType_calls typed]
                simp only [found, ofItem, verdict, ofVerdict, Option.getD_some, Program.done_bind]
                rw [Program.calls_bind_ok _ stored, ← List.append_assoc,
                  storePolicyInstance_calls body creationTimestamp typed]
                exact ⟨_, rfl⟩
              rcases calls with ⟨operation, calls⟩
              apply Undisturbed.accepted
                [.queuePut ⟨operation, policyTypeId, policyInstanceId, .obj body⟩] returns
              · rw [calls, PolicyWrite.laterReads, List.append_nil]
              · simp [Call.isSdl]

theorem instanceIsValid_refuses (invalid : ¬ Valid world policyTypeId policyInstanceId) :
    ∃ error, exceptCode error = some 404 ∧
      (instanceIsValid policyTypeId policyInstanceId).run service world = (.error error, world) ∧
      (instanceIsValid policyTypeId policyInstanceId).calls service world <+:
        [.get (generateTypeKey policyTypeId),
          .get (generateInstanceKey policyTypeId policyInstanceId)] := by
  cases typed : world.sdl.get (generateTypeKey policyTypeId) with
  | none =>
      have raised := typeIsValid_raises typed
      refine ⟨.policyTypeNotFound (toString policyTypeId), rfl, ?_, ?_⟩
      · rw [instanceIsValid, Program.run_bind_error service _ raised]
      · rw [instanceIsValid, Program.calls_bind_error _ raised, typeIsValid_calls]
        simp
  | some typeBody =>
      have passed := typeIsValid_run typed
      have missing : world.sdl.get (generateInstanceKey policyTypeId policyInstanceId) = none := by
        by_contra held
        exact invalid ⟨by simp [typed], Option.isSome_iff_ne_none.mpr held⟩
      refine ⟨.policyInstanceNotFound (toString policyTypeId), rfl, ?_, ?_⟩
      · rw [instanceIsValid, Program.run_bind_ok service _ passed]
        simp [sdlGet, missing, raise]
      · rw [instanceIsValid, Program.calls_bind_ok _ passed, typeIsValid_calls]
        simp [sdlGet, missing, raise]

theorem getMetadata_calls (valid : Valid world policyTypeId policyInstanceId) :
    (getMetadata policyTypeId policyInstanceId).calls service world =
      [.get (generateTypeKey policyTypeId),
        .get (generateInstanceKey policyTypeId policyInstanceId),
        .get (generateInstanceMetadataKey policyTypeId policyInstanceId)] := by
  rw [getMetadata, Program.calls_bind_ok _ (instanceIsValid_run valid), instanceIsValid_calls valid]
  rfl

theorem getStatuses_calls (valid : Valid world policyTypeId policyInstanceId) :
    (getStatuses policyTypeId policyInstanceId).calls service world =
      [.get (generateTypeKey policyTypeId),
        .get (generateInstanceKey policyTypeId policyInstanceId),
        .findAndGet (generateHandlerPrefix policyTypeId policyInstanceId)] := by
  rw [getStatuses, Program.calls_bind_ok _ (instanceIsValid_run valid), instanceIsValid_calls valid]
  rfl

theorem valid_of_set_metadata (metadata : Json) (valid : Valid world policyTypeId policyInstanceId) :
    Valid { world with
      sdl := world.sdl.set (generateInstanceMetadataKey policyTypeId policyInstanceId) metadata }
      policyTypeId policyInstanceId := by
  constructor
  · rw [KeyValue.get_set_other _ _ (type_ne_metadata _ _ _)]
    exact valid.1
  · rw [KeyValue.get_set_other _ _ (instance_ne_metadata _ _ _ _)]
    exact valid.2

theorem deletePolicyInstance_calls (deletedTimestamp : String) {createdAt : Json}
    (valid : Valid world policyTypeId policyInstanceId)
    (created : ((world.sdl.get
      (generateInstanceMetadataKey policyTypeId policyInstanceId)).getD .null).getItem
        "created_at" = .ok createdAt) :
    ∃ ttl, (deletePolicyInstance settings policyTypeId policyInstanceId deletedTimestamp).calls
        service world =
      PolicyWrite.reads world (.delete policyTypeId policyInstanceId deletedTimestamp) ++
        PolicyWrite.writes world (.delete policyTypeId policyInstanceId deletedTimestamp) ++
          PolicyWrite.laterReads (.delete policyTypeId policyInstanceId deletedTimestamp) ++
            [.startTimer policyTypeId policyInstanceId ttl] := by
  have still := valid_of_set_metadata (deletedMetadata createdAt deletedTimestamp) valid
  rw [deletePolicyInstance, Program.calls_bind_ok _ (instanceIsValid_run valid),
    Program.calls_bind_ok _ (getMetadata_run valid), instanceIsValid_calls valid,
    getMetadata_calls valid]
  simp only [created, ofItem, Program.done_bind, sdlSet, Program.call_bind, Program.calls_call,
    service_effect_set, PolicyWrite.writes]
  rw [Program.calls_bind_ok _ (getStatuses_run still), getStatuses_calls still]
  exact ⟨_, rfl⟩

theorem deleteInstanceHandler_undisturbed (deletedTimestamp : String) :
    Undisturbed (.delete policyTypeId policyInstanceId deletedTimestamp)
      (deleteInstanceHandler settings policyTypeId policyInstanceId deletedTimestamp) world := by
  by_cases valid : Valid world policyTypeId policyInstanceId
  · cases created : ((world.sdl.get
        (generateInstanceMetadataKey policyTypeId policyInstanceId)).getD .null).getItem
          "created_at" with
    | error error =>
        have raised := deletePolicyInstance_subscript settings deletedTimestamp valid created
        apply Undisturbed.refused (.item error) (by simp [exceptCode]) (by simp [exceptCode])
        · rw [deleteInstanceHandler, Program.run_bind_error service _ raised]
        · rw [deleteInstanceHandler, Program.calls_bind_error _ raised, deletePolicyInstance,
            Program.calls_bind_ok _ (instanceIsValid_run valid),
            Program.calls_bind_ok _ (getMetadata_run valid), instanceIsValid_calls valid,
            getMetadata_calls valid]
          simp [created, ofItem, PolicyWrite.reads]
    | ok createdAt =>
        cases held : world.sdl.get (generateInstanceMetadataKey policyTypeId policyInstanceId) with
        | none =>
            rw [held] at created
            cases created
        | some metadata =>
            have marked := created
            rw [held] at marked
            have deleted := deletePolicyInstance_run settings deletedTimestamp valid held marked
            rcases deletePolicyInstance_calls deletedTimestamp valid created with ⟨ttl, calls⟩
            have returns : ∃ response after, (deleteInstanceHandler settings policyTypeId
                policyInstanceId deletedTimestamp).run service world = (.ok response, after) ∧
                  response.code = 202 := by
              rw [deleteInstanceHandler, Program.run_bind_ok service _ deleted]
              exact ⟨_, _, rfl, rfl⟩
            apply Undisturbed.accepted [.startTimer policyTypeId policyInstanceId ttl,
              .queuePut ⟨"DELETE", policyTypeId, policyInstanceId, .str ""⟩] returns
            · rw [deleteInstanceHandler, Program.calls_bind_ok _ deleted, calls]
              simp [queueInstanceSend]
            · simp [Call.isSdl]
  · rcases instanceIsValid_refuses valid with ⟨error, code, raised, calls⟩
    have refused : (deletePolicyInstance settings policyTypeId policyInstanceId
        deletedTimestamp).run service world = (.error error, world) := by
      rw [deletePolicyInstance, Program.run_bind_error service _ raised]
    apply Undisturbed.refused error (by simp [code]) (by simp [code])
    · rw [deleteInstanceHandler, Program.run_bind_error service _ refused]
    · rw [deleteInstanceHandler, Program.calls_bind_error _ refused, deletePolicyInstance,
        Program.calls_bind_error _ raised]
      exact calls.trans (List.prefix_append _ _)

theorem undisturbed (settings : Settings) (validate : Json → Json → Verdict)
    (request : PolicyWrite) (world : World) :
    Undisturbed request (request.handler settings validate) world := by
  cases request with
  | createOrReplace policyTypeId policyInstanceId body creationTimestamp =>
      exact putInstanceHandler_undisturbed body creationTimestamp
  | delete policyTypeId policyInstanceId deletedTimestamp =>
      exact deleteInstanceHandler_undisturbed deletedTimestamp

end Undisturbed

def IsRead (call : Call) : Prop :=
  (∃ key, call = .get key) ∨ ∃ start, call = .findAndGet start

def IsWrite (call : Call) : Prop :=
  (∃ key value, call = .set key value) ∨ ∃ key, call = .delete key

theorem isRead_idle {call : Call} (read : IsRead call) (world : World) :
    service.effect call world = world := by
  rcases read with ⟨key, rfl⟩ | ⟨start, rfl⟩
  · exact service_effect_get key world
  · exact service_effect_findAndGet start world

theorem isRead_sdl {call : Call} (read : IsRead call) : call.isSdl = true := by
  rcases read with ⟨key, rfl⟩ | ⟨start, rfl⟩
  · rfl
  · rfl

theorem isWrite_sdl {call : Call} (write : IsWrite call) : call.isSdl = true := by
  rcases write with ⟨key, value, rfl⟩ | ⟨key, rfl⟩
  · rfl
  · rfl

theorem isWrite_keeps {call : Call} (write : IsWrite call) (world : World) :
    ((service.effect call world).timers, (service.effect call world).sendQueue) =
      (world.timers, world.sendQueue) := by
  rcases write with ⟨key, value, rfl⟩ | ⟨key, rfl⟩
  · rfl
  · rfl

theorem reads_isRead (request : PolicyWrite) (world : World) :
    ∀ call ∈ request.reads world ++ request.laterReads, IsRead call := by
  intro call member
  cases request with
  | createOrReplace policyTypeId policyInstanceId body creationTimestamp =>
      simp only [PolicyWrite.reads, PolicyWrite.laterReads, List.append_nil, List.mem_append,
        List.mem_cons, List.not_mem_nil, or_false] at member
      rcases member with (same | same | same | same) | search
      · exact .inl ⟨_, same⟩
      · exact .inl ⟨_, same⟩
      · exact .inl ⟨_, same⟩
      · exact .inl ⟨_, same⟩
      · split at search
        · exact .inr ⟨_, List.mem_singleton.mp search⟩
        · exact absurd search List.not_mem_nil
  | delete policyTypeId policyInstanceId deletedTimestamp =>
      simp only [PolicyWrite.reads, PolicyWrite.laterReads, List.mem_append, List.mem_cons,
        List.not_mem_nil, or_false] at member
      rcases member with (same | same | same | same | same) | same | same | same
      · exact .inl ⟨_, same⟩
      · exact .inl ⟨_, same⟩
      · exact .inl ⟨_, same⟩
      · exact .inl ⟨_, same⟩
      · exact .inl ⟨_, same⟩
      · exact .inl ⟨_, same⟩
      · exact .inl ⟨_, same⟩
      · exact .inr ⟨_, same⟩

theorem writes_isWrite (request : PolicyWrite) (world : World) :
    ∀ call ∈ request.writes world, IsWrite call := by
  intro call member
  cases request with
  | createOrReplace policyTypeId policyInstanceId body creationTimestamp =>
      rw [PolicyWrite.writes, List.mem_append] at member
      rcases member with cleared | written
      · rw [handlerClears] at cleared
        split at cleared
        · rcases List.mem_map.mp cleared with ⟨key, _, same⟩
          exact .inr ⟨key, same.symm⟩
        · exact absurd cleared List.not_mem_nil
      · simp only [List.mem_cons, List.not_mem_nil, or_false] at written
        rcases written with same | same
        · exact .inl ⟨_, _, same⟩
        · exact .inl ⟨_, _, same⟩
  | delete policyTypeId policyInstanceId deletedTimestamp =>
      rw [PolicyWrite.writes] at member
      split at member
      · exact .inl ⟨_, _, List.mem_singleton.mp member⟩
      · exact absurd member List.not_mem_nil

theorem sdl_calls (request : PolicyWrite) (world : World) :
    ∀ call ∈ request.reads world ++ request.writes world ++ request.laterReads,
      call.isSdl = true := by
  intro call member
  rcases List.mem_append.mp member with early | later
  · rcases List.mem_append.mp early with read | write
    · exact isRead_sdl (reads_isRead request world call (List.mem_append_left _ read))
    · exact isWrite_sdl (writes_isWrite request world call write)
  · exact isRead_sdl (reads_isRead request world call (List.mem_append_right _ later))

section Failure

variable (settings : Settings) (validate : Json → Json → Verdict) (request : PolicyWrite)
variable (error : SdlError) (countdown : Nat) (world : World)

/-- The state that the writes made before the failing call leave. -/
def PolicyWrite.cut : World :=
  Program.afterCalls service
    ((request.writes world).take (countdown - (request.reads world).length)) world

/-- Either a call fails, and the writes before it have been made, or the request goes undisturbed. -/
theorem answerFailing_cases :
    (countdown < (request.reads world ++ request.writes world ++ request.laterReads).length ∧
        answerFailing settings validate request error countdown world =
          (.ok (logBuildHttpResp (.sdl error) 503), request.cut countdown world)) ∨
      answerFailing settings validate request error countdown world =
        (tryFuncReturn ((request.handler settings validate).run service world).1,
          ((request.handler settings validate).run service world).2) := by
  rcases Program.runFailing_cases service Call.isSdl (.sdl error) countdown
    (request.handler settings validate) world with
    ⟨made, refused, rest, split, canRefuse, counted, failed⟩ | whole
  · left
    simp only [answerFailing, failed, tryFuncReturn, exceptCode]
    cases undisturbed settings validate request world with
    | refused raised code other raises reads =>
        -- the requests that are refused only read
        rw [split] at reads
        have bound : made.length < (request.reads world).length := by
          have longer := reads.length_le
          rw [List.length_append, List.length_cons] at longer
          omega
        have fewer : countdown ≤ made.length := by
          rw [← counted]
          exact List.length_filter_le _ _
        have noWrites : countdown - (request.reads world).length = 0 := by omega
        refine ⟨?_, ?_⟩
        · simp only [List.length_append]
          omega
        · rw [PolicyWrite.cut, noWrites, List.take_zero, Program.afterCalls_nil]
          congr 1
          apply Program.afterCalls_keeps id
          intro call member
          have read : call ∈ request.reads world :=
            reads.subset (List.mem_append_left _ member)
          exact isRead_idle (reads_isRead request world call (List.mem_append_left _ read))
    | accepted last returns calls outside =>
        rw [calls] at split
        have cut := Program.made_eq_take (sdl_calls request world) outside split canRefuse
        rw [counted] at cut
        refine ⟨cut.2, ?_⟩
        rw [cut.1, PolicyWrite.cut, Program.afterCalls_take]
        intro call member
        exact isRead_idle (reads_isRead request world call member)
  · right
    rw [answerFailing, whole]

theorem cut_keeps_timers_and_queue :
    ((request.cut countdown world).timers, (request.cut countdown world).sendQueue) =
      (world.timers, world.sendQueue) := by
  apply Program.afterCalls_keeps (fun current : World => (current.timers, current.sendQueue))
  intro call member state
  exact isWrite_keeps (writes_isWrite request world call (List.mem_of_mem_take member)) state

end Failure

/-- What a request that fails leaves alone in the store: a PUT the metadata, a DELETE the value and
the statuses. -/
def PolicyWrite.Spares (before after : World) : PolicyWrite → Prop
  | .createOrReplace policyTypeId policyInstanceId _ _ =>
      after.sdl.get (generateInstanceMetadataKey policyTypeId policyInstanceId) =
        before.sdl.get (generateInstanceMetadataKey policyTypeId policyInstanceId)
  | .delete policyTypeId policyInstanceId _ =>
      after.sdl.get (generateInstanceKey policyTypeId policyInstanceId) =
          before.sdl.get (generateInstanceKey policyTypeId policyInstanceId) ∧
        after.sdl.findAndGet (generateHandlerPrefix policyTypeId policyInstanceId) =
          before.sdl.findAndGet (generateHandlerPrefix policyTypeId policyInstanceId)

theorem put_writes_split (world : World) (policyTypeId : Nat) (policyInstanceId : String)
    (body : Body) (creationTimestamp : String) :
    ∃ front, PolicyWrite.writes world (.createOrReplace policyTypeId policyInstanceId body
        creationTimestamp) =
          front ++ [.set (generateInstanceMetadataKey policyTypeId policyInstanceId)
            (storedMetadata creationTimestamp)] ∧
      ∀ call ∈ front, ∀ state : World,
        (service.effect call state).sdl.get
            (generateInstanceMetadataKey policyTypeId policyInstanceId) =
          state.sdl.get (generateInstanceMetadataKey policyTypeId policyInstanceId) := by
  refine ⟨handlerClears world policyTypeId policyInstanceId ++
    [.set (generateInstanceKey policyTypeId policyInstanceId) (.obj body)], ?_, ?_⟩
  · rw [PolicyWrite.writes, List.append_assoc]
    rfl
  · intro call member state
    rcases List.mem_append.mp member with cleared | stored
    · rw [handlerClears] at cleared
      split at cleared
      · rcases List.mem_map.mp cleared with ⟨key, found, rfl⟩
        have starts := ((KeyValue.mem_findAndGet_keys _ _ _).mp found).2
        have differ : generateInstanceMetadataKey policyTypeId policyInstanceId ≠ key :=
          (Text.ne_of_startswith starts (metadata_key_not_handler _ _ _ _)).symm
        exact KeyValue.get_delete_other _ differ
      · exact absurd cleared List.not_mem_nil
    · rw [List.mem_singleton.mp stored]
      exact KeyValue.get_set_other _ _ (instance_ne_metadata _ _ _ _).symm

theorem cut_put_spares_metadata {countdown : Nat} {world : World} {policyTypeId : Nat}
    {policyInstanceId : String} {body : Body} {creationTimestamp : String}
    (early : countdown < (PolicyWrite.reads world (.createOrReplace policyTypeId policyInstanceId
      body creationTimestamp)).length + (PolicyWrite.writes world (.createOrReplace policyTypeId
        policyInstanceId body creationTimestamp)).length) :
    PolicyWrite.Spares world (PolicyWrite.cut (.createOrReplace policyTypeId policyInstanceId body
      creationTimestamp) countdown world) (.createOrReplace policyTypeId policyInstanceId body
        creationTimestamp) := by
  rcases put_writes_split world policyTypeId policyInstanceId body creationTimestamp with
    ⟨front, split, keeps⟩
  rw [split, List.length_append, List.length_singleton] at early
  rw [PolicyWrite.Spares, PolicyWrite.cut, split, List.take_append_of_le_length (by omega)]
  apply Program.afterCalls_keeps (fun current : World =>
    current.sdl.get (generateInstanceMetadataKey policyTypeId policyInstanceId))
  intro call member
  exact keeps call (List.mem_of_mem_take member)

theorem cut_delete_spares_instance (countdown : Nat) (world : World) (policyTypeId : Nat)
    (policyInstanceId deletedTimestamp : String) :
    PolicyWrite.Spares world (PolicyWrite.cut (.delete policyTypeId policyInstanceId
      deletedTimestamp) countdown world) (.delete policyTypeId policyInstanceId
        deletedTimestamp) := by
  have metadataOnly : ∀ call ∈ PolicyWrite.writes world (.delete policyTypeId policyInstanceId
      deletedTimestamp), ∃ value,
        call = .set (generateInstanceMetadataKey policyTypeId policyInstanceId) value := by
    intro call member
    rw [PolicyWrite.writes] at member
    split at member
    · exact ⟨_, List.mem_singleton.mp member⟩
    · exact absurd member List.not_mem_nil
  constructor
  · apply Program.afterCalls_keeps (fun current : World =>
      current.sdl.get (generateInstanceKey policyTypeId policyInstanceId))
    intro call member state
    rcases metadataOnly call (List.mem_of_mem_take member) with ⟨value, rfl⟩
    exact KeyValue.get_set_other _ _ (instance_ne_metadata _ _ _ _)
  · apply Program.afterCalls_keeps (fun current : World =>
      current.sdl.findAndGet (generateHandlerPrefix policyTypeId policyInstanceId))
    intro call member state
    rcases metadataOnly call (List.mem_of_mem_take member) with ⟨value, rfl⟩
    exact KeyValue.findAndGet_set_other _ _ (metadata_key_not_handler _ _ _ _)

/-- A request that is not accepted leaves everything as it was, unless an SDL call fails behind its
first write: then the writes before that call have been made and nothing else has changed. -/
theorem unaccepted_write_is_cut (settings : Settings) (validate : Json → Json → Verdict)
    (request : PolicyWrite) (error : SdlError) (countdown : Nat) (world : World) :
    let ended := answerFailing settings validate request error countdown world
    (∀ exception, ended.1 = .error exception → ended.2 = world) ∧
      ∀ response, ended.1 = .ok response → response.code ≠ 202 →
        ended.2.timers = world.timers ∧ ended.2.sendQueue = world.sendQueue ∧
          request.Spares world ended.2 ∧ (response.code ≠ 503 → ended.2 = world) ∧
          (countdown ≤ (request.reads world).length → ended.2 = world) ∧
          (response.code = 503 → ended.2 = request.cut countdown world) := by
  intro ended
  have spares : request.Spares world world := by
    cases request with
    | createOrReplace => rfl
    | delete => exact ⟨rfl, rfl⟩
  rcases answerFailing_cases settings validate request error countdown world with
    ⟨early, failed⟩ | whole
  · have result : ended = (.ok (logBuildHttpResp (.sdl error) 503), request.cut countdown world) :=
      failed
    rw [result]
    constructor
    · intro exception raised
      cases raised
    · intro response answered _
      cases answered
      have kept := cut_keeps_timers_and_queue request countdown world
      refine ⟨congrArg Prod.fst kept, congrArg Prod.snd kept, ?_, ?_, ?_, ?_⟩
      · cases request with
        | createOrReplace =>
            apply cut_put_spares_metadata
            rw [PolicyWrite.laterReads, List.append_nil, List.length_append] at early
            exact early
        | delete => exact cut_delete_spares_instance countdown world _ _ _
      · intro other
        exact absurd rfl other
      · intro beforeWrites
        simp only
        rw [PolicyWrite.cut, Nat.sub_eq_zero_of_le beforeWrites, List.take_zero,
          Program.afterCalls_nil]
      · intro _
        rfl
  · have result : ended = _ := whole
    rw [result]
    cases undisturbed settings validate request world with
    | refused raised notFailed notAccepted raises reads =>
        rw [raises]
        constructor
        · intro _ _
          rfl
        · intro response answered _
          refine ⟨rfl, rfl, spares, fun _ => rfl, fun _ => rfl, ?_⟩
          intro failed
          simp only [tryFuncReturn] at answered
          cases code : exceptCode raised with
          | none =>
              simp only [code] at answered
              cases answered
          | some number =>
              simp only [code] at answered
              cases answered
              exact absurd (code.trans (congrArg some failed)) notFailed
    | accepted last returns calls outside =>
        rcases returns with ⟨accepted, after, returned, code⟩
        rw [returned]
        constructor
        · intro exception raised
          cases raised
        · intro response answered refused
          cases answered
          exact absurd code refused

/-- The SDL fails at the metadata write of a PUT: 503, with the statuses cleared and the value
replaced. -/
theorem failed_put_replaces_instance :
    let world := Runs.run (step {}) World.empty
      [.request (.storePolicyType 1 [("policy_type_id", .int 1), ("create_schema", .obj [])]),
        .request (.storePolicyInstance 1 "a" [] "0.0"),
        .request (.setPolicyInstanceStatus 1 "a" "h" (.str "OK"))]
    let put : PolicyWrite := .createOrReplace 1 "a" [("x", .int 2)] "1.0"
    let ended := answerFailing {} (fun _ _ => .valid) put .backendError 7 world
    (∃ response, ended.1 = .ok response ∧ response.code = 503) ∧
      ended.2.sdl.get (generateInstanceKey 1 "a") ≠ world.sdl.get (generateInstanceKey 1 "a") ∧
      ended.2.sdl.findAndGet (generateHandlerPrefix 1 "a") ≠
        world.sdl.findAndGet (generateHandlerPrefix 1 "a") := by
  intro world put ended
  exact ⟨⟨_, rfl, rfl⟩, by decide +kernel, by decide +kernel⟩

end NearRtRic.A1
