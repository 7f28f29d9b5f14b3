import NearRtRic.A1.Controller
import NearRtRic.A1.RmrLoop
import NearRtRic.A1.StepEffect
import NearRtRic.Library.Catalogue

/-! What A1 stores as policies conforms to what it stores as their types. -/

namespace NearRtRic.A1

/-- What A1 does to its policies, each from its first call to its last. A status comes with ids of
any JSON type. -/
inductive Action where
  | storePolicyType (policyTypeId : Nat) (body : Body)
  | deletePolicyType (policyTypeId : Nat)
  | write (request : PolicyWrite)
  | setPolicyInstanceStatus (update : StatusUpdate)
  | timerCheck (index : Nat)
  | timerExpiry (index : Nat)

section Actions

/-! `str` of a JSON value and `jsonschema.validate` are parameters. -/

variable [ToString Json] (settings : Settings) (validate : Json → Json → Verdict)

def perform (world : World) : Action → World
  | .storePolicyType policyTypeId body =>
      step settings world (.request (.storePolicyType policyTypeId body))
  | .deletePolicyType policyTypeId =>
      step settings world (.request (.deletePolicyType policyTypeId))
  | .write request => ((request.handler settings validate).run service world).2
  | .setPolicyInstanceStatus update =>
      ((setPolicyInstanceStatus update.policyTypeId update.policyInstanceId update.handlerId
        update.status).run service world).2
  | .timerCheck index => step settings world (.timerCheck index)
  | .timerExpiry index => step settings world (.timerExpiry index)

def Conforms (typeBody policyInstance : Json) : Prop :=
  ∃ schema, typeBody.getItem "create_schema" = .ok schema ∧
    validate policyInstance schema = .valid

end Actions

/-- Types as headings, instances as what is filed under them. -/
def catalogue (world : World) : Catalogue Nat String Json Json where
  heading := fun policyTypeId => world.sdl.get (generateTypeKey policyTypeId)
  entry := fun policyTypeId policyInstanceId =>
    world.sdl.get (generateInstanceKey policyTypeId policyInstanceId)

theorem catalogue_congr {first second : World} (same : first.sdl = second.sdl) :
    catalogue first = catalogue second := by
  rw [catalogue, catalogue, same]

section Moves

variable {settings : Settings} {validate : Json → Json → Verdict} {world : World}

/-- A value set under a key of neither family is no concern of the catalogue. -/
theorem set_elsewhere {closes : Nat → Prop} {after : World} {key : String} {value : Json}
    (types : ∀ policyTypeId : Nat, generateTypeKey policyTypeId ≠ key)
    (instances : ∀ (policyTypeId : Nat) (policyInstanceId : String),
      generateInstanceKey policyTypeId policyInstanceId ≠ key)
    (set : after.sdl = world.sdl.set key value) :
    Catalogue.Move (Conforms validate) closes (catalogue world) (catalogue after) := by
  apply Catalogue.Move.stay
  · funext policyTypeId
    simp only [catalogue, set]
    exact KeyValue.get_set_other _ value (types policyTypeId)
  · funext policyTypeId policyInstanceId
    simp only [catalogue, set]
    exact KeyValue.get_set_other _ value (instances policyTypeId policyInstanceId)

/-- Of the data layer's steps, only a store that nobody validated is no move. -/
theorem operation_moves (operation : Operation)
    (validated : ∀ policyTypeId policyInstanceId body creationTimestamp,
      operation = .request (.storePolicyInstance policyTypeId policyInstanceId body
        creationTimestamp) →
      ∃ typeBody, world.sdl.get (generateTypeKey policyTypeId) = some typeBody ∧
        Conforms validate typeBody (.obj body)) :
    Catalogue.Move (Conforms validate)
      (fun policyTypeId => operation = .request (.deletePolicyType policyTypeId))
      (catalogue world) (catalogue (step settings world operation)) := by
  have effect := step_effect settings world operation
  generalize step settings world operation = after at effect ⊢
  cases effect with
  | refused | reported | checkIdle | timerLaid | timerEnded | expiryIdle => exact .stay rfl rfl
  | typeStored policyTypeId body untyped =>
      constructor
      · intro other
        by_cases same : other = policyTypeId
        · exact .inr (.inl (same ▸ untyped))
        · exact .inl (by simp [catalogue, KeyValue.get_set, same])
      · intro other text
        exact .inl (KeyValue.get_set_other _ (.obj body) (type_ne_instance _ _ _).symm)
  | typeDeleted policyTypeId empty =>
      constructor
      · intro other
        by_cases same : other = policyTypeId
        · subst same
          refine .inr (.inr ⟨rfl, KeyValue.get_delete_same _ _, ?_⟩)
          intro text
          exact (KeyValue.get_delete_other _ (type_ne_instance _ _ _).symm).trans (empty text)
        · exact .inl (by simp [catalogue, KeyValue.get_delete, same])
      · intro other text
        exact .inl (KeyValue.get_delete_other _ (type_ne_instance _ _ _).symm)
  | stored policyTypeId policyInstanceId body creationTimestamp typed =>
      rcases validated _ _ _ _ rfl with ⟨typeBody, held, conforms⟩
      constructor
      · intro other
        exact .inl (get_stored_type _ _ _ _ body creationTimestamp)
      · intro other text
        by_cases same : other = policyTypeId ∧ text = policyInstanceId
        · refine .inr (.inr ⟨typeBody, .obj body, ?_, ?_, ?_, conforms⟩)
          · simp [catalogue, same]
          · simp [catalogue, same, held]
          · simp [catalogue, same, held]
        · exact .inl (by simp [catalogue, same])
  | deleted policyTypeId policyInstanceId deletedTimestamp createdAt deletable =>
      exact set_elsewhere (fun _ => type_ne_metadata _ _ _)
        (fun _ _ => instance_ne_metadata _ _ _ _) rfl
  | statusSet policyTypeId policyInstanceId handlerId status valid =>
      exact set_elsewhere (fun _ => type_ne_handler _ _ _ _)
        (fun _ _ => instance_ne_handler _ _ _ _ _) rfl
  | expired index timer found asleep =>
      constructor
      · intro other
        exact .inl (get_expired_type _ _ _ _)
      · intro other text
        by_cases same : other = timer.policyTypeId ∧ text = timer.policyInstanceId
        · exact .inr (.inl (by simp [catalogue, same]))
        · exact .inl (by simp [catalogue, same])

theorem plain_moves (operation : Operation) (closes : Nat → Prop)
    (noStore : ∀ policyTypeId policyInstanceId body creationTimestamp,
      operation ≠ .request (.storePolicyInstance policyTypeId policyInstanceId body
        creationTimestamp))
    (noClose : ∀ policyTypeId, operation ≠ .request (.deletePolicyType policyTypeId)) :
    Catalogue.Move (Conforms validate) closes (catalogue world)
      (catalogue (step settings world operation)) := by
  apply (operation_moves operation _).weaken
  · intro policyTypeId same
    exact absurd same (noClose policyTypeId)
  · intro policyTypeId policyInstanceId body creationTimestamp same
    exact absurd same (noStore policyTypeId policyInstanceId body creationTimestamp)

/-- A PUT that is refused changes nothing; one that is accepted stores a validated instance. -/
theorem putInstanceHandler_stores (settings : Settings) (policyTypeId : Nat)
    (policyInstanceId : String) (body : Body) (creationTimestamp : String) :
    ((putInstanceHandler validate policyTypeId policyInstanceId body creationTimestamp).run service
        world).2 = world ∨
      (∃ typeBody, world.sdl.get (generateTypeKey policyTypeId) = some typeBody ∧
          Conforms validate typeBody (.obj body)) ∧
        ((putInstanceHandler validate policyTypeId policyInstanceId body creationTimestamp).run
          service world).2.sdl =
            (step settings world (.request (.storePolicyInstance policyTypeId policyInstanceId body
              creationTimestamp))).sdl := by
  cases typed : world.sdl.get (generateTypeKey policyTypeId) with
  | none =>
      left
      rw [putInstanceHandler, Program.run_bind_error service _ (getPolicyType_raises typed)]
  | some typeBody =>
      rw [putInstanceHandler, Program.run_bind_ok service _ (getPolicyType_run typed)]
      simp only [Option.getD_some]
      cases found : typeBody.getItem "create_schema" with
      | error error => exact .inl rfl
      | ok schema =>
          simp only [ofItem, Program.done_bind]
          cases verdict : validate (.obj body) schema with
          | invalid => exact .inl rfl
          | badSchema => exact .inl rfl
          | valid =>
              refine .inr ⟨⟨typeBody, rfl, schema, found, verdict⟩, ?_⟩
              simp only [ofVerdict, Program.done_bind]
              rw [Program.run_bind_ok service _
                (storePolicyInstance_run body creationTimestamp typed), step, program,
                Program.run_bind_ok service _
                  (storePolicyInstance_run body creationTimestamp typed)]
              rfl

theorem deleteInstanceHandler_sdl (policyTypeId : Nat)
    (policyInstanceId deletedTimestamp : String) :
    ((deleteInstanceHandler settings policyTypeId policyInstanceId deletedTimestamp).run service
        world).2.sdl =
      (step settings world (.request (.deletePolicyInstance policyTypeId policyInstanceId
        deletedTimestamp))).sdl := by
  rw [deleteInstanceHandler, step, program, Program.run_bind, Program.run_bind]
  cases (deletePolicyInstance settings policyTypeId policyInstanceId deletedTimestamp).run service
    world with
  | mk outcome after => cases outcome <;> rfl

theorem write_moves (request : PolicyWrite) (closes : Nat → Prop) :
    Catalogue.Move (Conforms validate) closes (catalogue world)
      (catalogue ((request.handler settings validate).run service world).2) := by
  cases request with
  | createOrReplace policyTypeId policyInstanceId body creationTimestamp =>
      rcases putInstanceHandler_stores settings policyTypeId policyInstanceId body
        creationTimestamp with unchanged | ⟨validated, stores⟩
      · rw [PolicyWrite.handler, unchanged]
        exact .stay rfl rfl
      · rw [PolicyWrite.handler, catalogue_congr stores]
        apply (operation_moves _ _).weaken
        · rintro _ ⟨⟩
        · rintro _ _ _ _ ⟨⟩
          exact validated
  | delete policyTypeId policyInstanceId deletedTimestamp =>
      rw [PolicyWrite.handler, catalogue_congr (deleteInstanceHandler_sdl _ _ _)]
      exact plain_moves _ _ (by simp) (by simp)

theorem setPolicyInstanceStatus_reported [ToString Json] (update : StatusUpdate) :
    ((setPolicyInstanceStatus update.policyTypeId update.policyInstanceId update.handlerId
        update.status).run service world).2 = world ∨
      ((setPolicyInstanceStatus update.policyTypeId update.policyInstanceId update.handlerId
        update.status).run service world).2 =
          { world with
            sdl := world.sdl.set (generateHandlerKey update.policyTypeId update.policyInstanceId
              update.handlerId) update.status } := by
  simp only [setPolicyInstanceStatus, instanceIsValid, typeIsValid, sdlGet, sdlSet,
    Program.call_bind, Program.done_bind, Program.run_call, service_answer_get,
    service_effect_get]
  cases typed : world.sdl.get (generateTypeKey update.policyTypeId) with
  | none => exact .inl rfl
  | some typeBody =>
      simp only [Program.pure_eq, Program.call_bind, Program.done_bind, Program.run_call,
        service_answer_get, service_effect_get, typed]
      cases held : world.sdl.get
          (generateInstanceKey update.policyTypeId update.policyInstanceId) with
      | none => exact .inl rfl
      | some body => exact .inr rfl

theorem status_moves [ToString Json] (update : StatusUpdate) (closes : Nat → Prop) :
    Catalogue.Move (Conforms validate) closes (catalogue world)
      (catalogue ((setPolicyInstanceStatus update.policyTypeId update.policyInstanceId
        update.handlerId update.status).run service world).2) := by
  rcases setPolicyInstanceStatus_reported update with refused | reported
  · rw [refused]
    exact .stay rfl rfl
  · exact set_elsewhere (type_ne_reported _ _ _) (instance_ne_reported _ _ _)
      (congrArg World.sdl reported)

variable [ToString Json]

theorem perform_moves (world : World) (action : Action) :
    Catalogue.Move (Conforms validate)
      (fun policyTypeId => action = .deletePolicyType policyTypeId)
      (catalogue world) (catalogue (perform settings validate world action)) := by
  cases action with
  | storePolicyType policyTypeId body => exact plain_moves _ _ (by simp) (by simp)
  | deletePolicyType policyTypeId =>
      apply (operation_moves _ _).weaken
      · rintro _ ⟨⟩
        rfl
      · rintro _ _ _ _ ⟨⟩
  | write request => exact write_moves request _
  | setPolicyInstanceStatus update => exact status_moves update _
  | timerCheck index => exact plain_moves _ _ (by simp) (by simp)
  | timerExpiry index => exact plain_moves _ _ (by simp) (by simp)

end Moves

/-- In every run, a stored type keeps its body until a `delete_policy_type` takes it away, and a
stored instance passes `validate` against the schema of its type, which is stored. -/
theorem policies_conform_to_types [ToString Json] (settings : Settings)
    (validate : Json → Json → Verdict) (actions : List Action) :
    let reached := fun taken => Runs.run (perform settings validate) World.empty taken
    (∀ (policyTypeId : Nat) typeBody created since, actions = created ++ since →
      (reached created).sdl.get (generateTypeKey policyTypeId) = some typeBody →
        (reached actions).sdl.get (generateTypeKey policyTypeId) = some typeBody ∨
          ∃ kept rest, since = kept ++ .deletePolicyType policyTypeId :: rest ∧
            (∀ first, first <+: kept →
              (reached (created ++ first)).sdl.get (generateTypeKey policyTypeId) =
                some typeBody) ∧
            (reached (created ++ kept ++ [.deletePolicyType policyTypeId])).sdl.get
              (generateTypeKey policyTypeId) = none) ∧
      ∀ (policyTypeId : Nat) (policyInstanceId : String) policyInstance,
        (reached actions).sdl.get (generateInstanceKey policyTypeId policyInstanceId) =
            some policyInstance →
          ∃ typeBody, (reached actions).sdl.get (generateTypeKey policyTypeId) = some typeBody ∧
            Conforms validate typeBody policyInstance := by
  intro reached
  constructor
  · rintro policyTypeId typeBody created since rfl stored
    have split : ∀ later, reached (created ++ later) =
        Runs.run (perform settings validate) (reached created) later :=
      Runs.run_append (perform settings validate) World.empty created
    rcases Catalogue.description_run perform_moves policyTypeId typeBody (reached created) since
      stored with still | ⟨kept, action, rest, same, rfl, before, gone⟩
    · rw [split]
      exact .inl still
    · refine .inr ⟨kept, rest, same, ?_, ?_⟩
      · intro first within
        rw [split]
        exact before first within
      · rw [List.append_assoc, split]
        exact gone
  · have empty : (catalogue World.empty).Sound (Conforms validate) := by
      intro policyTypeId policyInstanceId policyInstance filed
      have nothing : (catalogue World.empty).entry policyTypeId policyInstanceId = none :=
        KeyValue.get_empty (generateInstanceKey policyTypeId policyInstanceId)
      rw [nothing] at filed
      cases filed
    exact Catalogue.sound_run perform_moves World.empty actions empty

/-- Of two PUTs, only the one whose instance passes is stored. -/
example :
    let _ : ToString Json := ⟨fun _ => ""⟩
    let validate := fun policyInstance schema : Json =>
      if policyInstance == schema then Verdict.valid else Verdict.invalid
    let stored := (Runs.run (perform {} validate) World.empty
      [.storePolicyType 1 [("policy_type_id", .int 1), ("create_schema", .obj [])],
        .write (.createOrReplace 1 "a" [] "0.0"),
        .write (.createOrReplace 1 "b" [("x", .int 2)] "1.0")]).sdl
    stored.get (generateInstanceKey 1 "a") = some (.obj []) ∧
      stored.get (generateInstanceKey 1 "b") = none := by
  intro _ validate stored
  exact ⟨by decide +kernel, by decide +kernel⟩

end NearRtRic.A1
