import NearRtRic.A1.Sequential
import NearRtRic.Library.Runs

/-! What A1 keeps, without keys: types, policies by type and id, and pending deletions.

The machine of sequential steps over the SDL is a simulation of this registry as far as types,
bodies, metadata and timers go. Statuses need a condition of their own. -/

namespace NearRtRic.A1

/-- `deletedAt` is empty exactly while the last accepted operation is a store. `statuses`
holds what each handler last reported since then. -/
structure Policy where
  body : Body
  createdAt : String
  deletedAt : Option String
  statuses : String → Option Json

def Policy.metadata (policy : Policy) : Json :=
  match policy.deletedAt with
  | none => storedMetadata policy.createdAt
  | some deletedAt => deletedMetadata (.float policy.createdAt) deletedAt

/-- The metadata of a policy always has the field that `delete_policy_instance` reads. -/
theorem Policy.created_at (policy : Policy) :
    policy.metadata.getItem "created_at" = .ok (.float policy.createdAt) := by
  rw [Policy.metadata]
  cases policy.deletedAt <;> rfl

structure PendingDelete where
  policyTypeId : Nat
  policyInstanceId : String
  asleep : Bool
  deriving DecidableEq, Repr

structure Registry where
  types : Nat → Option Body
  policies : Nat → String → Option Policy
  timers : List PendingDelete

namespace Registry

def empty : Registry := ⟨fun _ => none, fun _ _ => none, []⟩

def setPolicy (registry : Registry) (policyTypeId : Nat) (policyInstanceId : String)
    (policy : Option Policy) : Registry :=
  { registry with
    policies := fun otherType otherInstance =>
      if otherType = policyTypeId ∧ otherInstance = policyInstanceId then policy
      else registry.policies otherType otherInstance }

def setType (registry : Registry) (policyTypeId : Nat) (body : Option Body) : Registry :=
  { registry with
    types := fun other => if other = policyTypeId then body else registry.types other }

def Valid (registry : Registry) (policyTypeId : Nat) (policyInstanceId : String) : Prop :=
  (registry.types policyTypeId).isSome ∧ (registry.policies policyTypeId policyInstanceId).isSome

instance (registry : Registry) (policyTypeId : Nat) (policyInstanceId : String) :
    Decidable (registry.Valid policyTypeId policyInstanceId) :=
  inferInstanceAs (Decidable (_ ∧ _))

open Classical in
noncomputable def request (registry : Registry) : Request → Registry
  | .storePolicyType policyTypeId body =>
      if idMatches policyTypeId body ∧ registry.types policyTypeId = none then
        registry.setType policyTypeId (some body)
      else registry
  | .deletePolicyType policyTypeId =>
      if ∀ policyInstanceId, registry.policies policyTypeId policyInstanceId = none then
        registry.setType policyTypeId none
      else registry
  | .storePolicyInstance policyTypeId policyInstanceId body creationTimestamp =>
      if (registry.types policyTypeId).isSome then
        registry.setPolicy policyTypeId policyInstanceId
          (some ⟨body, creationTimestamp, none, fun _ => none⟩)
      else registry
  | .deletePolicyInstance policyTypeId policyInstanceId deletedTimestamp =>
      if registry.Valid policyTypeId policyInstanceId then
        { registry.setPolicy policyTypeId policyInstanceId
            ((registry.policies policyTypeId policyInstanceId).map
              (fun policy => { policy with deletedAt := some deletedTimestamp })) with
          timers := registry.timers ++ [⟨policyTypeId, policyInstanceId, false⟩] }
      else registry
  | .setPolicyInstanceStatus policyTypeId policyInstanceId handlerId status =>
      if registry.Valid policyTypeId policyInstanceId then
        registry.setPolicy policyTypeId policyInstanceId
          ((registry.policies policyTypeId policyInstanceId).map
            (fun policy => { policy with
              statuses := Function.update policy.statuses handlerId (some status) }))
      else registry
  | .getPolicyInstanceStatus _ _ => registry

noncomputable def step (registry : Registry) : Operation → Registry
  | .request request => registry.request request
  | .timerCheck index =>
      match registry.timers[index]? with
      | some timer =>
          if timer.asleep then registry
          else if registry.Valid timer.policyTypeId timer.policyInstanceId then
            { registry with timers := registry.timers.set index { timer with asleep := true } }
          else
            { registry with timers := registry.timers.eraseIdx index }
      | none => registry
  | .timerExpiry index =>
      match registry.timers[index]? with
      | some timer =>
          if timer.asleep then
            { registry.setPolicy timer.policyTypeId timer.policyInstanceId none with
              timers := registry.timers.eraseIdx index }
          else registry
      | none => registry

/-- What the handler last reported for the instance since its last store. -/
def lastStatus (registry : Registry) (policyTypeId : Nat) (policyInstanceId handlerId : String) :
    Option Json :=
  (registry.policies policyTypeId policyInstanceId).bind (fun policy => policy.statuses handlerId)

@[simp] theorem setPolicy_types (registry : Registry) (policyTypeId : Nat)
    (policyInstanceId : String) (policy : Option Policy) :
    (registry.setPolicy policyTypeId policyInstanceId policy).types = registry.types := rfl

@[simp] theorem setPolicy_timers (registry : Registry) (policyTypeId : Nat)
    (policyInstanceId : String) (policy : Option Policy) :
    (registry.setPolicy policyTypeId policyInstanceId policy).timers = registry.timers := rfl

@[simp] theorem setPolicy_same (registry : Registry) (policyTypeId : Nat)
    (policyInstanceId : String) (policy : Option Policy) :
    (registry.setPolicy policyTypeId policyInstanceId policy).policies policyTypeId
      policyInstanceId = policy := by
  simp [setPolicy]

theorem lastStatus_setPolicy (registry : Registry) (policyTypeId otherType : Nat)
    (policyInstanceId otherInstance handlerId : String) (policy : Option Policy) :
    (registry.setPolicy policyTypeId policyInstanceId policy).lastStatus otherType otherInstance
        handlerId =
      if otherType = policyTypeId ∧ otherInstance = policyInstanceId then
        policy.bind (fun held => held.statuses handlerId)
      else registry.lastStatus otherType otherInstance handlerId := by
  by_cases same : otherType = policyTypeId ∧ otherInstance = policyInstanceId
  · simp [lastStatus, setPolicy, same]
  · simp [lastStatus, setPolicy, same]

@[simp] theorem setType_policies (registry : Registry) (policyTypeId : Nat) (body : Option Body) :
    (registry.setType policyTypeId body).policies = registry.policies := rfl

@[simp] theorem setType_timers (registry : Registry) (policyTypeId : Nat) (body : Option Body) :
    (registry.setType policyTypeId body).timers = registry.timers := rfl

section LastStatus

variable (registry : Registry) (otherType : Nat) (otherInstance otherHandler : String)

theorem lastStatus_storeType (policyTypeId : Nat) (body : Body) :
    (registry.step (.request (.storePolicyType policyTypeId body))).lastStatus otherType
      otherInstance otherHandler = registry.lastStatus otherType otherInstance otherHandler := by
  rw [step, request]
  split <;> rfl

theorem lastStatus_deleteType (policyTypeId : Nat) :
    (registry.step (.request (.deletePolicyType policyTypeId))).lastStatus otherType
      otherInstance otherHandler = registry.lastStatus otherType otherInstance otherHandler := by
  rw [step, request]
  split <;> rfl

theorem lastStatus_store (policyTypeId : Nat) (policyInstanceId : String) (body : Body)
    (creationTimestamp : String) :
    (registry.step (.request (.storePolicyInstance policyTypeId policyInstanceId body
        creationTimestamp))).lastStatus otherType otherInstance otherHandler =
      if (registry.types policyTypeId).isSome ∧ otherType = policyTypeId ∧
          otherInstance = policyInstanceId then none
      else registry.lastStatus otherType otherInstance otherHandler := by
  rw [step, request]
  by_cases typed : (registry.types policyTypeId).isSome = true
  · rw [if_pos typed, lastStatus_setPolicy]
    simp [typed]
  · rw [if_neg typed]
    simp [typed]

theorem lastStatus_delete (policyTypeId : Nat) (policyInstanceId deletedTimestamp : String) :
    (registry.step (.request (.deletePolicyInstance policyTypeId policyInstanceId
        deletedTimestamp))).lastStatus otherType otherInstance otherHandler =
      registry.lastStatus otherType otherInstance otherHandler := by
  rw [step, request]
  by_cases valid : registry.Valid policyTypeId policyInstanceId
  · rw [if_pos valid]
    refine (lastStatus_setPolicy registry policyTypeId otherType policyInstanceId otherInstance
      otherHandler _).trans ?_
    split
    · next same =>
        rw [lastStatus, same.1, same.2]
        cases registry.policies policyTypeId policyInstanceId <;> rfl
    · rfl
  · rw [if_neg valid]

theorem lastStatus_status (policyTypeId : Nat) (policyInstanceId handlerId : String)
    (status : Json) :
    (registry.step (.request (.setPolicyInstanceStatus policyTypeId policyInstanceId handlerId
        status))).lastStatus otherType otherInstance otherHandler =
      if registry.Valid policyTypeId policyInstanceId ∧
          (otherType = policyTypeId ∧ otherInstance = policyInstanceId) ∧
          otherHandler = handlerId then some status
      else registry.lastStatus otherType otherInstance otherHandler := by
  rw [step, request]
  by_cases valid : registry.Valid policyTypeId policyInstanceId
  · rcases Option.isSome_iff_exists.mp valid.2 with ⟨policy, held⟩
    rw [if_pos valid, lastStatus_setPolicy, held]
    by_cases same : otherType = policyTypeId ∧ otherInstance = policyInstanceId
    · rw [if_pos same, lastStatus, same.1, same.2, held]
      by_cases handler : otherHandler = handlerId
      · simp [valid, handler]
      · simp [handler]
    · simp [same]
  · simp [valid]

theorem lastStatus_check (index : Nat) :
    (registry.step (.timerCheck index)).lastStatus otherType otherInstance otherHandler =
      registry.lastStatus otherType otherInstance otherHandler := by
  rw [step]
  cases registry.timers[index]? with
  | none => rfl
  | some timer =>
      dsimp only
      split
      · rfl
      · split <;> rfl

theorem lastStatus_expiry (index : Nat) (timer : PendingDelete)
    (found : registry.timers[index]? = some timer) (asleep : timer.asleep = true) :
    (registry.step (.timerExpiry index)).lastStatus otherType otherInstance otherHandler =
      if otherType = timer.policyTypeId ∧ otherInstance = timer.policyInstanceId then none
      else registry.lastStatus otherType otherInstance otherHandler := by
  rw [step, found]
  simp only [asleep, if_true]
  exact lastStatus_setPolicy registry timer.policyTypeId otherType timer.policyInstanceId
    otherInstance otherHandler none

theorem step_expiry_idle (index : Nat)
    (idle : ∀ timer, registry.timers[index]? = some timer → timer.asleep = false) :
    registry.step (.timerExpiry index) = registry := by
  rw [step]
  cases found : registry.timers[index]? with
  | none => rfl
  | some timer => simp [idle timer found]

end LastStatus

end Registry

/-- The SDL holds the registry under A1's keys. -/
structure Represents (world : World) (registry : Registry) : Prop where
  types : ∀ policyTypeId, world.sdl.get (generateTypeKey policyTypeId) =
    (registry.types policyTypeId).map .obj
  instances : ∀ (policyTypeId : Nat) (policyInstanceId : String),
    world.sdl.get (generateInstanceKey policyTypeId policyInstanceId) =
      (registry.policies policyTypeId policyInstanceId).map (fun policy => .obj policy.body)
  metadata : ∀ (policyTypeId : Nat) (policyInstanceId : String),
    world.sdl.get (generateInstanceMetadataKey policyTypeId policyInstanceId) =
      (registry.policies policyTypeId policyInstanceId).map Policy.metadata
  timers : registry.timers = world.timers.map
    (fun timer => ⟨timer.policyTypeId, timer.policyInstanceId, timer.asleep⟩)

theorem represents_empty : Represents World.empty Registry.empty where
  types := fun _ => KeyValue.get_empty _
  instances := fun _ _ => KeyValue.get_empty _
  metadata := fun _ _ => KeyValue.get_empty _
  timers := rfl

namespace Represents

variable {world : World} {registry : Registry} (represents : Represents world registry)

include represents

theorem valid_iff (policyTypeId : Nat) (policyInstanceId : String) :
    Valid world policyTypeId policyInstanceId ↔ registry.Valid policyTypeId policyInstanceId := by
  rw [Valid, Registry.Valid, represents.types, represents.instances]
  simp only [Option.isSome_map]

theorem typed_iff (policyTypeId : Nat) :
    (world.sdl.get (generateTypeKey policyTypeId)).isSome ↔
      (registry.types policyTypeId).isSome := by
  rw [represents.types, Option.isSome_map]

theorem empty_iff (policyTypeId : Nat) :
    Empty world.sdl policyTypeId ↔
      ∀ policyInstanceId, registry.policies policyTypeId policyInstanceId = none := by
  constructor
  · intro empty policyInstanceId
    have absent := empty policyInstanceId
    rw [represents.instances] at absent
    exact Option.map_eq_none_iff.mp absent
  · intro absent policyInstanceId
    rw [represents.instances, absent policyInstanceId]
    rfl

end Represents

end NearRtRic.A1
