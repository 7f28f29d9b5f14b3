import NearRtRic.A1.Keys
import NearRtRic.A1.Service

/-! The functions of `data.py`, call by call. -/

namespace NearRtRic.A1

/-- The two delays, read from the environment when the module is loaded. -/
structure Settings where
  instanceDeleteNoRespTtl : Int := 5
  instanceDeleteRespTtl : Int := 5
  deriving DecidableEq, Repr

section Shared

/-! Helpers that the RMR loop also reaches with ids of any JSON type. -/

variable {TypeId InstanceId HandlerId : Type}
variable [ToString TypeId] [ToString InstanceId] [ToString HandlerId]

def typeIsValid (policyTypeId : TypeId) : A1M Unit := do
  match ← sdlGet (generateTypeKey policyTypeId) with
  | none => raise (.policyTypeNotFound (toString policyTypeId))
  | some _ => pure ()

def instanceIsValid (policyTypeId : TypeId) (policyInstanceId : InstanceId) : A1M Unit := do
  typeIsValid policyTypeId
  match ← sdlGet (generateInstanceKey policyTypeId policyInstanceId) with
  | none => raise (.policyInstanceNotFound (toString policyTypeId))
  | some _ => pure ()

def getStatuses (policyTypeId : TypeId) (policyInstanceId : InstanceId) : A1M (List Json) := do
  instanceIsValid policyTypeId policyInstanceId
  let found ← sdlFindAndGet (generateHandlerPrefix policyTypeId policyInstanceId)
  pure (found.map Prod.snd)

/-- `k.split(prefixes_for_type)[1]`: a key that was found starts with the separator, so there
is a second piece. -/
def instanceIdOfKey (prefixes key : String) : String :=
  (Text.split key prefixes).getD 1 ""

def getInstanceList (policyTypeId : TypeId) : A1M (List String) := do
  typeIsValid policyTypeId
  let found ← sdlFindAndGet (prefixesForType policyTypeId)
  pure (found.map (fun entry => instanceIdOfKey (prefixesForType policyTypeId) entry.1))

def clearHandlers (policyTypeId : TypeId) (policyInstanceId : InstanceId) : A1M Unit := do
  let found ← sdlFindAndGet (generateHandlerPrefix policyTypeId policyInstanceId)
  Program.forEach (found.map Prod.fst) sdlDelete

def getMetadata (policyTypeId : TypeId) (policyInstanceId : InstanceId) : A1M (Option Json) := do
  instanceIsValid policyTypeId policyInstanceId
  sdlGet (generateInstanceMetadataKey policyTypeId policyInstanceId)

def getPolicyType (policyTypeId : TypeId) : A1M (Option Json) := do
  typeIsValid policyTypeId
  sdlGet (generateTypeKey policyTypeId)

def getPolicyInstance (policyTypeId : TypeId) (policyInstanceId : InstanceId) :
    A1M (Option Json) := do
  instanceIsValid policyTypeId policyInstanceId
  sdlGet (generateInstanceKey policyTypeId policyInstanceId)

def setPolicyInstanceStatus (policyTypeId : TypeId) (policyInstanceId : InstanceId)
    (handlerId : HandlerId) (status : Json) : A1M Unit := do
  typeIsValid policyTypeId
  instanceIsValid policyTypeId policyInstanceId
  sdlSet (generateHandlerKey policyTypeId policyInstanceId handlerId) status

end Shared

/-- The part of `_delete_after` behind `time.sleep`. -/
def deleteExpired (policyTypeId : Nat) (policyInstanceId : String) : A1M Unit := do
  clearHandlers policyTypeId policyInstanceId
  sdlDelete (generateInstanceKey policyTypeId policyInstanceId)
  sdlDelete (generateInstanceMetadataKey policyTypeId policyInstanceId)

def deleteAfter (policyTypeId : Nat) (policyInstanceId : String) (ttl : Int) : A1M Unit := do
  instanceIsValid policyTypeId policyInstanceId
  sleep ttl
  deleteExpired policyTypeId policyInstanceId

/-- `value == number` for a JSON value and an integer below `10 ** 16`. -/
def eqInt (value : Json) (number : Int) : Bool :=
  match value with
  | .int item => item == number
  | .bool item => (if item then 1 else 0) == number
  | .float repr => repr == toString number ++ ".0"
  | _ => false

/-- Request bodies are JSON objects: the API description admits nothing else. -/
abbrev Body := List (String × Json)

def storePolicyType (policyTypeId : Nat) (body : Body) : A1M Unit := do
  let bodyId ← ofItem ((Json.obj body).getItem "policy_type_id")
  if eqInt bodyId policyTypeId then
    let key := generateTypeKey policyTypeId
    match ← sdlGet key with
    | some _ => raise (.policyTypeAlreadyExists (toString policyTypeId))
    | none => sdlSet key (.obj body)
  else
    raise (.policyTypeIdMismatch (toString policyTypeId) bodyId)

def deletePolicyType (policyTypeId : Nat) : A1M Unit := do
  let pil ← getInstanceList policyTypeId
  if pil = [] then
    sdlDelete (generateTypeKey policyTypeId)
  else
    raise (.cantDeleteNonEmptyType (toString policyTypeId))

def storedMetadata (creationTimestamp : String) : Json :=
  .obj [("created_at", .float creationTimestamp), ("has_been_deleted", .bool false)]

/-- The end of `store_policy_instance`: both writes, with the operation found before them. -/
def storeInstance (policyTypeId : Nat) (policyInstanceId : String) (body : Body)
    (creationTimestamp operation : String) : A1M String := do
  sdlSet (generateInstanceKey policyTypeId policyInstanceId) (.obj body)
  sdlSet (generateInstanceMetadataKey policyTypeId policyInstanceId)
    (storedMetadata creationTimestamp)
  pure operation

def storePolicyInstance (policyTypeId : Nat) (policyInstanceId : String) (body : Body)
    (creationTimestamp : String) : A1M String := do
  typeIsValid policyTypeId
  match ← sdlGet (generateInstanceKey policyTypeId policyInstanceId) with
  | some _ =>
      clearHandlers policyTypeId policyInstanceId
      storeInstance policyTypeId policyInstanceId body creationTimestamp "UPDATE"
  | none => storeInstance policyTypeId policyInstanceId body creationTimestamp "CREATE"

def deletedMetadata (createdAt : Json) (deletedTimestamp : String) : Json :=
  .obj [("created_at", createdAt), ("has_been_deleted", .bool true),
    ("deleted_at", .float deletedTimestamp)]

/-- The delay that `delete_policy_instance` chooses from the statuses. -/
def deletionTtl (settings : Settings) (vector : List Json) : Int :=
  if vector = [] then
    settings.instanceDeleteNoRespTtl
  else
    max settings.instanceDeleteRespTtl settings.instanceDeleteNoRespTtl

def deletePolicyInstance (settings : Settings) (policyTypeId : Nat) (policyInstanceId : String)
    (deletedTimestamp : String) : A1M Unit := do
  instanceIsValid policyTypeId policyInstanceId
  let existingMetadata ← getMetadata policyTypeId policyInstanceId
  let createdAt ← ofItem ((existingMetadata.getD .null).getItem "created_at")
  sdlSet (generateInstanceMetadataKey policyTypeId policyInstanceId)
    (deletedMetadata createdAt deletedTimestamp)
  let vector ← getStatuses policyTypeId policyInstanceId
  startTimer policyTypeId policyInstanceId (deletionTtl settings vector)

def getPolicyInstanceStatus (policyTypeId : Nat) (policyInstanceId : String) : A1M Json := do
  instanceIsValid policyTypeId policyInstanceId
  let metadata ← getMetadata policyTypeId policyInstanceId
  let notInEffect ←
    ofItem ((metadata.getD .null).setItem "instance_status" (.str "NOT IN EFFECT"))
  let statuses ← getStatuses policyTypeId policyInstanceId
  if statuses.any (fun status => status == .str "OK") then
    ofItem (notInEffect.setItem "instance_status" (.str "IN EFFECT"))
  else
    pure notInEffect

end NearRtRic.A1
