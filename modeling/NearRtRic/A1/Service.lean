import NearRtRic.Library.Json
import NearRtRic.Library.KeyValue
import NearRtRic.Library.Pool

/-! What A1's functions use: the shared data layer, timer threads and the send queue. -/

namespace NearRtRic.A1

/-- The exceptions of the SDL client. -/
inductive SdlError where
  | rejectedByBackend
  | notConnected
  | backendError
  deriving DecidableEq, Repr

inductive A1Error where
  | policyTypeNotFound (policyTypeId : String)
  | policyInstanceNotFound (policyTypeId : String)
  | policyTypeAlreadyExists (policyTypeId : String)
  | policyTypeIdMismatch (policyTypeId : String) (bodyId : Json)
  | cantDeleteNonEmptyType (policyTypeId : String)
  | validationError
  /-- Raised by `validate` on a type whose schema is none. -/
  | schemaError
  | item (error : Json.ItemError)
  | sdl (error : SdlError)
  deriving DecidableEq

/-- A thread that runs `_delete_after`. It is `asleep` once it has found the instance valid. -/
structure Timer where
  policyTypeId : Nat
  policyInstanceId : String
  ttl : Int
  asleep : Bool
  deriving DecidableEq, Repr

/-- An item of the southbound queue: the arguments of `a1_to_handler`. -/
structure SendItem where
  operation : String
  policyTypeId : Nat
  policyInstanceId : String
  payload : Json
  deriving DecidableEq

/-- The payload for the downstream policy handlers. -/
def a1ToHandler (operation : String) (policyTypeId : Json) (policyInstanceId : String)
    (payload : Json) : Json :=
  .obj [("operation", .str operation), ("policy_type_id", policyTypeId),
    ("policy_instance_id", .str policyInstanceId), ("payload", payload)]

def A1_POLICY_REQUEST : Int := 20010

/-- The calls A1 makes; the first four go to the SDL. -/
inductive Call where
  | get (key : String)
  | set (key : String) (value : Json)
  | delete (key : String)
  | findAndGet (start : String)
  | sleep (seconds : Int)
  | startTimer (policyTypeId : Nat) (policyInstanceId : String) (ttl : Int)
  | queuePut (item : SendItem)
  deriving DecidableEq

def Call.isSdl : Call → Bool
  | .get _ | .set _ _ | .delete _ | .findAndGet _ => true
  | _ => false

@[reducible] def Answer : Call → Type
  | .get _ => Option Json
  | .findAndGet _ => List (String × Json)
  | _ => Unit

structure World where
  sdl : KeyValue Json
  timers : List Timer
  sendQueue : List SendItem
  deriving DecidableEq

def World.empty : World := ⟨∅, [], []⟩

def answer : (request : Call) → World → Answer request
  | .get key, world => world.sdl.get key
  | .findAndGet start, world => world.sdl.findAndGet start
  | .set _ _, _ => ()
  | .delete _, _ => ()
  | .sleep _, _ => ()
  | .startTimer _ _ _, _ => ()
  | .queuePut _, _ => ()

def effect : Call → World → World
  | .set key value, world => { world with sdl := world.sdl.set key value }
  | .delete key, world => { world with sdl := world.sdl.delete key }
  | .startTimer policyTypeId policyInstanceId ttl, world =>
      { world with timers := world.timers ++ [⟨policyTypeId, policyInstanceId, ttl, false⟩] }
  | .queuePut item, world => { world with sendQueue := world.sendQueue ++ [item] }
  | .get _, world | .findAndGet _, world | .sleep _, world => world

def service : Service Call Answer World := ⟨answer, effect⟩

abbrev A1M (Value : Type) := Program Call Answer A1Error Value

def sdlGet (key : String) : A1M (Option Json) := .call (.get key) .done
def sdlSet (key : String) (value : Json) : A1M Unit := .call (.set key value) .done
def sdlDelete (key : String) : A1M Unit := .call (.delete key) .done
def sdlFindAndGet (start : String) : A1M (List (String × Json)) := .call (.findAndGet start) .done
def sleep (seconds : Int) : A1M Unit := .call (.sleep seconds) .done

def startTimer (policyTypeId : Nat) (policyInstanceId : String) (ttl : Int) : A1M Unit :=
  .call (.startTimer policyTypeId policyInstanceId ttl) .done

def queueInstanceSend (item : SendItem) : A1M Unit := .call (.queuePut item) .done

def raise {Value : Type} (error : A1Error) : A1M Value := .raise error

def ofItem {Value : Type} : Except Json.ItemError Value → A1M Value
  | .ok value => .done value
  | .error error => .raise (.item error)

variable {Value Next : Type}

@[simp] theorem service_answer_get (key : String) (world : World) :
    service.answer (.get key) world = world.sdl.get key := rfl

@[simp] theorem service_answer_findAndGet (start : String) (world : World) :
    service.answer (.findAndGet start) world = world.sdl.findAndGet start := rfl

@[simp] theorem service_effect_get (key : String) (world : World) :
    service.effect (.get key) world = world := rfl

@[simp] theorem service_effect_findAndGet (start : String) (world : World) :
    service.effect (.findAndGet start) world = world := rfl

@[simp] theorem service_effect_sleep (seconds : Int) (world : World) :
    service.effect (.sleep seconds) world = world := rfl

@[simp] theorem service_effect_set (key : String) (value : Json) (world : World) :
    service.effect (.set key value) world = { world with sdl := world.sdl.set key value } := rfl

@[simp] theorem service_effect_delete (key : String) (world : World) :
    service.effect (.delete key) world = { world with sdl := world.sdl.delete key } := rfl

@[simp] theorem service_effect_startTimer (policyTypeId : Nat) (policyInstanceId : String)
    (ttl : Int) (world : World) :
    service.effect (.startTimer policyTypeId policyInstanceId ttl) world =
      { world with timers := world.timers ++ [⟨policyTypeId, policyInstanceId, ttl, false⟩] } :=
  rfl

@[simp] theorem service_effect_queuePut (item : SendItem) (world : World) :
    service.effect (.queuePut item) world =
      { world with sendQueue := world.sendQueue ++ [item] } := rfl

theorem held_after_call {world : World} {request : Call} {key : String}
    (held : (world.sdl.get key).isSome)
    (kept : request ≠ .delete key) : ((service.effect request world).sdl.get key).isSome := by
  cases request with
  | set other value =>
      rw [service_effect_set, KeyValue.get_set]
      split
      · rfl
      · exact held
  | delete other =>
      have differ : key ≠ other := fun same => kept (by rw [same])
      rw [service_effect_delete, KeyValue.get_delete_other _ differ]
      exact held
  | _ => exact held

theorem absent_after_call {world : World} {request : Call} {key : String}
    (absent : world.sdl.get key = none)
    (unset : ∀ value, request ≠ .set key value) :
    (service.effect request world).sdl.get key = none := by
  cases request with
  | set other value =>
      have differ : key ≠ other := fun same => unset value (by rw [same])
      rw [service_effect_set, KeyValue.get_set_other _ _ differ]
      exact absent
  | delete other =>
      rw [service_effect_delete, KeyValue.get_delete]
      split
      · rfl
      · exact absent
  | _ => exact absent

end NearRtRic.A1
