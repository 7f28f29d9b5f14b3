import NearRtRic.A1.Controller
import NearRtRic.A1.Outline
import NearRtRic.A1.StepEffect
import NearRtRic.Library.Relay

/-! From an accepted PUT or DELETE to the message that announces it. -/

namespace NearRtRic.A1

/-- The arguments of `_send_msg`, with the payload before it is dumped and encoded. -/
structure Message where
  pay : Json
  mtype : Int
  subid : Nat
  deriving DecidableEq

def policyRequest (item : SendItem) : Message :=
  ⟨a1ToHandler item.operation (.int item.policyTypeId) item.policyInstanceId item.payload,
    A1_POLICY_REQUEST, item.policyTypeId⟩

def SendItem.place (item : SendItem) : Place := ⟨item.policyTypeId, item.policyInstanceId⟩

/-- A handler up to `queue_instance_send`, with the item that it will put there. -/
def PolicyWrite.storeStep (settings : Settings) (validate : Json → Json → Verdict) :
    PolicyWrite → A1M SendItem
  | .createOrReplace policyTypeId policyInstanceId body creationTimestamp => do
      let policyType ← getPolicyType policyTypeId
      let schema ← ofItem ((policyType.getD .null).getItem "create_schema")
      ofVerdict (validate (.obj body) schema)
      let operation ← storePolicyInstance policyTypeId policyInstanceId body creationTimestamp
      pure ⟨operation, policyTypeId, policyInstanceId, .obj body⟩
  | .delete policyTypeId policyInstanceId deletedTimestamp => do
      deletePolicyInstance settings policyTypeId policyInstanceId deletedTimestamp
      pure ⟨"DELETE", policyTypeId, policyInstanceId, .str ""⟩

theorem handler_eq_storeStep (settings : Settings) (validate : Json → Json → Verdict)
    (request : PolicyWrite) :
    request.handler settings validate =
      (request.storeStep settings validate >>= fun item =>
        queueInstanceSend item >>= fun _ => pure ⟨.text "", 202⟩) := by
  cases request with
  | createOrReplace policyTypeId policyInstanceId body creationTimestamp =>
      simp only [PolicyWrite.handler, putInstanceHandler, PolicyWrite.storeStep,
        Program.bind_assoc, Program.pure_eq, Program.done_bind]
  | delete policyTypeId policyInstanceId deletedTimestamp =>
      simp only [PolicyWrite.handler, deleteInstanceHandler, PolicyWrite.storeStep,
        Program.bind_assoc, Program.pure_eq, Program.done_bind]

def PolicyWrite.place : PolicyWrite → Place
  | .createOrReplace policyTypeId policyInstanceId _ _ => ⟨policyTypeId, policyInstanceId⟩
  | .delete policyTypeId policyInstanceId _ => ⟨policyTypeId, policyInstanceId⟩

/-- The item of a PUT carries the stored value, the item of a DELETE says so. -/
def PolicyWrite.Announced (world : World) (item : SendItem) : PolicyWrite → Prop
  | .createOrReplace _ _ _ _ =>
      item.operation ≠ "DELETE" ∧ world.sdl.get item.place.instanceKey = some item.payload
  | .delete _ _ _ => item.operation = "DELETE"

structure Stored (request : PolicyWrite) (world after : World) (item : SendItem) : Prop where
  queue : after.sendQueue = world.sendQueue
  place : item.place = request.place
  announced : request.Announced after item
  others : ∀ place, place ≠ request.place →
    after.sdl.get place.instanceKey = world.sdl.get place.instanceKey

section StoreStep

variable {settings : Settings} {validate : Json → Json → Verdict} {world after : World}
variable {item : SendItem}

theorem putStore_stored {policyTypeId : Nat} {policyInstanceId : String} {body : Body}
    {creationTimestamp : String}
    (returned : (PolicyWrite.storeStep settings validate (.createOrReplace policyTypeId
      policyInstanceId body creationTimestamp)).run service world = (.ok item, after)) :
    Stored (.createOrReplace policyTypeId policyInstanceId body creationTimestamp) world after
      item := by
  rw [PolicyWrite.storeStep] at returned
  cases typed : world.sdl.get (generateTypeKey policyTypeId) with
  | none =>
      rw [Program.run_bind_error service _ (getPolicyType_raises typed)] at returned
      cases returned
  | some typeBody =>
      rw [Program.run_bind_ok service _ (getPolicyType_run typed), Option.getD_some] at returned
      cases found : typeBody.getItem "create_schema" with
      | error error =>
          simp only [found, ofItem, Program.raise_bind, Program.run_raise] at returned
          cases returned
      | ok schema =>
          simp only [found, ofItem, Program.done_bind] at returned
          cases verdict : validate (.obj body) schema with
          | valid =>
              simp only [verdict, ofVerdict, Program.done_bind] at returned
              rw [Program.run_bind_ok service _ (storePolicyInstance_run body creationTimestamp
                typed), Program.pure_eq, Program.run_done] at returned
              cases returned
              refine ⟨rfl, rfl, ⟨?_, ?_⟩, ?_⟩
              · split <;> simp
              · rw [SendItem.place, Place.instanceKey, get_stored_instance, if_pos ⟨rfl, rfl⟩]
              · intro place differ
                rw [Place.instanceKey, get_stored_instance, if_neg]
                intro same
                apply differ
                rw [PolicyWrite.place, ← same.1, ← same.2]
          | invalid =>
              simp only [verdict, ofVerdict, Program.raise_bind, Program.run_raise] at returned
              cases returned
          | badSchema =>
              simp only [verdict, ofVerdict, Program.raise_bind, Program.run_raise] at returned
              cases returned

theorem deleteStore_stored {policyTypeId : Nat} {policyInstanceId deletedTimestamp : String}
    (returned : (PolicyWrite.storeStep settings validate (.delete policyTypeId policyInstanceId
      deletedTimestamp)).run service world = (.ok item, after)) :
    Stored (.delete policyTypeId policyInstanceId deletedTimestamp) world after item := by
  rw [PolicyWrite.storeStep] at returned
  by_cases deletable : ∃ createdAt, Deletable world policyTypeId policyInstanceId createdAt
  · rcases deletable with ⟨createdAt, deletable⟩
    rw [Program.run_bind_ok service _ (deletePolicyInstance_deletable settings deletedTimestamp
      deletable), Program.pure_eq, Program.run_done] at returned
    cases returned
    refine ⟨rfl, rfl, rfl, ?_⟩
    intro place _
    exact KeyValue.get_set_other _ _ (instance_ne_metadata _ _ _ _)
  · rcases deletePolicyInstance_not_deletable settings deletedTimestamp
      (not_exists.mp deletable) with ⟨error, raised⟩
    rw [Program.run_bind_error service _ raised] at returned
    cases returned

theorem storeStep_stored {request : PolicyWrite}
    (returned : (request.storeStep settings validate).run service world = (.ok item, after)) :
    Stored request world after item := by
  cases request with
  | createOrReplace => exact putStore_stored returned
  | delete => exact deleteStore_stored returned

theorem storeStep_raises {request : PolicyWrite} {error : A1Error}
    (raised : (request.storeStep settings validate).run service world = (.error error, after)) :
    after = world := by
  have failed : (request.handler settings validate).run service world = (.error error, after) := by
    rw [handler_eq_storeStep, Program.run_bind_error service _ raised]
  cases undisturbed settings validate request world with
  | refused other code accepted raises reads =>
      rw [raises] at failed
      exact (congrArg Prod.snd failed).symm
  | accepted last returns calls outside =>
      rcases returns with ⟨response, ended, returned, _⟩
      rw [returned] at failed
      cases failed

end StoreStep

/-- Where a `_handle_sends` thread stands in its loop over the queue. -/
inductive Sender where
  | looking
  | found
  | holding (item : SendItem)
  | ended
  deriving DecidableEq

def Sender.held : Sender → Option SendItem
  | .holding item => some item
  | _ => none

structure Accepted where
  request : PolicyWrite
  item : SendItem
  deriving DecidableEq

/-- A1 with its request threads between store step and queue, and its sender threads. The accepted
requests are history only. -/
structure Southbound where
  world : World
  requests : List (Option SendItem)
  senders : List Sender
  sent : List SendItem
  accepted : List Accepted

namespace Southbound

inductive Event where
  | store (request : PolicyWrite)
  | enqueue (index : Nat)
  | startSender
  | senderTurn (index : Nat)
  deriving DecidableEq

def start (sdl : KeyValue Json) : Southbound := ⟨⟨sdl, [], []⟩, [], [], [], []⟩

/-- One turn of `while not self.instance_send_queue.empty()`: the test, the `get`, which raises when
another thread has emptied the queue since, and the sending. -/
def senderTurn (southbound : Southbound) (index : Nat) : Southbound :=
  match southbound.senders[index]? with
  | some .looking =>
      if southbound.world.sendQueue = [] then
        { southbound with senders := southbound.senders.set index .ended }
      else
        { southbound with senders := southbound.senders.set index .found }
  | some .found =>
      match southbound.world.sendQueue with
      | [] => { southbound with senders := southbound.senders.set index .ended }
      | item :: rest =>
          { southbound with
            world := { southbound.world with sendQueue := rest }
            senders := southbound.senders.set index (.holding item) }
  | some (.holding item) =>
      { southbound with
        senders := southbound.senders.set index .looking
        sent := southbound.sent ++ [item] }
  | _ => southbound

section

variable (settings : Settings) (validate : Json → Json → Verdict)

def step (southbound : Southbound) : Event → Southbound
  | .store request =>
      match (request.storeStep settings validate).run service southbound.world with
      | (.ok item, after) =>
          { southbound with
            world := after
            requests := southbound.requests ++ [some item]
            accepted := southbound.accepted ++ [⟨request, item⟩] }
      | (.error _, after) => { southbound with world := after }
  | .enqueue index =>
      match southbound.requests[index]? with
      | some (some item) =>
          { southbound with
            world := service.effect (.queuePut item) southbound.world
            requests := southbound.requests.set index none }
      | _ => southbound
  | .startSender => { southbound with senders := southbound.senders ++ [.looking] }
  | .senderTurn index => southbound.senderTurn index

end

/-- The handing over of the items, without the store. -/
def relay (southbound : Southbound) : Relay SendItem where
  produced := southbound.accepted.map Accepted.item
  waiting := southbound.requests.filterMap id
  queue := southbound.world.sendQueue
  held := southbound.senders.filterMap Sender.held
  delivered := southbound.sent

/-- A request is stored only while no other of its instance waits to be queued, and an item is
dequeued only while no other sender holds an item of its instance. -/
structure Apart (settings : Settings) (validate : Json → Json → Verdict) (southbound : Southbound)
    (event : Event) : Prop where
  stores : ∀ request item after, event = .store request →
    (request.storeStep settings validate).run service southbound.world = (.ok item, after) →
      ∀ other, some other ∈ southbound.requests → other.place ≠ item.place
  takes : ∀ index item rest, event = .senderTurn index →
    southbound.senders[index]? = some .found → southbound.world.sendQueue = item :: rest →
      ∀ other, Sender.holding other ∈ southbound.senders → other.place ≠ item.place

variable {settings : Settings} {validate : Json → Json → Verdict} {southbound : Southbound}

theorem filterMap_set {Element : Type} (view : Element → Option SendItem)
    {elements : List Element} {index : Nat} {element : Element}
    (found : elements[index]? = some element) :
    ∃ front back, elements.filterMap view = front ++ (view element).toList ++ back ∧
      ∀ other, (elements.set index other).filterMap view =
        front ++ (view other).toList ++ back := by
  rcases Relay.split_set found with ⟨front, back, whole, replaced⟩
  have around : ∀ middle : Element, (front ++ middle :: back).filterMap view =
      front.filterMap view ++ (view middle).toList ++ back.filterMap view := by
    intro middle
    rw [List.filterMap_append, List.append_assoc]
    cases seen : view middle with
    | none => rw [List.filterMap_cons_none seen]; rfl
    | some item => rw [List.filterMap_cons_some seen]; rfl
  refine ⟨front.filterMap view, back.filterMap view, ?_, ?_⟩
  · rw [whole, around]
  · intro other
    rw [replaced, around]

theorem held_unchanged {senders : List Sender} {index : Nat} {before : Sender} (after : Sender)
    (found : senders[index]? = some before) (empty : before.held = none)
    (still : after.held = none) :
    (senders.set index after).filterMap Sender.held = senders.filterMap Sender.held := by
  rcases filterMap_set Sender.held found with ⟨front, back, whole, replaced⟩
  rw [replaced, whole, empty, still]

theorem relay_looking {index : Nat} (found : southbound.senders[index]? = some .looking) :
    (southbound.senderTurn index).relay = southbound.relay := by
  simp only [senderTurn, found]
  split
  · rw [relay, held_unchanged .ended found rfl rfl]
    rfl
  · rw [relay, held_unchanged .found found rfl rfl]
    rfl

theorem relay_found {index : Nat} (apart : Apart settings validate southbound (.senderTurn index))
    (found : southbound.senders[index]? = some .found) :
    (southbound.senderTurn index).relay = southbound.relay ∨
      Relay.Step SendItem.place southbound.relay (southbound.senderTurn index).relay := by
  cases queued : southbound.world.sendQueue with
  | nil =>
      left
      simp only [senderTurn, found, queued]
      rw [relay, held_unchanged .ended found rfl rfl]
      rfl
  | cons item rest =>
      right
      rcases filterMap_set Sender.held found with ⟨front, back, whole, replaced⟩
      have before : southbound.relay.held = front ++ back := by
        rw [relay, whole]
        exact congrArg (· ++ back) (List.append_nil front)
      have after : (southbound.senderTurn index).relay =
          { southbound.relay with
            queue := rest
            held := front ++ item :: back } := by
        have middle := replaced (.holding item)
        rw [List.append_assoc] at middle
        simp only [senderTurn, found, queued, relay, middle]
        rfl
      rw [after]
      apply Relay.Step.take front back rest item queued before
      intro other member
      rcases List.mem_filterMap.mp member with ⟨sender, inside, holds⟩
      cases sender with
      | holding held =>
          cases Option.some.inj holds
          exact apart.takes index item rest rfl found queued other inside
      | _ => cases holds

theorem relay_holding {index : Nat} {item : SendItem}
    (found : southbound.senders[index]? = some (.holding item)) :
    Relay.Step SendItem.place southbound.relay (southbound.senderTurn index).relay := by
  rcases filterMap_set Sender.held found with ⟨front, back, whole, replaced⟩
  have before : southbound.relay.held = front ++ item :: back := by
    rw [relay, whole, List.append_assoc]
    rfl
  have after : (southbound.senderTurn index).relay =
      { southbound.relay with
        held := front ++ back
        delivered := southbound.relay.delivered ++ [item] } := by
    have middle := replaced .looking
    rw [List.append_assoc] at middle
    simp only [senderTurn, found, relay, middle]
    rfl
  rw [after]
  exact Relay.Step.deliver front back item before

theorem relay_enqueue (index : Nat) :
    (step settings validate southbound (.enqueue index)).relay = southbound.relay ∨
      Relay.Step SendItem.place southbound.relay
        (step settings validate southbound (.enqueue index)).relay := by
  cases found : southbound.requests[index]? with
  | none => exact .inl (by simp only [step, found])
  | some request =>
      cases request with
      | none => exact .inl (by simp only [step, found])
      | some item =>
          right
          rcases filterMap_set id found with ⟨front, back, whole, replaced⟩
          have before : southbound.relay.waiting = front ++ item :: back := by
            rw [relay, whole, List.append_assoc]
            rfl
          have after : (step settings validate southbound (.enqueue index)).relay =
              { southbound.relay with
                waiting := front ++ back
                queue := southbound.relay.queue ++ [item] } := by
            have middle := replaced none
            rw [List.append_assoc] at middle
            simp only [step, found, relay, middle]
            rfl
          rw [after]
          exact Relay.Step.enqueue front back item before

theorem relay_store {request : PolicyWrite}
    (apart : Apart settings validate southbound (.store request)) :
    (step settings validate southbound (.store request)).relay = southbound.relay ∨
      Relay.Step SendItem.place southbound.relay
        (step settings validate southbound (.store request)).relay := by
  cases ran : (request.storeStep settings validate).run service southbound.world with
  | mk outcome after =>
      cases outcome with
      | error error =>
          left
          simp only [step, ran, storeStep_raises ran]
      | ok item =>
          right
          have stored : (step settings validate southbound (.store request)).relay =
              { southbound.relay with
                produced := southbound.relay.produced ++ [item]
                waiting := southbound.relay.waiting ++ [item] } := by
            simp only [step, ran, relay, (storeStep_stored ran).queue, List.map_append,
              List.filterMap_append]
            rfl
          rw [stored]
          apply Relay.Step.produce item
          intro other member
          rcases List.mem_filterMap.mp member with ⟨waiting, inside, same⟩
          have waits : waiting = some other := same
          exact apart.stores request item after rfl ran other (waits ▸ inside)

/-- A step is a step of the relay, or hands over nothing. -/
theorem relay_step {event : Event} (apart : Apart settings validate southbound event) :
    (step settings validate southbound event).relay = southbound.relay ∨
      Relay.Step SendItem.place southbound.relay
        (step settings validate southbound event).relay := by
  cases event with
  | store request => exact relay_store apart
  | enqueue index => exact relay_enqueue index
  | startSender =>
      left
      have none : [Sender.looking].filterMap Sender.held = [] := rfl
      simp only [step, relay, List.filterMap_append, none, List.append_nil]
  | senderTurn index =>
      rw [step]
      cases found : southbound.senders[index]? with
      | none => exact .inl (by simp only [senderTurn, found])
      | some sender =>
          cases sender with
          | looking => exact .inl (relay_looking found)
          | found => exact relay_found apart found
          | holding item => exact .inr (relay_holding found)
          | ended => exact .inl (by simp only [senderTurn, found])

def acceptedOn (southbound : Southbound) (place : Place) : List Accepted :=
  southbound.accepted.filter (fun accepted => accepted.item.place = place)

def messagesOn (southbound : Southbound) (place : Place) : List Message :=
  (southbound.sent.filter (fun item => item.place = place)).map policyRequest

def Drained (southbound : Southbound) : Prop :=
  (∀ item, some item ∉ southbound.requests) ∧ southbound.world.sendQueue = [] ∧
    ∀ item, Sender.holding item ∉ southbound.senders

/-- The item of the last accepted operation of an instance announces what is stored. -/
def Recorded (southbound : Southbound) : Prop :=
  ∀ place last, (southbound.acceptedOn place).getLast? = some last →
    last.request.Announced southbound.world last.item

theorem acceptedOn_place {place : Place} {last : Accepted}
    (found : (southbound.acceptedOn place).getLast? = some last) : last.item.place = place := by
  have member := List.mem_of_getLast? found
  simpa using (List.mem_filter.mp member).2

theorem announced_kept {request : PolicyWrite} {item : SendItem} {world after : World}
    (announced : request.Announced world item)
    (kept : after.sdl.get item.place.instanceKey = world.sdl.get item.place.instanceKey) :
    request.Announced after item := by
  cases request with
  | createOrReplace => exact ⟨announced.1, kept.trans announced.2⟩
  | delete => exact announced

theorem recorded_kept {after : Southbound} (recorded : southbound.Recorded)
    (accepted : after.accepted = southbound.accepted)
    (kept : after.world.sdl = southbound.world.sdl) : after.Recorded := by
  intro place last found
  rw [acceptedOn, accepted] at found
  exact announced_kept (recorded place last found) (by rw [kept])

theorem recorded_step (recorded : southbound.Recorded) (event : Event) :
    (step settings validate southbound event).Recorded := by
  cases event with
  | store request =>
      cases ran : (request.storeStep settings validate).run service southbound.world with
      | mk outcome after =>
          cases outcome with
          | error error =>
              apply recorded_kept recorded
              · simp only [step, ran]
              · simp only [step, ran, storeStep_raises ran]
          | ok item =>
              have stored := storeStep_stored ran
              intro place last found
              simp only [step, ran] at found ⊢
              rw [acceptedOn, List.filter_append] at found
              by_cases same : item.place = place
              · rw [List.filter_cons_of_pos (by simpa using same), List.filter_nil,
                  List.getLast?_append_cons] at found
                cases found
                exact stored.announced
              · rw [List.filter_cons_of_neg (by simpa using same), List.filter_nil,
                  List.append_nil] at found
                have lastPlace : last.item.place = place := acceptedOn_place found
                apply announced_kept (recorded place last found)
                apply stored.others
                rw [lastPlace, ← stored.place]
                exact fun equal => same equal.symm
  | enqueue index =>
      have kept : (step settings validate southbound (.enqueue index)).accepted =
          southbound.accepted ∧ (step settings validate southbound (.enqueue index)).world.sdl =
            southbound.world.sdl := by
        rw [step]
        split
        · exact ⟨rfl, rfl⟩
        · exact ⟨rfl, rfl⟩
      exact recorded_kept recorded kept.1 kept.2
  | startSender => exact recorded_kept recorded rfl rfl
  | senderTurn index =>
      have kept : (southbound.senderTurn index).accepted = southbound.accepted ∧
          (southbound.senderTurn index).world.sdl = southbound.world.sdl := by
        rw [senderTurn]
        split
        · split
          · exact ⟨rfl, rfl⟩
          · exact ⟨rfl, rfl⟩
        · split
          · exact ⟨rfl, rfl⟩
          · exact ⟨rfl, rfl⟩
        · exact ⟨rfl, rfl⟩
        · exact ⟨rfl, rfl⟩
      exact recorded_kept recorded kept.1 kept.2

theorem inOrder_start (sdl : KeyValue Json) :
    Relay.InOrder SendItem.place (start sdl).relay where
  order := fun _ => rfl
  holdsOne := fun _ => Nat.zero_le 1
  waitsOne := fun _ => Nat.zero_le 1

theorem relay_drained (drained : southbound.Drained) : southbound.relay.Drained := by
  refine ⟨?_, drained.2.1, ?_⟩
  · apply List.filterMap_eq_nil_iff.mpr
    intro request member
    cases request with
    | none => rfl
    | some item => exact absurd member (drained.1 item)
  · apply List.filterMap_eq_nil_iff.mpr
    intro sender member
    cases sender with
    | holding item => exact absurd member (drained.2.2 item)
    | _ => rfl

theorem produced_on (place : Place) :
    Relay.on SendItem.place southbound.relay.produced place =
      (southbound.acceptedOn place).map Accepted.item := by
  rw [Relay.on, relay, List.filter_map]
  rfl

end Southbound

open Southbound in
/-- In every interleaving that stores an operation of an instance only while no other one of it
waits to be queued, and dequeues one only while no other one of it is held, the messages of every
instance are sent in the order of the store steps, and the last one tells what is stored. -/
theorem sent_in_store_order_while_apart (settings : Settings)
    (validate : Json → Json → Verdict) (sdl : KeyValue Json) (events : List Southbound.Event)
    (along : Runs.Along (Southbound.step settings validate)
      (Southbound.Apart settings validate) (Southbound.start sdl) events) :
    let southbound := Runs.run (Southbound.step settings validate) (Southbound.start sdl) events
    ∀ place,
      southbound.messagesOn place <+:
          (southbound.acceptedOn place).map (fun accepted => policyRequest accepted.item) ∧
        (southbound.Drained →
          southbound.messagesOn place =
              (southbound.acceptedOn place).map (fun accepted => policyRequest accepted.item) ∧
            ∀ last, (southbound.acceptedOn place).getLast? = some last →
              (southbound.messagesOn place).getLast? = some (policyRequest last.item) ∧
                last.request.Announced southbound.world last.item) := by
  intro southbound place
  have invariant := Runs.run_invariant
    (fun current => Relay.InOrder SendItem.place (Southbound.relay current) ∧
      Southbound.Recorded current)
    (fun current event before apart => ⟨by
      rcases relay_step apart with same | stepped
      · rw [same]
        exact before.1
      · exact Relay.inOrder_step before.1 stepped, recorded_step before.2 event⟩)
    (Southbound.start sdl) events ⟨inOrder_start sdl, fun _ _ found => by cases found⟩ along
  have order : southbound.messagesOn place <+:
      (southbound.acceptedOn place).map (fun accepted => policyRequest accepted.item) := by
    have started := (Relay.delivered_prefix invariant.1 place).map policyRequest
    rw [produced_on, List.map_map] at started
    exact started
  refine ⟨order, ?_⟩
  intro drained
  have whole : southbound.messagesOn place =
      (southbound.acceptedOn place).map (fun accepted => policyRequest accepted.item) := by
    have same := congrArg (List.map policyRequest)
      (Relay.delivered_of_drained invariant.1 (relay_drained drained) place)
    rw [produced_on, List.map_map] at same
    exact same
  refine ⟨whole, ?_⟩
  intro last found
  refine ⟨?_, invariant.2 place last found⟩
  rw [whole, List.getLast?_map, found]
  rfl

def oneType : KeyValue Json :=
  (Runs.run (step {}) World.empty [.request (.storePolicyType 1
    [("policy_type_id", .int 1), ("create_schema", .obj [])])]).sdl

namespace Southbound

/-- The test of `Apart` in a state. -/
def clear (southbound : Southbound) : Event → Bool
  | .store request =>
      (southbound.requests.filterMap id).all fun other => other.place ≠ request.place
  | .senderTurn index =>
      southbound.senders[index]? ≠ some .found ||
        (southbound.world.sendQueue.take 1).all fun item =>
          (southbound.senders.filterMap Sender.held).all fun other => other.place ≠ item.place
  | _ => true

theorem apart_of_clear {event : Event} (cleared : southbound.clear event = true) :
    Apart settings validate southbound event where
  stores := by
    rintro request item after rfl ran other waits
    rw [(storeStep_stored ran).place]
    have differ := List.all_eq_true.mp cleared other (List.mem_filterMap.mpr ⟨_, waits, rfl⟩)
    exact of_decide_eq_true differ
  takes := by
    rintro index item rest rfl found queued other holds
    simp only [clear, found, queued, List.take_succ_cons, List.take_zero, List.all_cons,
      List.all_nil, Bool.and_true, ne_eq, not_true_eq_false, decide_false, Bool.false_or] at cleared
    have differ := List.all_eq_true.mp cleared other (List.mem_filterMap.mpr ⟨_, holds, rfl⟩)
    exact of_decide_eq_true differ

/-- The instance "a" is stored again while the first sender holds its item, and its second item is
held by the second sender while the first one sends that of "b". -/
def twoSenders : List Event :=
  [.store (.createOrReplace 1 "a" [("x", .int 1)] "0.0"), .enqueue 0, .startSender, .senderTurn 0,
    .senderTurn 0, .store (.createOrReplace 1 "a" [("x", .int 2)] "1.0"), .enqueue 1,
    .store (.createOrReplace 1 "b" [] "2.0"), .enqueue 2, .startSender, .senderTurn 0,
    .senderTurn 1, .senderTurn 1, .senderTurn 0, .senderTurn 0, .senderTurn 0, .senderTurn 1]

end Southbound

open Southbound in
theorem two_puts_are_sent :
    let southbound := Runs.run (Southbound.step {} (fun _ _ => .valid)) (Southbound.start oneType)
      twoSenders
    (southbound.acceptedOn ⟨1, "a"⟩).length = 2 ∧
      ∀ place, southbound.messagesOn place =
          (southbound.acceptedOn place).map (fun accepted => policyRequest accepted.item) ∧
        ∀ last, (southbound.acceptedOn place).getLast? = some last →
          (southbound.messagesOn place).getLast? = some (policyRequest last.item) ∧
            last.request.Announced southbound.world last.item := by
  intro southbound
  have drained : southbound.Drained := by
    have requests : southbound.requests = [none, none, none] := by decide +kernel
    have senders : southbound.senders = [.looking, .looking] := by decide +kernel
    refine ⟨fun item member => ?_, by decide +kernel, fun item member => ?_⟩
    · rw [requests] at member
      simp at member
    · rw [senders] at member
      simp at member
  have along : Runs.Along (Southbound.step {} (fun _ _ => .valid))
      (fun southbound event => southbound.clear event = true) (Southbound.start oneType)
      twoSenders := by decide +kernel
  refine ⟨by decide +kernel, fun place => ?_⟩
  exact (sent_in_store_order_while_apart {} (fun _ _ => .valid) oneType twoSenders
    (Runs.along_mono (fun _ _ cleared => apart_of_clear cleared) along) place).2 drained

open Southbound in
/-- Two senders that each hold an item: the handler is left with the older value. -/
theorem overlapping_senders_swap_messages :
    let events : List Southbound.Event :=
      [.store (.createOrReplace 1 "a" [("x", .int 1)] "0.0"), .enqueue 0,
        .store (.createOrReplace 1 "a" [("x", .int 2)] "1.0"), .enqueue 1, .startSender,
        .senderTurn 0, .senderTurn 0, .startSender, .senderTurn 1, .senderTurn 1, .senderTurn 1,
        .senderTurn 0]
    let southbound := Runs.run (Southbound.step {} (fun _ _ => .valid)) (Southbound.start oneType)
      events
    southbound.Drained ∧
      (southbound.acceptedOn ⟨1, "a"⟩).getLast?.map Accepted.request =
        some (.createOrReplace 1 "a" [("x", .int 2)] "1.0") ∧
      southbound.world.sdl.get (Place.instanceKey ⟨1, "a"⟩) = some (.obj [("x", .int 2)]) ∧
      (southbound.messagesOn ⟨1, "a"⟩).getLast? =
        some (policyRequest ⟨"CREATE", 1, "a", .obj [("x", .int 1)]⟩) := by
  intro events southbound
  refine ⟨?_, by decide +kernel, by decide +kernel, by decide +kernel⟩
  have requests : southbound.requests = [none, none] := by decide +kernel
  have senders : southbound.senders = [.looking, .looking] := by decide +kernel
  refine ⟨?_, by decide +kernel, ?_⟩
  · intro item member
    rw [requests] at member
    simp at member
  · intro item member
    rw [senders] at member
    simp at member

end NearRtRic.A1
