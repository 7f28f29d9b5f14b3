import Mathlib.Tactic
import NearRtRic.E2T.Dispatch
import NearRtRic.Kpimon.SubscribeLoop

/-! Subscription and delete requests of KPIMON, their way through the E2 termination to the
RANs, and the way of the outcomes back. -/

namespace NearRtRic.Kpimon

open E2T (RmrType E2apPdu)

inductive Handler
  | handleIndication
  | handleSubscriptionResponse
  | handleSubscriptionFailure
  | handleSubscriptionDeleteResponse
  | handleSubscriptionDeleteFailure
  | discarded
  deriving DecidableEq, Repr

def controlLoop (mtype : Int) : Handler :=
  if mtype = 12050 then .handleIndication
  else if mtype = 12011 then .handleSubscriptionResponse
  else if mtype = 12012 then .handleSubscriptionFailure
  else if mtype = 12021 then .handleSubscriptionDeleteResponse
  else if mtype = 12022 then .handleSubscriptionDeleteFailure
  else .discarded

/-- An indication does not touch the expiry maps. -/
def Handler.handle (handler : Handler) (control : Control) (ranName : RanName) : Control :=
  match handler with
  | .handleIndication | .discarded => control
  | .handleSubscriptionResponse => Kpimon.handleSubscriptionResponse control ranName
  | .handleSubscriptionFailure => Kpimon.handleSubscriptionFailure control ranName
  | .handleSubscriptionDeleteResponse => Kpimon.handleSubscriptionDeleteResponse control ranName
  | .handleSubscriptionDeleteFailure => Kpimon.handleSubscriptionDeleteFailure control ranName

structure Request where
  procedure : Procedure
  ranName : RanName
  deriving DecidableEq, Repr

def Request.mtype (request : Request) : Int :=
  match request.procedure with
  | .create => 12010
  | .delete => 12020

/-- The answer of a RAN; `id` tells the answers apart. -/
structure RanOutcome where
  id : Nat
  procedure : Procedure
  ranName : RanName
  successful : Bool
  deriving DecidableEq, Repr

def RanOutcome.pdu (outcome : RanOutcome) : E2apPdu :=
  match outcome.procedure, outcome.successful with
  | .create, true => .successfulOutcome .RICsubscription
  | .create, false => .unsuccessfulOutcome .RICsubscription
  | .delete, true => .successfulOutcome .RICsubscriptionDelete
  | .delete, false => .unsuccessfulOutcome .RICsubscriptionDelete

structure Message where
  mtype : Int
  outcome : RanOutcome
  deriving DecidableEq, Repr

section System

variable (typeNumber : RmrType → Int)

/-- Whether the termination sends a message of this type on to the RAN: the RAN is set up. -/
def forwarded (mtype : Int) : Bool :=
  [RmrType.RIC_SUB_REQ, .RIC_SUB_DEL_REQ].any fun named =>
    mtype = typeNumber named && .sendSctpMsg ∈ E2T.receiveXappMessages true named

/-- What the termination sends to KPIMON for an outcome. -/
def translate (outcome : RanOutcome) : List Message :=
  (E2T.sentMessages (E2T.receiveDataFromSctp 0 true outcome.pdu)).map fun mtype =>
    { mtype := typeNumber mtype, outcome := outcome }

/-- The two programs, the RANs and the messages in flight. `answered` and `handled` remember
the outcomes sent and the ones that a handler was given. -/
structure System where
  control : Control
  /-- Requests sent whose timer is not set yet. -/
  unarmed : List Request
  toTermination : List Request
  atRan : List Request
  toKpimon : List Message
  answered : List RanOutcome
  handled : List (Handler × RanOutcome)

def System.initial : System where
  control := fun _ => Timers.empty
  unarmed := []
  toTermination := []
  atRan := []
  toKpimon := []
  answered := []
  handled := []

inductive SystemEvent where
  | send (request : Request)
  /-- `setEventCreateExpiredTimer` or `setEventDeleteExpiredTimer`, after the send. -/
  | arm (index : Nat)
  | forward (index : Nat)
  | answer (index : Nat) (successful : Bool)
  | deliver (index : Nat)
  | timer (procedure : Procedure) (index : Nat)
  | poll (procedure : Procedure) (index : Nat)

def System.step (system : System) : SystemEvent → System
  | .send request =>
      { system with
        unarmed := system.unarmed ++ [request]
        toTermination := system.toTermination ++ [request] }
  | .arm index =>
      match system.unarmed[index]? with
      | none => system
      | some request =>
          { system with
            unarmed := system.unarmed.eraseIdx index
            control := system.control.step (request.procedure, .request request.ranName) }
  | .forward index =>
      match system.toTermination[index]? with
      | none => system
      | some request =>
          { system with
            toTermination := system.toTermination.eraseIdx index
            atRan := if forwarded typeNumber request.mtype then system.atRan ++ [request]
              else system.atRan }
  | .answer index successful =>
      match system.atRan[index]? with
      | none => system
      | some request =>
          let outcome : RanOutcome :=
            { id := system.answered.length
              procedure := request.procedure
              ranName := request.ranName
              successful := successful }
          { system with
            atRan := system.atRan.eraseIdx index
            toKpimon := system.toKpimon ++ translate typeNumber outcome
            answered := system.answered ++ [outcome] }
  | .deliver index =>
      match system.toKpimon[index]? with
      | none => system
      | some message =>
          let handler := controlLoop message.mtype
          { system with
            toKpimon := system.toKpimon.eraseIdx index
            control := handler.handle system.control message.outcome.ranName
            handled := system.handled ++ [(handler, message.outcome)] }
  | .timer procedure index =>
      { system with control := system.control.step (procedure, .timer index) }
  | .poll procedure index =>
      { system with control := system.control.step (procedure, .poll index) }

end System

/-- The numbers that the routing manager is configured with. -/
structure RtmgrNumbers (typeNumber : RmrType → Int) : Prop where
  subReq : typeNumber .RIC_SUB_REQ = 12010
  subResp : typeNumber .RIC_SUB_RESP = 12011
  subFailure : typeNumber .RIC_SUB_FAILURE = 12012
  subDelReq : typeNumber .RIC_SUB_DEL_REQ = 12020
  subDelResp : typeNumber .RIC_SUB_DEL_RESP = 12021
  subDelFailure : typeNumber .RIC_SUB_DEL_FAILURE = 12022

/-- Every failed delete is on its way to `handleSubscriptionDeleteFailure` or has got there. -/
def System.Reached (system : System) : Prop :=
  ∀ outcome ∈ system.answered, outcome.procedure = .delete → outcome.successful = false →
    (∃ message ∈ system.toKpimon, message.outcome = outcome ∧
      controlLoop message.mtype = .handleSubscriptionDeleteFailure) ∨
    (.handleSubscriptionDeleteFailure, outcome) ∈ system.handled

/-- The law of the protocol for one step. -/
structure System.Attributed (typeNumber : RmrType → Int) (system : System)
    (event : SystemEvent) : Prop where
  /-- A pending entry is marked by an outcome of its own procedure only. -/
  marked : ∀ procedure ranName,
    (system.control procedure).expiredMap ranName = some false →
    ((system.step typeNumber event).control procedure).expiredMap ranName = some true →
      ∃ index message, event = .deliver index ∧ system.toKpimon[index]? = some message ∧
        message.outcome.procedure = procedure
  reached : (system.step typeNumber event).Reached

def System.DeletesSucceed (system : System) : SystemEvent → Prop
  | .answer index successful => ∀ request, system.atRan[index]? = some request →
      request.procedure = .delete → successful = true
  | _ => True

def Failed (outcome : RanOutcome) : Prop :=
  outcome.procedure = .delete ∧ outcome.successful = false

structure System.Sound (typeNumber : RmrType → Int) (system : System) : Prop where
  messages : ∀ message ∈ system.toKpimon,
    message ∈ translate typeNumber message.outcome ∧ ¬ Failed message.outcome
  answered : ∀ outcome ∈ system.answered, ¬ Failed outcome
  handled : ∀ entry ∈ system.handled, ¬ Failed entry.2

section Protocol

variable {typeNumber : RmrType → Int}

theorem sound_initial : System.initial.Sound typeNumber where
  messages := by simp [System.initial]
  answered := by simp [System.initial]
  handled := by simp [System.initial]

theorem translate_eq (outcome : RanOutcome) :
    translate typeNumber outcome =
      [{ mtype := typeNumber (match outcome.procedure, outcome.successful with
          | .create, true => .RIC_SUB_RESP
          | .create, false => .RIC_SUB_FAILURE
          | .delete, true => .RIC_SUB_DEL_RESP
          | .delete, false => .RIC_SUB_FAILURE)
         outcome := outcome }] := by
  rcases outcome with ⟨id, procedure, ranName, successful⟩
  cases procedure <;> cases successful <;> rfl

theorem mem_translate_outcome {message : Message} {outcome : RanOutcome}
    (mem : message ∈ translate typeNumber outcome) : message.outcome = outcome := by
  rw [translate_eq, List.mem_singleton] at mem
  rw [mem]

theorem handle_eq (numbers : RtmgrNumbers typeNumber) {message : Message}
    (mem : message ∈ translate typeNumber message.outcome) (works : ¬ Failed message.outcome)
    (control : Control) (ranName : RanName) :
    (controlLoop message.mtype).handle control ranName =
      Function.update control message.outcome.procedure
        ((control message.outcome.procedure).handleResponse ranName) := by
  rw [translate_eq, List.mem_singleton] at mem
  rw [mem]
  simp only
  cases is : message.outcome.procedure with
  | create =>
      cases message.outcome.successful with
      | true => rw [numbers.subResp]; rfl
      | false => rw [numbers.subFailure]; rfl
  | delete =>
      cases successful : message.outcome.successful with
      | true => rw [numbers.subDelResp]; rfl
      | false => exact absurd ⟨is, successful⟩ works

theorem not_marked (timers : Timers) {action : Action}
    (noResponse : ∀ failed ranName answered, action ≠ .response failed ranName answered)
    {ranName : RanName} (pending : timers.expiredMap ranName = some false) :
    (timers.step action).expiredMap ranName ≠ some true := by
  have finished : ∀ index watcher state,
      (timers.finish index watcher state).expiredMap ranName ≠ some true := by
    intro index watcher state
    simp only [Timers.finish, Function.update_apply]
    split
    · simp
    · simp [pending]
  have still : timers.expiredMap ranName ≠ some true := by
    simp [pending]
  have effect := timers.effect action
  revert effect
  generalize timers.step action = after
  intro effect
  cases effect with
  | requested other =>
      simp only [Timers.setEventExpiredTimer, Function.update_apply]
      split
      · simp
      · exact still
  | missed failed other answered absent => exact still
  | marked failed other answered present => exact absurd rfl (noResponse failed other answered)
  | expired index watcher is waiting unanswered => exact finished index watcher _
  | lingers index watcher is waiting answered => exact finished index watcher _
  | spent index past => exact still
  | canceled index watcher is running answered => exact finished index watcher _
  | polled index => exact still

theorem control_not_marked (control : Control) (procedure : Procedure) {action : Action}
    (noResponse : ∀ failed ranName answered, action ≠ .response failed ranName answered)
    {other : Procedure} {ranName : RanName}
    (pending : (control other).expiredMap ranName = some false) :
    ((control.step (procedure, action)) other).expiredMap ranName ≠ some true := by
  rw [control_step]
  by_cases same : other = procedure
  · subst same
    rw [Function.update_self]
    exact not_marked _ noResponse pending
  · rw [Function.update_of_ne same, pending]
    nofun

theorem Sound.erase {system : System} (sound : system.Sound typeNumber) {index : Nat}
    {message : Message} (is : system.toKpimon[index]? = some message) (handler : Handler)
    (control : Control) :
    System.Sound typeNumber
      { system with
        toKpimon := system.toKpimon.eraseIdx index
        control := control
        handled := system.handled ++ [(handler, message.outcome)] } where
  messages := fun other mem => sound.messages other (List.mem_of_mem_eraseIdx mem)
  answered := sound.answered
  handled := by
    intro entry mem
    rcases List.mem_append.mp mem with mem | mem
    · exact sound.handled entry mem
    · rw [List.mem_singleton] at mem
      rw [mem]
      exact (sound.messages message (List.mem_of_getElem? is)).2

theorem Sound.answer {system : System} (sound : system.Sound typeNumber) (atRan : List Request)
    {outcome : RanOutcome} (works : ¬ Failed outcome) :
    System.Sound typeNumber
      { system with
        atRan := atRan
        toKpimon := system.toKpimon ++ translate typeNumber outcome
        answered := system.answered ++ [outcome] } where
  messages := by
    intro message mem
    rcases List.mem_append.mp mem with mem | mem
    · exact sound.messages message mem
    · rw [mem_translate_outcome mem]
      exact ⟨mem, works⟩
  answered := by
    intro other mem
    rcases List.mem_append.mp mem with mem | mem
    · exact sound.answered other mem
    · rw [List.mem_singleton] at mem
      rwa [mem]
  handled := sound.handled

theorem sound_step (system : System) (event : SystemEvent) (sound : system.Sound typeNumber)
    (succeed : system.DeletesSucceed event) : (system.step typeNumber event).Sound typeNumber := by
  cases event with
  | send request => exact ⟨sound.messages, sound.answered, sound.handled⟩
  | arm index =>
      simp only [System.step]
      split
      · exact sound
      · exact ⟨sound.messages, sound.answered, sound.handled⟩
  | forward index =>
      simp only [System.step]
      split
      · exact sound
      · exact ⟨sound.messages, sound.answered, sound.handled⟩
  | answer index successful =>
      simp only [System.step]
      split
      · exact sound
      · next request is =>
        apply Sound.answer sound
        rintro ⟨deletes, fails⟩
        rw [succeed request is deletes] at fails
        cases fails
  | deliver index =>
      simp only [System.step]
      split
      · exact sound
      · next message is => exact Sound.erase sound is _ _
  | timer procedure index => exact ⟨sound.messages, sound.answered, sound.handled⟩
  | poll procedure index => exact ⟨sound.messages, sound.answered, sound.handled⟩

theorem attributed (numbers : RtmgrNumbers typeNumber) (system : System) (event : SystemEvent)
    (sound : system.Sound typeNumber) (succeed : system.DeletesSucceed event) :
    system.Attributed typeNumber event := by
  refine ⟨?_, fun outcome mem deletes fails =>
    absurd ⟨deletes, fails⟩ ((sound_step system event sound succeed).answered outcome mem)⟩
  intro procedure ranName pending marks
  have unmarked : (system.control procedure).expiredMap ranName ≠ some true := by
    rw [pending]
    nofun
  cases event with
  | send request => exact absurd marks unmarked
  | arm index =>
      simp only [System.step] at marks
      split at marks
      · exact absurd marks unmarked
      · exact absurd marks (control_not_marked _ _ (by simp) pending)
  | forward index =>
      simp only [System.step] at marks
      split at marks <;> exact absurd marks unmarked
  | answer index successful =>
      simp only [System.step] at marks
      split at marks <;> exact absurd marks unmarked
  | deliver index =>
      simp only [System.step] at marks
      split at marks
      · exact absurd marks unmarked
      · next message is =>
        rcases sound.messages message (List.mem_of_getElem? is) with ⟨mem, works⟩
        rw [handle_eq numbers mem works] at marks
        refine ⟨index, message, rfl, is, ?_⟩
        by_contra differ
        simp only [Function.update_of_ne (Ne.symm differ)] at marks
        exact unmarked marks
  | timer other index => exact absurd marks (control_not_marked _ _ (by simp) pending)
  | poll other index => exact absurd marks (control_not_marked _ _ (by simp) pending)

theorem failed_lost (numbers : RtmgrNumbers typeNumber) {outcome : RanOutcome}
    (fails : Failed outcome) {message : Message} (mem : message ∈ translate typeNumber outcome) :
    controlLoop message.mtype = .handleSubscriptionFailure := by
  rw [translate_eq, List.mem_singleton] at mem
  rw [mem, fails.1, fails.2]
  simp only
  rw [numbers.subFailure]
  rfl

theorem attributed_succeed (numbers : RtmgrNumbers typeNumber) (system : System)
    (event : SystemEvent) (sound : system.Sound typeNumber)
    (attributed : system.Attributed typeNumber event) : system.DeletesSucceed event := by
  cases event with
  | answer index successful =>
      intro request is deletes
      by_contra fails
      have reached := attributed.reached
      simp only [System.step, is] at reached
      obtain ⟨message, mem, same, reaches⟩ | handled := reached _
        (List.mem_append_right _ (List.mem_singleton_self _)) deletes (Bool.eq_false_iff.mpr fails)
      · rcases List.mem_append.mp mem with mem | mem
        · apply (sound.messages message mem).2
          rw [same]
          exact ⟨deletes, Bool.eq_false_iff.mpr fails⟩
        · rw [failed_lost numbers ⟨deletes, Bool.eq_false_iff.mpr fails⟩ mem] at reaches
          cases reaches
      · exact sound.handled _ handled ⟨deletes, Bool.eq_false_iff.mpr fails⟩
  | send request => trivial
  | arm index => trivial
  | forward index => trivial
  | deliver index => trivial
  | timer procedure index => trivial
  | poll procedure index => trivial

/-- The law holds along a run just when no delete fails in it. -/
theorem run_attributed_iff (numbers : RtmgrNumbers typeNumber) (events : List SystemEvent) :
    Runs.Along (System.step typeNumber) (System.Attributed typeNumber) System.initial events ↔
      Runs.Along (System.step typeNumber) System.DeletesSucceed System.initial events := by
  constructor
  · refine Runs.along_strengthen (System.Sound typeNumber) ?_
      (fun system event sound holds => attributed_succeed numbers system event sound holds)
      System.initial events sound_initial
    intro system event sound holds
    exact sound_step system event sound (attributed_succeed numbers system event sound holds)
  · exact Runs.along_strengthen (System.Sound typeNumber)
      (fun system event sound succeed => sound_step system event sound succeed)
      (fun system event sound succeed => attributed numbers system event sound succeed)
      System.initial events sound_initial

end Protocol

def configured : RmrType → Int
  | .RIC_SUB_REQ => 12010
  | .RIC_SUB_RESP => 12011
  | .RIC_SUB_FAILURE => 12012
  | .RIC_SUB_DEL_REQ => 12020
  | .RIC_SUB_DEL_RESP => 12021
  | .RIC_SUB_DEL_FAILURE => 12022
  | _ => 0

theorem configured_numbers : RtmgrNumbers configured := ⟨rfl, rfl, rfl, rfl, rfl, rfl⟩

def bothProcedures : List SystemEvent :=
  [.send ⟨.create, gnb⟩, .arm 0, .send ⟨.delete, gnb⟩, .arm 0, .forward 0, .forward 0,
    .answer 0 false, .answer 0 true, .deliver 1, .deliver 0]

theorem run_attributed_bothProcedures :
    Runs.Along (System.step configured) (System.Attributed configured) System.initial
        bothProcedures ↔
      Runs.Along (System.step configured) System.DeletesSucceed System.initial bothProcedures :=
  run_attributed_iff configured_numbers bothProcedures

def deleteFails : List SystemEvent :=
  [.send ⟨.create, gnb⟩, .arm 0, .send ⟨.delete, gnb⟩, .arm 0, .forward 1, .answer 0 false,
    .deliver 0]

/-- The failed delete is not on its way to its handler, and then marks the subscription. -/
theorem deleteFails_breaks :
    ¬ (Runs.run (System.step configured) System.initial (deleteFails.take 6)).Reached ∧
      ¬ (Runs.run (System.step configured) System.initial (deleteFails.take 6)).Attributed
        configured (.deliver 0) := by
  constructor
  · intro reached
    rcases reached ⟨0, .delete, gnb, false⟩ (by decide)
      rfl rfl with ⟨message, mem, -, reaches⟩ | handled
    · have lost : ∀ message ∈ (Runs.run (System.step configured) System.initial
          (deleteFails.take 6)).toKpimon,
          controlLoop message.mtype = .handleSubscriptionFailure := by decide
      rw [lost message mem] at reaches
      cases reaches
    · exact absurd handled (by decide)
  · intro holds
    rcases holds.marked .create gnb (by decide) (by decide) with
      ⟨index, message, same, is, procedure⟩
    cases same
    have deletes : ((Runs.run (System.step configured) System.initial
        (deleteFails.take 6)).toKpimon[0]?).map (fun message => message.outcome.procedure) =
          some .delete := by decide
    rw [is, Option.map_some, procedure] at deletes
    cases deletes

end NearRtRic.Kpimon
