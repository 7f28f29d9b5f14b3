import Mathlib.Tactic
import NearRtRic.E2T.Dispatch
import NearRtRic.Library.CInteger

/-! The RMR message for an indication or for the outcome of a control request. -/

namespace NearRtRic.E2T.RequestForwarding

open Buffer CInteger

def ProtocolIE_ID_id_RICrequestID : Int := 29

/-- A decoded `RICrequestID`: its members are `INTEGER (0..65535)`. -/
structure RICrequestID where
  ricInstanceID : Int
  range : 0 ≤ ricInstanceID ∧ ricInstanceID ≤ 65535

/-- The value of an IE, by its tag: all the others are not looked at. -/
inductive IeValue
  | RICrequestID (request : RICrequestID)
  | other (present : Nat)

structure RequestIE where
  id : Int
  value : IeValue

/-- A `rmr_mbuf_t`; `meid` and `xact` are the bytes given to `rmr_bytes2meid` and
`rmr_bytes2xact`. -/
structure RmrMessage where
  mtype : RmrType
  state : Int
  subId : Int
  meid : List Char
  xact : List Char

/-- What the handling of a PDU reads and writes. -/
structure Handling where
  /-- `message.message.enodbName` -/
  enodbName : List Char
  /-- `message.message.messageType` -/
  messageType : RmrType
  sendMessage : RmrMessage
  transactionCounter : Int
  effects : List Effect
  /-- The messages given to `rmr_send_msg`. -/
  sent : List RmrMessage

namespace Handling

def setType (mtype : RmrType) (handling : Handling) : Handling :=
  { handling with
    messageType := mtype
    sendMessage := { handling.sendMessage with mtype := mtype } }

/-- `snprintf(tx, sizeof tx, "%15ld", transactionCounter++)` -/
def setTransaction (handling : Handling) : Handling :=
  let tx := ((toString handling.transactionCounter).toList.leftpad 15 ' ').take 31
  { handling with
    transactionCounter := handling.transactionCounter + 1
    sendMessage := { handling.sendMessage with xact := tx } }

def setMeid (handling : Handling) : Handling :=
  { handling with
    sendMessage := { handling.sendMessage with meid := string handling.enodbName } }

def clearState (handling : Handling) : Handling :=
  { handling with sendMessage := { handling.sendMessage with state := 0 } }

def setSubId (request : RICrequestID) (handling : Handling) : Handling :=
  { handling with
    sendMessage := { handling.sendMessage with subId := toSigned 32 request.ricInstanceID } }

def increment (direction : Direction) (procedure : ProcedureCode) (handling : Handling) :
    Handling :=
  { handling with effects := handling.effects ++ count direction procedure }

def sendRmrMessage (handling : Handling) : Handling :=
  let message := handling.sendMessage
  { handling with
    effects := handling.effects ++ [.sendRmrMessage message.mtype (some message.subId)]
    sent := handling.sent ++ [message] }

end Handling

open Handling

/-! What the three handlers do with a good IE, in the order of their statements. -/

def forwardIndication (request : RICrequestID) (handling : Handling) : Handling :=
  let handling := setTransaction (setType .RIC_INDICATION handling)
  let handling := setSubId request (clearState (setMeid handling))
  sendRmrMessage (increment .IN_INITI .RICindication handling)

def forwardControlAcknowledge (request : RICrequestID) (handling : Handling) : Handling :=
  let handling := clearState (setType .RIC_CONTROL_ACK handling)
  let handling := setMeid (setTransaction (setSubId request handling))
  sendRmrMessage (increment .IN_SUCC .RICcontrol handling)

def forwardControlFailure (request : RICrequestID) (handling : Handling) : Handling :=
  let handling := clearState (setType .RIC_CONTROL_FAILURE handling)
  let handling := setMeid (setTransaction (setSubId request handling))
  sendRmrMessage (increment .IN_UN_SUCC .RICcontrol handling)

/-- One turn of the loop: `messageSent`, and what is left behind. -/
def turn (forward : RICrequestID → Handling → Handling) (ie : RequestIE)
    (handling : Handling) : Bool × Handling :=
  if ie.id = ProtocolIE_ID_id_RICrequestID then
    match ie.value with
    | .RICrequestID request => (true, forward request handling)
    -- "RIC request id missing illegal request"
    | .other _ => (false, handling)
  else (false, handling)

def ieLoop (forward : RICrequestID → Handling → Handling) : List RequestIE → Handling → Handling
  | [], handling => handling
  | ie :: ies, handling =>
      let turned := turn forward ie handling
      if turned.1 then turned.2 else ieLoop forward ies turned.2

inductive RequestPdu
  | RICindication (ies : List RequestIE)
  | RICcontrolAcknowledge (ies : List RequestIE)
  | RICcontrolFailure (ies : List RequestIE)

/-- `receiveDataFromSctp` copies the name of the peer into the message first. -/
def handle (peerInfo : ConnectedCU) (pdu : RequestPdu) (handling : Handling) : Handling :=
  let received := { handling with enodbName := peerInfo.enodbName }
  match pdu with
  | .RICindication ies => ieLoop forwardIndication ies received
  | .RICcontrolAcknowledge ies => ieLoop forwardControlAcknowledge ies received
  | .RICcontrolFailure ies => ieLoop forwardControlFailure ies received

/-- The value of an IE with the id of a RICrequestID, if it is one. -/
def RequestIE.request (ie : RequestIE) : Option RICrequestID :=
  if ie.id = ProtocolIE_ID_id_RICrequestID then
    match ie.value with
    | .RICrequestID request => some request
    | .other _ => none
  else none

namespace RequestPdu

def ies : RequestPdu → List RequestIE
  | RICindication ies | RICcontrolAcknowledge ies | RICcontrolFailure ies => ies

def mtype : RequestPdu → RmrType
  | RICindication _ => .RIC_INDICATION
  | RICcontrolAcknowledge _ => .RIC_CONTROL_ACK
  | RICcontrolFailure _ => .RIC_CONTROL_FAILURE

def direction : RequestPdu → Direction
  | RICindication _ => .IN_INITI
  | RICcontrolAcknowledge _ => .IN_SUCC
  | RICcontrolFailure _ => .IN_UN_SUCC

def procedure : RequestPdu → ProcedureCode
  | RICindication _ => .RICindication
  | RICcontrolAcknowledge _ | RICcontrolFailure _ => .RICcontrol

end RequestPdu

def Handling.counted (handling : Handling) (scope : CounterScope) (direction : Direction)
    (procedure : ProcedureCode) : Nat :=
  handling.effects.count (.increment scope direction .MSG_COUNTER procedure)

/-- What a PDU of the list is to do. -/
structure OneMessage (peerInfo : ConnectedCU) (pdu : RequestPdu) (before after : Handling) :
    Prop where
  not_sent : (∀ ie ∈ pdu.ies, ie.request = none) → after.sent = before.sent
  /-- `ie` is the first one that is a request id. -/
  sent : ∀ front ie rest request, pdu.ies = front ++ ie :: rest →
    (∀ other ∈ front, other.request = none) → ie.request = some request →
      ∃ message, after.sent = before.sent ++ [message] ∧ message.mtype = pdu.mtype ∧
        message.subId = request.ricInstanceID ∧ message.meid = string peerInfo.enodbName
  /-- Of both tables the counter of the procedure grows by the messages sent, no other one. -/
  counted : ∀ scope direction procedure, after.counted scope direction procedure =
    before.counted scope direction procedure +
      if direction = pdu.direction ∧ procedure = pdu.procedure then
        after.sent.length - before.sent.length
      else 0

/-- The flag of one turn is not seen by the next: the loop forwards the first good IE. -/
theorem ieLoop_eq (forward : RICrequestID → Handling → Handling) (ies : List RequestIE)
    (handling : Handling) :
    ieLoop forward ies handling =
      (ies.findSome? RequestIE.request).elim handling fun request => forward request handling := by
  induction ies with
  | nil => rfl
  | cons ie ies ih =>
      rw [ieLoop, List.findSome?_cons, turn, RequestIE.request]
      by_cases isRequest : ie.id = ProtocolIE_ID_id_RICrequestID
      · rw [if_pos isRequest, if_pos isRequest]
        cases ie.value with
        | RICrequestID request => rfl
        | other present => exact ih
      · rw [if_neg isRequest, if_neg isRequest]
        exact ih

theorem setSubId_eq (request : RICrequestID) : toSigned 32 request.ricInstanceID =
    request.ricInstanceID := by
  have ⟨least, greatest⟩ := request.range
  exact toSigned_of_range (by omega) (by omega)

def RequestPdu.forward : RequestPdu → RICrequestID → Handling → Handling
  | RICindication _ => forwardIndication
  | RICcontrolAcknowledge _ => forwardControlAcknowledge
  | RICcontrolFailure _ => forwardControlFailure

theorem handle_eq (peerInfo : ConnectedCU) (pdu : RequestPdu) (handling : Handling) :
    handle peerInfo pdu handling =
      ieLoop pdu.forward pdu.ies { handling with enodbName := peerInfo.enodbName } := by
  cases pdu <;> rfl

theorem forward_sent (pdu : RequestPdu) (request : RICrequestID) (handling : Handling) :
    ∃ message, (pdu.forward request handling).sent = handling.sent ++ [message] ∧
      message.mtype = pdu.mtype ∧ message.subId = request.ricInstanceID ∧
      message.meid = string handling.enodbName := by
  have subId := setSubId_eq request
  cases pdu with
  | RICindication ies => exact ⟨_, rfl, rfl, subId, rfl⟩
  | RICcontrolAcknowledge ies => exact ⟨_, rfl, rfl, subId, rfl⟩
  | RICcontrolFailure ies => exact ⟨_, rfl, rfl, subId, rfl⟩

theorem forward_effects (pdu : RequestPdu) (request : RICrequestID) (handling : Handling) :
    (pdu.forward request handling).effects = handling.effects ++
      (count pdu.direction pdu.procedure ++
        [.sendRmrMessage pdu.mtype (some request.ricInstanceID)]) := by
  rw [← List.append_assoc, ← setSubId_eq request]
  cases pdu <;> rfl

theorem count_counted (scope : CounterScope) (first second : Direction)
    (one other : ProcedureCode) :
    (count first one).count (.increment scope second .MSG_COUNTER other) =
      if second = first ∧ other = one then 1 else 0 := by
  by_cases same : second = first ∧ other = one
  · rw [if_pos same, same.1, same.2]
    cases scope <;> simp [count, increments]
  · rw [if_neg same, List.count_eq_zero]
    intro member
    simp only [count, increments, List.mem_append, List.mem_cons, List.not_mem_nil,
      Effect.increment.injEq, or_false] at member
    tauto

theorem one_message_each (peerInfo : ConnectedCU) (pdu : RequestPdu) (before : Handling) :
    OneMessage peerInfo pdu before (handle peerInfo pdu before) where
  not_sent := by
    intro absent
    rw [handle_eq, ieLoop_eq, List.findSome?_eq_none_iff.mpr absent]
    rfl
  sent := by
    intro front ie rest request parts bad good
    have first : pdu.ies.findSome? RequestIE.request = some request :=
      List.findSome?_eq_some_iff.mpr ⟨front, ie, rest, parts, good, bad⟩
    rw [handle_eq, ieLoop_eq, first]
    exact forward_sent pdu request { before with enodbName := peerInfo.enodbName }
  counted := by
    intro scope direction procedure
    rw [handle_eq, ieLoop_eq]
    cases pdu.ies.findSome? RequestIE.request with
    | none => simp [counted]
    | some request =>
        have ⟨message, sent, _⟩ := forward_sent pdu request
          { before with enodbName := peerInfo.enodbName }
        have grown : (pdu.forward request
            { before with enodbName := peerInfo.enodbName }).sent.length -
              before.sent.length = 1 := by
          rw [sent, List.length_append, List.length_singleton]
          exact Nat.add_sub_cancel_left _ _
        simp only [Option.elim_some, grown, counted, forward_effects, List.count_append,
          count_counted]
        simp

def RequestIE.abstract (ie : RequestIE) : RequestIe :=
  if ie.id = ProtocolIE_ID_id_RICrequestID then
    match ie.value with
    | .RICrequestID request => .ricRequestID request.ricInstanceID
    | .other _ => .illegal
  else .other

def RequestPdu.abstract : RequestPdu → E2apPdu
  | RICindication ies => .initiatingMessage (.RICindication (ies.map RequestIE.abstract))
  | RICcontrolAcknowledge ies => .successfulOutcome (.RICcontrol (ies.map RequestIE.abstract))
  | RICcontrolFailure ies => .unsuccessfulOutcome (.RICcontrol (ies.map RequestIE.abstract))

theorem requestLoop_eq (direction : Direction) (procedure : ProcedureCode) (mtype : RmrType)
    (ies : List RequestIE) :
    requestLoop direction procedure mtype (ies.map RequestIE.abstract) =
      (ies.findSome? RequestIE.request).elim [] fun request =>
        count direction procedure ++ [.sendRmrMessage mtype (some request.ricInstanceID)] := by
  induction ies with
  | nil => rfl
  | cons ie ies ih =>
      rw [List.map_cons, List.findSome?_cons, RequestIE.abstract, RequestIE.request]
      by_cases isRequest : ie.id = ProtocolIE_ID_id_RICrequestID
      · rw [if_pos isRequest, if_pos isRequest]
        cases ie.value with
        | RICrequestID request => rfl
        | other present => exact ih
      · rw [if_neg isRequest, if_neg isRequest]
        exact ih

theorem handle_effects (peerInfo : ConnectedCU) (pdu : RequestPdu) (before : Handling)
    (collected : Int) (converted : Bool) :
    (handle peerInfo pdu before).effects =
      before.effects ++ receiveDataFromSctp collected converted pdu.abstract := by
  have dispatched : receiveDataFromSctp collected converted pdu.abstract =
      requestLoop pdu.direction pdu.procedure pdu.mtype (pdu.ies.map RequestIE.abstract) := by
    cases pdu <;> rfl
  rw [dispatched, requestLoop_eq, handle_eq, ieLoop_eq]
  cases pdu.ies.findSome? RequestIE.request with
  | none => exact (List.append_nil _).symm
  | some request => exact forward_effects pdu request _

end NearRtRic.E2T.RequestForwarding
