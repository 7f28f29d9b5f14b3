import Mathlib.Tactic
import NearRtRic.E2T.Connections

/-! What the E2 termination does with the messages of a RAN and with those for it. -/

namespace NearRtRic.E2T

/-- The first index of a counter table. -/
inductive Direction
  | IN_INITI
  | IN_SUCC
  | IN_UN_SUCC
  | OUT_INITI
  | OUT_SUCC
  | OUT_UN_SUCC
  deriving DecidableEq, Repr

inductive CounterClass
  | MSG_COUNTER
  | BYTES_COUNTER
  deriving DecidableEq, Repr

inductive ProcedureCode
  | E2setup
  | ErrorIndication
  | Reset
  | RICcontrol
  | RICindication
  | RICserviceQuery
  | RICserviceUpdate
  | RICsubscription
  | RICsubscriptionDelete
  deriving DecidableEq, Repr

inductive RmrType
  | RIC_E2_SETUP_REQ
  | RIC_E2_SETUP_RESP
  | RIC_E2_SETUP_FAILURE
  | RIC_E2_RESET_REQ
  | RIC_E2_RESET_RESP
  | RIC_ERROR_INDICATION
  | RIC_SUB_REQ
  | RIC_SUB_RESP
  | RIC_SUB_FAILURE
  | RIC_SUB_DEL_REQ
  | RIC_SUB_DEL_RESP
  | RIC_SUB_DEL_FAILURE
  | RIC_SERVICE_UPDATE
  | RIC_SERVICE_UPDATE_ACK
  | RIC_SERVICE_UPDATE_FAILURE
  | RIC_SERVICE_QUERY
  | RIC_CONTROL_REQ
  | RIC_CONTROL_ACK
  | RIC_CONTROL_FAILURE
  | RIC_INDICATION
  | RIC_SCTP_CLEAR_ALL
  | E2_TERM_KEEP_ALIVE_REQ
  | RIC_HEALTH_CHECK_REQ
  | other (mtype : Int)
  deriving DecidableEq, Repr

inductive RequestIe
  | ricRequestID (ricInstanceID : Int)
  /-- The id of a RICrequestID with a value of another kind. -/
  | illegal
  | other
  deriving DecidableEq, Repr

inductive InitiatingMessage
  | E2setup (ies : List SetupIe)
  | RICserviceUpdate
  | ErrorIndication
  | Reset
  | RICindication (ies : List RequestIe)
  | other (procedureCode : Nat)

inductive SuccessfulOutcome
  | Reset
  | RICcontrol (ies : List RequestIe)
  | RICsubscription
  | RICsubscriptionDelete
  | other (procedureCode : Nat)

inductive UnsuccessfulOutcome
  | RICcontrol (ies : List RequestIe)
  | RICsubscription
  | RICsubscriptionDelete
  | other (procedureCode : Nat)

inductive E2apPdu
  | initiatingMessage (message : InitiatingMessage)
  | successfulOutcome (message : SuccessfulOutcome)
  | unsuccessfulOutcome (message : UnsuccessfulOutcome)

/-- The tables of `peerInfo->counters` and of `sctpParams->e2tCounters`. -/
inductive CounterScope
  | peer
  | e2t
  deriving DecidableEq, Repr

/-- What is done for one message, in this order. -/
inductive Effect
  | buildPrometheusList
  | increment (scope : CounterScope) (direction : Direction) (counter : CounterClass)
      (procedure : ProcedureCode)
  | sendRmrMessage (mtype : RmrType) (subId : Option Int)
  | sendSctpMsg
  deriving DecidableEq, Repr

def increments (scope : CounterScope) (direction : Direction) (procedure : ProcedureCode) :
    List Effect :=
  [.increment scope direction .MSG_COUNTER procedure,
    .increment scope direction .BYTES_COUNTER procedure]

def count (direction : Direction) (procedure : ProcedureCode) : List Effect :=
  increments .peer direction procedure ++ increments .e2t direction procedure

def sendRequestToXapp (requestId : RmrType) : List Effect :=
  [.sendRmrMessage requestId none]

/-- The loop over the IEs of an indication or a control outcome: it ends with the first
RICrequestID. -/
def requestLoop (direction : Direction) (procedure : ProcedureCode) (mtype : RmrType) :
    List RequestIe → List Effect
  | [] => []
  | .ricRequestID ricInstanceID :: _ =>
      count direction procedure ++ [.sendRmrMessage mtype (some ricInstanceID)]
  | .illegal :: ies | .other :: ies => requestLoop direction procedure mtype ies

/-- `collected` is the result of `collectSetupRequestData`, `converted` whether the PDU can be
written as XML, by `buildAndSendSetupRequest` or `XML_From_PER`. -/
def asnInitiatingRequest (collected : Int) (converted : Bool) : InitiatingMessage → List Effect
  | .E2setup _ =>
      if collected ≠ 0 then []
      else .buildPrometheusList :: count .IN_INITI .E2setup ++
        if converted then [.sendRmrMessage .RIC_E2_SETUP_REQ none] else []
  | .RICserviceUpdate =>
      count .IN_INITI .RICserviceUpdate ++
        if converted then [.sendRmrMessage .RIC_SERVICE_UPDATE none] else []
  | .ErrorIndication =>
      count .IN_INITI .ErrorIndication ++ sendRequestToXapp .RIC_ERROR_INDICATION
  | .Reset =>
      count .IN_INITI .Reset ++
        if converted then sendRequestToXapp .RIC_E2_RESET_REQ else []
  | .RICindication ies => requestLoop .IN_INITI .RICindication .RIC_INDICATION ies
  | .other _ => []

def asnSuccessfulMsg (converted : Bool) : SuccessfulOutcome → List Effect
  | .Reset =>
      count .IN_SUCC .Reset ++ if converted then sendRequestToXapp .RIC_E2_RESET_RESP else []
  | .RICcontrol ies => requestLoop .IN_SUCC .RICcontrol .RIC_CONTROL_ACK ies
  | .RICsubscription => count .IN_SUCC .RICsubscription ++ sendRequestToXapp .RIC_SUB_RESP
  | .RICsubscriptionDelete =>
      count .IN_SUCC .RICsubscriptionDelete ++ sendRequestToXapp .RIC_SUB_DEL_RESP
  | .other _ => []

def asnUnSuccsesfulMsg : UnsuccessfulOutcome → List Effect
  | .RICcontrol ies => requestLoop .IN_UN_SUCC .RICcontrol .RIC_CONTROL_FAILURE ies
  | .RICsubscription =>
      count .IN_UN_SUCC .RICsubscription ++ sendRequestToXapp .RIC_SUB_FAILURE
  | .RICsubscriptionDelete =>
      -- the type of a failed subscription, not RIC_SUB_DEL_FAILURE
      count .IN_UN_SUCC .RICsubscriptionDelete ++ sendRequestToXapp .RIC_SUB_FAILURE
  | .other _ => []

def receiveDataFromSctp (collected : Int) (converted : Bool) : E2apPdu → List Effect
  | .initiatingMessage message => asnInitiatingRequest collected converted message
  | .successfulOutcome message => asnSuccessfulMsg converted message
  | .unsuccessfulOutcome message => asnUnSuccsesfulMsg message

/-- The switch of `receiveXappMessages` for a peer that was found: `converted` is whether
`PER_FromXML` succeeds, which some of the types need. -/
def receiveXappMessages (converted : Bool) : RmrType → List Effect
  | .RIC_E2_SETUP_RESP =>
      if converted then count .OUT_SUCC .E2setup ++ [.sendSctpMsg] else []
  | .RIC_E2_SETUP_FAILURE =>
      if converted then count .OUT_UN_SUCC .E2setup ++ [.sendSctpMsg] else []
  | .RIC_ERROR_INDICATION =>
      -- the instance counts it as received
      increments .peer .OUT_INITI .ErrorIndication ++
        increments .e2t .IN_INITI .ErrorIndication ++ [.sendSctpMsg]
  | .RIC_SUB_REQ => count .OUT_INITI .RICsubscription ++ [.sendSctpMsg]
  | .RIC_SUB_DEL_REQ => count .OUT_INITI .RICsubscriptionDelete ++ [.sendSctpMsg]
  | .RIC_CONTROL_REQ => count .OUT_INITI .RICcontrol ++ [.sendSctpMsg]
  | .RIC_SERVICE_QUERY =>
      if converted then count .OUT_INITI .RICserviceQuery ++ [.sendSctpMsg] else []
  | .RIC_SERVICE_UPDATE_ACK =>
      if converted then count .OUT_SUCC .RICserviceUpdate ++ [.sendSctpMsg] else []
  | .RIC_SERVICE_UPDATE_FAILURE =>
      if converted then count .OUT_UN_SUCC .RICserviceUpdate ++ [.sendSctpMsg] else []
  | .RIC_E2_RESET_REQ =>
      if converted then
        increments .peer .OUT_INITI .Reset ++ increments .e2t .IN_INITI .Reset ++
          [.sendSctpMsg]
      else []
  | .RIC_E2_RESET_RESP =>
      if converted then count .OUT_SUCC .Reset ++ [.sendSctpMsg] else []
  | _ => []

def sentMessages (effects : List Effect) : List RmrType :=
  effects.filterMap fun effect => match effect with
    | .sendRmrMessage mtype _ => some mtype
    | _ => none

end NearRtRic.E2T
