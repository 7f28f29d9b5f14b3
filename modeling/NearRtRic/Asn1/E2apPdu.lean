import Mathlib.Tactic
import NearRtRic.Asn1.E2apTypes

/-! The messages of E2AP v01.01, and that a PDU is decoded to what was encoded. -/

namespace NearRtRic.Asn1.E2ap

/-- A message is a `ProtocolIE-Container` whose ids select types by the rows of its table, where
`indexToPresence` tells the element that each row stands for. -/
def messageOf (rows : List (Int × Nat)) (types : List Descriptor) : Descriptor :=
  .sequence [] (some 1) (members [mandatory
    (.setOf (some (constrained 16 16 0 65535)) (selecting protocolIEID rows types))])

/-- The rows stand for the elements in order. -/
def message (rows : List (Int × Descriptor)) : Descriptor :=
  messageOf ((rows.map Prod.fst).zipIdx 1) (rows.map Prod.snd)

/-- The messages of one kind, each with the code of its procedure. -/
abbrev Messages := List (Int × Descriptor)

def outcome (rows : Messages) : Descriptor :=
  selecting procedureCode ((rows.map Prod.fst).zipIdx 1) (rows.map Prod.snd)

/-- A PDU of one of the kinds of messages. -/
def pduOf (kinds : List Messages) : Descriptor :=
  .choice (extensible 2 2 0 2) (some 3) (alternatives (kinds.map outcome))

def ricSubscriptionRequest : Descriptor :=
  message [(29, ricRequestID), (5, ranFunctionID), (30, ricSubscriptionDetails)]

def ricSubscriptionDeleteRequest : Descriptor :=
  message [(29, ricRequestID), (5, ranFunctionID)]

def ricServiceUpdate : Descriptor :=
  messageOf [(10, 1), (12, 1), (11, 2)] [ranFunctionsList, ranFunctionsIDList]

def ricControlRequest : Descriptor :=
  message [(29, ricRequestID), (5, ranFunctionID), (20, ricCallProcessID), (22, ricControlHeader),
    (23, ricControlMessage), (21, ricControlAckRequest)]

def e2setupRequest : Descriptor :=
  message [(3, globalE2nodeID), (10, ranFunctionsList), (33, e2nodeComponentConfigUpdateList)]

def e2nodeConfigurationUpdate : Descriptor :=
  message [(33, e2nodeComponentConfigUpdateList)]

def e2connectionUpdate : Descriptor :=
  messageOf [(44, 1), (46, 2), (45, 1)] [e2connectionUpdateList, e2connectionUpdateRemoveList]

def resetRequest : Descriptor :=
  message [(1, cause)]

def ricIndication : Descriptor :=
  message [(29, ricRequestID), (5, ranFunctionID), (15, ricActionID), (27, ricIndicationSN),
    (28, ricIndicationType), (25, ricIndicationHeader), (26, ricIndicationMessage),
    (20, ricCallProcessID)]

def ricServiceQuery : Descriptor :=
  message [(9, ranFunctionsIDList)]

def errorIndication : Descriptor :=
  message [(29, ricRequestID), (5, ranFunctionID), (1, cause), (2, criticalityDiagnostics)]

def initiatingMessage : Messages :=
  [(8, ricSubscriptionRequest), (9, ricSubscriptionDeleteRequest), (7, ricServiceUpdate),
    (4, ricControlRequest), (1, e2setupRequest), (10, e2nodeConfigurationUpdate),
    (11, e2connectionUpdate), (3, resetRequest), (5, ricIndication), (6, ricServiceQuery),
    (2, errorIndication)]

def ricSubscriptionResponse : Descriptor :=
  message [(29, ricRequestID), (5, ranFunctionID), (17, ricActionAdmittedList),
    (18, ricActionNotAdmittedList)]

def ricSubscriptionDeleteResponse : Descriptor :=
  message [(29, ricRequestID), (5, ranFunctionID)]

def ricServiceUpdateAcknowledge : Descriptor :=
  message [(9, ranFunctionsIDList), (13, ranFunctionsIDcauseList)]

def ricControlAcknowledge : Descriptor :=
  message [(29, ricRequestID), (5, ranFunctionID), (20, ricCallProcessID), (24, ricControlStatus),
    (32, ricControlOutcome)]

def e2setupResponse : Descriptor :=
  message [(4, globalRICID), (9, ranFunctionsIDList), (13, ranFunctionsIDcauseList),
    (35, e2nodeComponentConfigUpdateAckList)]

def e2nodeConfigurationUpdateAcknowledge : Descriptor :=
  message [(35, e2nodeComponentConfigUpdateAckList)]

def e2connectionUpdateAcknowledge : Descriptor :=
  message [(39, e2connectionUpdateList), (40, e2connectionSetupFailedList)]

def resetResponse : Descriptor :=
  message [(2, criticalityDiagnostics)]

def successfulOutcome : Messages :=
  [(8, ricSubscriptionResponse), (9, ricSubscriptionDeleteResponse),
    (7, ricServiceUpdateAcknowledge), (4, ricControlAcknowledge), (1, e2setupResponse),
    (10, e2nodeConfigurationUpdateAcknowledge), (11, e2connectionUpdateAcknowledge),
    (3, resetResponse)]

def ricSubscriptionFailure : Descriptor :=
  message [(29, ricRequestID), (5, ranFunctionID), (18, ricActionNotAdmittedList),
    (2, criticalityDiagnostics)]

def ricSubscriptionDeleteFailure : Descriptor :=
  message [(29, ricRequestID), (5, ranFunctionID), (1, cause), (2, criticalityDiagnostics)]

def ricServiceUpdateFailure : Descriptor :=
  message [(13, ranFunctionsIDcauseList), (31, timeToWait), (2, criticalityDiagnostics)]

def ricControlFailure : Descriptor :=
  message [(29, ricRequestID), (5, ranFunctionID), (20, ricCallProcessID), (1, cause),
    (32, ricControlOutcome)]

def e2setupFailure : Descriptor :=
  message [(1, cause), (31, timeToWait), (2, criticalityDiagnostics), (48, tNLinformation)]

def e2nodeConfigurationUpdateFailure : Descriptor :=
  message [(1, cause), (31, timeToWait), (2, criticalityDiagnostics)]

def e2connectionUpdateFailure : Descriptor :=
  message [(1, cause), (31, timeToWait), (2, criticalityDiagnostics)]

def unsuccessfulOutcome : Messages :=
  [(8, ricSubscriptionFailure), (9, ricSubscriptionDeleteFailure),
    (7, ricServiceUpdateFailure), (4, ricControlFailure), (1, e2setupFailure),
    (10, e2nodeConfigurationUpdateFailure), (11, e2connectionUpdateFailure)]

def kinds : List Messages :=
  [initiatingMessage, successfulOutcome, unsuccessfulOutcome]

def e2apPDU : Descriptor :=
  pduOf kinds

theorem e2apPDU_wellFormed : wellFormed e2apPDU = true :=
  rfl

/-- Every PDU of E2AP is encoded, whatever the size of the buffer, and decoded where it fits into it. -/
theorem e2apPDU_decoded {pdu : Value} (fit : fits e2apPDU pdu = true) (buffer_size : Nat) :
    ∃ buf, asnEncodeToBuffer (encodeAper e2apPDU pdu) buffer_size =
        .ok (if buf.length ≤ buffer_size then some buf else none, buf.length) ∧
      ∀ rest, aperDecodeComplete (decodeAper .oranE2 e2apPDU) (buf ++ rest) =
        .ok (pdu, buf.length) := by
  rcases aperDecodeComplete_of_new_buffer (encodeAper_conveys e2apPDU pdu e2apPDU_wellFormed fit) with
    ⟨buf, hencode, hdecode⟩
  refine ⟨buf, by rw [asnEncodeToBuffer_eq, hencode]; rfl, fun rest => ?_⟩
  rcases hdecode rest with ⟨got, hgot, rfl⟩
  exact hgot

/-- An initiating message of a procedure, with the values that the ids stand for. -/
def initiating (code : Int) (present : Nat) (ies : List (Int × Nat × Value)) : Value :=
  .choice 1 (.sequence [some (.integer code), some (.integer 0), some (.choice present (.sequence
    [some (.list (ies.map fun ie => .sequence [some (.integer ie.1), some (.integer 0),
      some (.choice ie.2.1 ie.2.2)]))]))])

/-- The request to delete a subscription. -/
def deleteRequest : Value :=
  initiating 9 2
    [(29, 1, .sequence [some (.integer 123), some (.integer 7)]), (5, 2, .integer 1)]

theorem e2apPDU_decoded_request :
    ∃ buf, asnEncodeToBuffer (encodeAper e2apPDU deleteRequest) 4096 =
        .ok (if buf.length ≤ 4096 then some buf else none, buf.length) ∧
      ∀ rest, aperDecodeComplete (decodeAper .oranE2 e2apPDU) (buf ++ rest) =
        .ok (deleteRequest, buf.length) :=
  e2apPDU_decoded (by decide +kernel) 4096

end NearRtRic.Asn1.E2ap
