import NearRtRic.Kpimon.IndicationHeader
import NearRtRic.Kpimon.SubscriptionRequest
import NearRtRic.Library.FixedArray

/-! E2AP PDUs: the value of an IE is an open type whose alternative its id selects. Only values
within the bounds of their types are values here; the generated decoder itself does not check an
upper bound. -/

namespace NearRtRic.Kpimon.E2ap

open NearRtRic.FixedArray
open SubscriptionRequest (Criticality)

def idRANfunctionID : Nat := 5
def idRICactionAdmittedItem : Nat := 14
def idRICactionID : Nat := 15
def idRICactionNotAdmittedItem : Nat := 16
def idRICactionsAdmitted : Nat := 17
def idRICactionsNotAdmitted : Nat := 18
def idRICcallProcessID : Nat := 20
def idRICindicationHeader : Nat := 25
def idRICindicationMessage : Nat := 26
def idRICindicationSN : Nat := 27
def idRICindicationType : Nat := 28
def idRICrequestID : Nat := 29

def readIDs : List Nat :=
  [idRANfunctionID, idRICactionID, idRICactionsAdmitted, idRICactionsNotAdmitted,
    idRICcallProcessID, idRICindicationHeader, idRICindicationMessage, idRICindicationSN,
    idRICindicationType, idRICrequestID]

def idRICindication : UInt8 := 5
def idRICsubscription : UInt8 := 8
def idRICsubscriptionDelete : UInt8 := 9

structure RICrequestID where
  ricRequestorID : UInt16
  ricInstanceID : UInt16
  deriving DecidableEq, Repr

inductive RICindicationType
  | report
  | insert
  deriving DecidableEq, Repr

def RICindicationType.code : RICindicationType → Int
  | .report => 0
  | .insert => 1

/-- `Cause_t`: the alternative and the value of its enumeration. -/
inductive Cause
  | ricRequest (cause : Fin 11)
  | ricService (cause : Fin 3)
  | transport (cause : Fin 2)
  | protocol (cause : Fin 7)
  | misc (cause : Fin 4)
  deriving DecidableEq, Repr

/-- `Cause_PR`, in which 0 is `Cause_PR_NOTHING`. -/
def Cause.present : Cause → Int
  | .ricRequest _ => 1
  | .ricService _ => 2
  | .transport _ => 3
  | .protocol _ => 4
  | .misc _ => 5

def Cause.value : Cause → Int
  | .ricRequest cause => (cause : Nat)
  | .ricService cause => (cause : Nat)
  | .transport cause => (cause : Nat)
  | .protocol cause => (cause : Nat)
  | .misc cause => (cause : Nat)

structure AdmittedItem where
  ricActionID : UInt8
  deriving DecidableEq, Repr

structure NotAdmittedItem where
  ricActionID : UInt8
  cause : Cause
  deriving DecidableEq, Repr

/-- An item IE of a list whose items all have the id `itemID`: the decoder knows no other. -/
structure ItemIe (itemID : Nat) (Item : Type) where
  id : Nat := itemID
  criticality : Criticality := .ignore
  value : Item
  known : id = itemID := by rfl
  deriving DecidableEq, Repr

/-- The bounds are those of the ASN.1 types, 4095 for a RAN function and 16 for the items of a list. -/
inductive IeValue
  | ricRequestID (request : RICrequestID)
  | ranFunctionID (function : Fin 4096)
  | ricActionID (action : UInt8)
  | ricIndicationSN (number : UInt16)
  | ricIndicationType (type : RICindicationType)
  | ricIndicationHeader (octets : Octets)
  | ricIndicationMessage (octets : Octets)
  | ricCallProcessID (octets : Octets)
  | ricActionAdmittedList (items : Bounded 16 (ItemIe idRICactionAdmittedItem AdmittedItem))
  | ricActionNotAdmittedList
      (items : Bounded 16 (ItemIe idRICactionNotAdmittedItem NotAdmittedItem))
  | other (id : { id : Nat // id ∉ readIDs }) (content : List UInt8)
  deriving DecidableEq, Repr

/-- The id of the table of the generated code that selects this alternative. -/
def IeValue.id : IeValue → Nat
  | .ricRequestID _ => idRICrequestID
  | .ranFunctionID _ => idRANfunctionID
  | .ricActionID _ => idRICactionID
  | .ricIndicationSN _ => idRICindicationSN
  | .ricIndicationType _ => idRICindicationType
  | .ricIndicationHeader _ => idRICindicationHeader
  | .ricIndicationMessage _ => idRICindicationMessage
  | .ricCallProcessID _ => idRICcallProcessID
  | .ricActionAdmittedList _ => idRICactionsAdmitted
  | .ricActionNotAdmittedList _ => idRICactionsNotAdmitted
  | .other id _ => id

structure ProtocolIe where
  criticality : Criticality := .reject
  value : IeValue
  deriving DecidableEq, Repr

def ProtocolIe.id (ie : ProtocolIe) : Nat := ie.value.id

/-- `E2AP_PDU_PR` -/
inductive E2apPduPR
  | initiatingMessage
  | successfulOutcome
  | unsuccessfulOutcome
  deriving DecidableEq, Repr

/-- The alternative of the message: `value.present`. -/
inductive MessageValuePR
  | ricSubscriptionRequest
  | ricSubscriptionResponse
  | ricSubscriptionDeleteRequest
  | ricSubscriptionDeleteResponse
  | ricIndication
  | other (alternative : Nat)
  deriving DecidableEq, Repr

structure E2apPdu where
  present : E2apPduPR
  procedureCode : UInt8
  criticality : Criticality := .reject
  value : MessageValuePR
  protocolIEs : List ProtocolIe
  deriving DecidableEq, Repr

/-- What the nested tests of a function of the wrapper ask of a PDU. -/
structure MessageKind where
  present : E2apPduPR
  procedureCode : UInt8
  value : MessageValuePR

def MessageKind.describes (kind : MessageKind) (pdu : E2apPdu) : Prop :=
  pdu.present = kind.present ∧ pdu.procedureCode = kind.procedureCode ∧ pdu.value = kind.value

instance (kind : MessageKind) (pdu : E2apPdu) : Decidable (kind.describes pdu) :=
  inferInstanceAs (Decidable (_ ∧ _ ∧ _))

/-- `aper_decode_complete`, which gives no PDU for bytes that it rejects, and
`aper_encode_to_buffer`, which gives the number of bits, or -1, and what the buffer then holds. -/
structure Codec where
  decode : List UInt8 → Option E2apPdu
  encode : E2apPdu → List UInt8 → Int × List UInt8
  decode_nil : decode [] = none

/-- `C.GoBytes(cptr, (C.int(size)+7)/8)` -/
def written (encoded : Int × List UInt8) : List UInt8 :=
  encoded.2.take ((encoded.1.toNat + 7) / 8)

end NearRtRic.Kpimon.E2ap
