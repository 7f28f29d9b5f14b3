import NearRtRic.Kpimon.E2apPdu
import NearRtRic.Library.CInteger

/-! The wrapper's reading of an indication and of a subscription response, IE by IE, and the Go
copies of what it has read. -/

namespace NearRtRic.Kpimon.E2ap

open CMemory CInteger FixedArray
open SubscriptionRequest (firstOf)

/-- `RICindicationMsg`, as `calloc` leaves it; a pointer is the block that it points to. -/
structure RICindicationMsg where
  requestorID : Int := 0
  requestSequenceNumber : Int := 0
  ranfunctionID : Int := 0
  actionID : Int := 0
  indicationSN : Int := 0
  indicationType : Int := 0
  indicationHeader : Option (List UInt8) := none
  indicationHeaderSize : Nat := 0
  indicationMessage : Option (List UInt8) := none
  indicationMessageSize : Nat := 0
  callProcessID : Option (List UInt8) := none
  callProcessIDSize : Nat := 0
  deriving DecidableEq, Repr

/-- One turn of the loop over the IEs, where memory can be allocated. -/
def indicationIe (msg : RICindicationMsg) (ie : ProtocolIe) : Run RICindicationMsg :=
  match ie.value with
  | .ricRequestID request =>
      pure
        { msg with
          requestorID := request.ricRequestorID.toNat
          requestSequenceNumber := request.ricInstanceID.toNat }
  | .ranFunctionID function => pure { msg with ranfunctionID := function.val }
  | .ricActionID action => pure { msg with actionID := action.toNat }
  | .ricIndicationSN number => pure { msg with indicationSN := number.toNat }
  | .ricIndicationType type => pure { msg with indicationType := type.code }
  | .ricIndicationHeader octets =>
      pure
        { msg with
          indicationHeader := some octets.val, indicationHeaderSize := octets.val.length }
  | .ricIndicationMessage octets =>
      pure
        { msg with
          indicationMessage := some octets.val, indicationMessageSize := octets.val.length }
  | .ricCallProcessID octets =>
      pure { msg with callProcessID := some octets.val, callProcessIDSize := octets.val.length }
  | _ => pure msg

def ricIndication : MessageKind where
  present := .initiatingMessage
  procedureCode := idRICindication
  value := .ricIndication

def e2apDecodeRicIndicationMessage (codec : Codec) (buffer : List UInt8) :
    Run (Option RICindicationMsg) :=
  match codec.decode buffer with
  | none => pure none
  | some pdu =>
      if ricIndication.describes pdu then do
        let msg ← pdu.protocolIEs.foldlM indicationIe {}
        pure (some msg)
      else pure none

structure RICcauseItem where
  ricCauseType : Int := 0
  ricCauseID : Int := 0
  deriving DecidableEq, Repr

structure RICactionAdmittedList where
  ricActionID : Vector Int 16 := Vector.replicate 16 0
  count : Int := 0
  deriving DecidableEq, Repr

structure RICactionNotAdmittedList where
  ricActionID : Vector Int 16 := Vector.replicate 16 0
  ricCause : Vector RICcauseItem 16 := Vector.replicate 16 {}
  count : Int := 0
  deriving DecidableEq, Repr

/-- `RICsubscriptionResponseMsg`, as `calloc` leaves it. -/
structure RICsubscriptionResponseMsg where
  requestorID : Int := 0
  requestSequenceNumber : Int := 0
  ranfunctionID : Int := 0
  ricActionAdmittedList : RICactionAdmittedList := {}
  ricActionNotAdmittedList : RICactionNotAdmittedList := {}
  deriving DecidableEq, Repr

abbrev AdmittedItems := Bounded 16 (ItemIe idRICactionAdmittedItem AdmittedItem)
abbrev NotAdmittedItems := Bounded 16 (ItemIe idRICactionNotAdmittedItem NotAdmittedItem)

def admittedTurn (list : RICactionAdmittedList) (index : Nat)
    (item : ItemIe idRICactionAdmittedItem AdmittedItem) : Run RICactionAdmittedList :=
  if item.id = idRICactionAdmittedItem then do
    let ricActionID ← store list.ricActionID index (item.value.ricActionID.toNat : Int)
    pure { list with ricActionID }
  else pure list

/-- Each of the five cases of the `switch` stores its alternative and the value of it. -/
def causeItem (cause : Cause) : RICcauseItem :=
  { ricCauseType := cause.present, ricCauseID := cause.value }

def notAdmittedTurn (list : RICactionNotAdmittedList) (index : Nat)
    (item : ItemIe idRICactionNotAdmittedItem NotAdmittedItem) : Run RICactionNotAdmittedList :=
  if item.id = idRICactionNotAdmittedItem then do
    let ricActionID ← store list.ricActionID index (item.value.ricActionID.toNat : Int)
    let ricCause ← store list.ricCause index (causeItem item.value.cause)
    pure { list with ricActionID, ricCause }
  else pure list

/-- One turn of the loop over the IEs; `index` stands at the number of items behind the inner
loops. -/
def subscriptionResponseIe (msg : RICsubscriptionResponseMsg) (ie : ProtocolIe) :
    Run RICsubscriptionResponseMsg :=
  match ie.value with
  | .ricRequestID request =>
      pure
        { msg with
          requestorID := request.ricRequestorID.toNat
          requestSequenceNumber := request.ricInstanceID.toNat }
  | .ranFunctionID function => pure { msg with ranfunctionID := function.val }
  | .ricActionAdmittedList items => do
      let list ← eachIndexed admittedTurn 0 items.val msg.ricActionAdmittedList
      pure { msg with ricActionAdmittedList := { list with count := items.val.length } }
  | .ricActionNotAdmittedList items => do
      let list ← eachIndexed notAdmittedTurn 0 items.val msg.ricActionNotAdmittedList
      pure { msg with ricActionNotAdmittedList := { list with count := items.val.length } }
  | _ => pure msg

def ricSubscriptionResponseMessage : MessageKind where
  present := .successfulOutcome
  procedureCode := idRICsubscription
  value := .ricSubscriptionResponse

def e2apDecodeRicSubscriptionResponseMessage (codec : Codec) (buffer : List UInt8) :
    Run (Option RICsubscriptionResponseMsg) :=
  match codec.decode buffer with
  | none => pure none
  | some pdu =>
      if ricSubscriptionResponseMessage.describes pdu then do
        let msg ← pdu.protocolIEs.foldlM subscriptionResponseIe {}
        pure (some msg)
      else pure none

def int32 (value : Int) : Int := toSigned 32 value

/-- `C.GoBytes(pointer, C.int(size))` -/
def goBytesOf (pointer : Option (List UInt8)) (size : Nat) : Run (List UInt8) :=
  if int32 size < 0 then .error .fault
  else if int32 size = 0 then pure []
  else do
    let block ← orFault pointer
    if int32 size ≤ block.length then pure (block.take (int32 size).toNat) else .error .fault

structure DecodedIndicationMessage where
  requestID : Int := 0
  requestSequenceNumber : Int := 0
  funcID : Int := 0
  actionID : Int := 0
  indSN : Int := 0
  indType : Int := 0
  indHeader : List UInt8 := []
  indHeaderLength : Int := 0
  indMessage : List UInt8 := []
  indMessageLength : Int := 0
  callProcessID : List UInt8 := []
  callProcessIDLength : Int := 0
  deriving DecidableEq, Repr

def indicationCopy (msg : RICindicationMsg) : Run DecodedIndicationMessage := do
  let indHeader ← goBytesOf msg.indicationHeader msg.indicationHeaderSize
  let indMessage ← goBytesOf msg.indicationMessage msg.indicationMessageSize
  let callProcessID ← goBytesOf msg.callProcessID msg.callProcessIDSize
  pure
    { requestID := int32 msg.requestorID
      requestSequenceNumber := int32 msg.requestSequenceNumber
      funcID := int32 msg.ranfunctionID
      actionID := int32 msg.actionID
      indSN := int32 msg.indicationSN
      indType := int32 msg.indicationType
      indHeader
      indHeaderLength := int32 msg.indicationHeaderSize
      indMessage
      indMessageLength := int32 msg.indicationMessageSize
      callProcessID
      callProcessIDLength := int32 msg.callProcessIDSize }

def getIndicationMessage (codec : Codec) (payload : List UInt8) :
    Run (DecodedIndicationMessage × Option String) := do
  firstOf payload
  let decodedCMsg ← e2apDecodeRicIndicationMessage codec payload
  match decodedCMsg with
  | none =>
      pure ({}, some ("e2ap wrapper is unable to decode indication message due to wrong " ++
        "or invalid payload"))
  | some msg => do
      let decodedMsg ← indicationCopy msg
      pure (decodedMsg, none)

structure CauseItemType where
  causeType : Int := 0
  causeID : Int := 0
  deriving DecidableEq, Repr

structure ActionAdmittedListType where
  actionID : Vector Int 16 := Vector.replicate 16 0
  count : Int := 0
  deriving DecidableEq, Repr

structure ActionNotAdmittedListType where
  actionID : Vector Int 16 := Vector.replicate 16 0
  cause : Vector CauseItemType 16 := Vector.replicate 16 {}
  count : Int := 0
  deriving DecidableEq, Repr

structure DecodedSubscriptionResponseMessage where
  requestID : Int := 0
  requestSequenceNumber : Int := 0
  funcID : Int := 0
  actionAdmittedList : ActionAdmittedListType := {}
  actionNotAdmittedList : ActionNotAdmittedListType := {}
  deriving DecidableEq, Repr

def admittedCopyTurn (admitted : RICactionAdmittedList) (list : ActionAdmittedListType)
    (index place : Nat) : Run ActionAdmittedListType := do
  let ricActionID ← orFault admitted.ricActionID[place]?
  let actionID ← store list.actionID index (int32 ricActionID)
  pure { list with actionID }

def admittedCopy (admitted : RICactionAdmittedList) : Run ActionAdmittedListType := do
  let list ← eachIndexed (admittedCopyTurn admitted) 0 (List.range admitted.count.toNat) {}
  pure { list with count := admitted.count }

def causeCopy (cause : RICcauseItem) : CauseItemType :=
  { causeType := int32 cause.ricCauseType, causeID := int32 cause.ricCauseID }

def notAdmittedCopyTurn (notAdmitted : RICactionNotAdmittedList)
    (list : ActionNotAdmittedListType) (index place : Nat) : Run ActionNotAdmittedListType := do
  let ricActionID ← orFault notAdmitted.ricActionID[place]?
  let actionID ← store list.actionID index (int32 ricActionID)
  let ricCause ← orFault notAdmitted.ricCause[place]?
  let cause ← store list.cause index (causeCopy ricCause)
  pure { list with actionID, cause }

def notAdmittedCopy (notAdmitted : RICactionNotAdmittedList) : Run ActionNotAdmittedListType := do
  let list ← eachIndexed (notAdmittedCopyTurn notAdmitted) 0
    (List.range notAdmitted.count.toNat) {}
  pure { list with count := notAdmitted.count }

def subscriptionResponseCopy (msg : RICsubscriptionResponseMsg) :
    Run DecodedSubscriptionResponseMessage := do
  let actionAdmittedList ← admittedCopy msg.ricActionAdmittedList
  let actionNotAdmittedList ← notAdmittedCopy msg.ricActionNotAdmittedList
  pure
    { requestID := int32 msg.requestorID
      requestSequenceNumber := int32 msg.requestSequenceNumber
      funcID := int32 msg.ranfunctionID
      actionAdmittedList
      actionNotAdmittedList }

def getSubscriptionResponseMessage (codec : Codec) (payload : List UInt8) :
    Run (DecodedSubscriptionResponseMessage × Option String) := do
  firstOf payload
  let decodedCMsg ← e2apDecodeRicSubscriptionResponseMessage codec payload
  match decodedCMsg with
  | none =>
      pure ({}, some ("e2ap wrapper is unable to decode subscription response message due " ++
        "to wrong or invalid payload"))
  | some msg => do
      let decodedMsg ← subscriptionResponseCopy msg
      pure (decodedMsg, none)

end NearRtRic.Kpimon.E2ap
