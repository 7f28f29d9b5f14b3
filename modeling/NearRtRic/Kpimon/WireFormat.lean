import NearRtRic.Asn1.E2apContents
import NearRtRic.Kpimon.IeOrder

/-! The codec of the wrapper, from the octets on: the generated decoder of `e2ap/lib` gives a value of
its tables, and the wrapper reads that as a PDU. -/

namespace NearRtRic.Kpimon.E2ap

open Asn1 CMemory FixedArray
open SubscriptionRequest (Criticality)

def readCriticality : Int → Option Criticality
  | 0 => some .reject
  | 1 => some .ignore
  | 2 => some .notify
  | _ => none

/-- A number within the bounds of its type. -/
def readFin (bound : Nat) : Value → Option (Fin bound)
  | .integer native => if h : native.toNat < bound then some ⟨native.toNat, h⟩ else none
  | _ => none

def readOctets : Value → Option Octets
  | .string st => if h : st.buf.length < 2 ^ 31 then some ⟨st.buf, h⟩ else none
  | _ => none

def readRequestID : Value → Option RICrequestID
  | .sequence [some requestor, some instanceID] => do
      let ricRequestorID ← readFin 65536 requestor
      let ricInstanceID ← readFin 65536 instanceID
      pure ⟨UInt16.ofFin ricRequestorID, UInt16.ofFin ricInstanceID⟩
  | _ => none

def readIndicationType : Value → Option RICindicationType
  | .integer 0 => some .report
  | .integer 1 => some .insert
  | _ => none

def readCause : Value → Option Cause
  | .choice 1 value => (readFin 11 value).map .ricRequest
  | .choice 2 value => (readFin 3 value).map .ricService
  | .choice 3 value => (readFin 2 value).map .transport
  | .choice 4 value => (readFin 7 value).map .protocol
  | .choice 5 value => (readFin 4 value).map .misc
  | _ => none

def readActionID (value : Value) : Option UInt8 :=
  (readFin 256 value).map UInt8.ofFin

def readAdmitted : Value → Option AdmittedItem
  | .sequence [some action] => (readActionID action).map AdmittedItem.mk
  | _ => none

def readNotAdmitted : Value → Option NotAdmittedItem
  | .sequence [some action, some cause] => do
      let ricActionID ← readActionID action
      let cause ← readCause cause
      pure ⟨ricActionID, cause⟩
  | _ => none

def readItem {Item : Type} (itemID : Nat) (read : Value → Option Item) :
    Value → Option (ItemIe itemID Item)
  | .sequence [some (.integer id), some (.integer criticality), some (.choice _ value)] => do
      let criticality ← readCriticality criticality
      let value ← read value
      if known : id.toNat = itemID then some { id := id.toNat, criticality, value, known } else none
  | _ => none

def readItems {Item : Type} (itemID : Nat) (read : Value → Option Item) :
    Value → Option (Bounded 16 (ItemIe itemID Item))
  | .list array => do
      let items ← array.mapM (readItem itemID read)
      if few : items.length ≤ 16 then some ⟨items, few⟩ else none
  | _ => none

/-- The alternative that the id has selected. -/
def readIeValue (id : Nat) (value : Value) : Option IeValue :=
  if id = idRICrequestID then (readRequestID value).map .ricRequestID
  else if id = idRANfunctionID then (readFin 4096 value).map .ranFunctionID
  else if id = idRICactionID then (readActionID value).map .ricActionID
  else if id = idRICindicationSN then
    (readFin 65536 value).map fun number => .ricIndicationSN (UInt16.ofFin number)
  else if id = idRICindicationType then (readIndicationType value).map .ricIndicationType
  else if id = idRICindicationHeader then (readOctets value).map .ricIndicationHeader
  else if id = idRICindicationMessage then (readOctets value).map .ricIndicationMessage
  else if id = idRICcallProcessID then (readOctets value).map .ricCallProcessID
  else if id = idRICactionsAdmitted then
    (readItems idRICactionAdmittedItem readAdmitted value).map .ricActionAdmittedList
  else if id = idRICactionsNotAdmitted then
    (readItems idRICactionNotAdmittedItem readNotAdmitted value).map .ricActionNotAdmittedList
  else if other : id ∉ readIDs then some (.other ⟨id, other⟩ [])
  else none

def readIe : Value → Option ProtocolIe
  | .sequence [some (.integer id), some (.integer criticality), some (.choice _ value)] => do
      let criticality ← readCriticality criticality
      let value ← readIeValue id.toNat value
      pure { criticality, value }
  | _ => none

/-- `E2AP_PDU_PR`, from 1 on. -/
def readPresent : Nat → Option E2apPduPR
  | 1 => some .initiatingMessage
  | 2 => some .successfulOutcome
  | 3 => some .unsuccessfulOutcome
  | _ => none

/-- The enumerations `InitiatingMessage__value_PR` and `SuccessfulOutcome__value_PR`, from 1 on. -/
def readMessagePR : E2apPduPR → Nat → MessageValuePR
  | .initiatingMessage, 1 => .ricSubscriptionRequest
  | .initiatingMessage, 2 => .ricSubscriptionDeleteRequest
  | .initiatingMessage, 7 => .ricIndication
  | .successfulOutcome, 1 => .ricSubscriptionResponse
  | .successfulOutcome, 2 => .ricSubscriptionDeleteResponse
  | _, present => .other present

def readPdu : Value → Option E2apPdu
  | .choice kind (.sequence [some (.integer code), some (.integer criticality),
      some (.choice message (.sequence [some (.list ies)]))]) => do
      let present ← readPresent kind
      let criticality ← readCriticality criticality
      let protocolIEs ← ies.mapM readIe
      pure
        { present
          procedureCode := UInt8.ofNat code.toNat
          criticality
          value := readMessagePR present message
          protocolIEs }
  | _ => none

/-- `decode_E2AP_PDU` -/
def decodeE2apPdu (buffer : List UInt8) : Option E2apPdu :=
  match aperDecodeComplete (decodeAper .e2apLib Asn1.E2ap.V0100.e2apPDU) buffer with
  | .ok (pdu, _) => readPdu pdu
  | .error _ => none

/-- The codec that decodes with the tables of `e2ap/lib`, whatever it encodes. -/
def wireCodec (encode : E2apPdu → List UInt8 → Int × List UInt8) : Codec where
  decode := decodeE2apPdu
  encode := encode
  decode_nil := rfl

def criticalityCode : Criticality → Int
  | .reject => 0
  | .ignore => 1
  | .notify => 2

def causeContent (cause : Cause) : Value :=
  .choice cause.present.toNat (.integer cause.value)

def itemContent {Item : Type} {itemID : Nat} (content : Item → Value) (item : ItemIe itemID Item) :
    Value :=
  Asn1.E2ap.ieOf item.id (criticalityCode item.criticality) 0 (content item.value)

def octetsContent (octets : Octets) : Value :=
  .string ⟨octets.val, 0⟩

def ieContent : IeValue → Value
  | .ricRequestID request =>
      .sequence [some (.integer request.ricRequestorID.toNat), some (.integer request.ricInstanceID.toNat)]
  | .ranFunctionID function => .integer function.val
  | .ricActionID action => .integer action.toNat
  | .ricIndicationSN number => .integer number.toNat
  | .ricIndicationType type => .integer type.code
  | .ricIndicationHeader octets => octetsContent octets
  | .ricIndicationMessage octets => octetsContent octets
  | .ricCallProcessID octets => octetsContent octets
  | .ricActionAdmittedList items =>
      .list (items.val.map (itemContent fun item => .sequence [some (.integer item.ricActionID.toNat)]))
  | .ricActionNotAdmittedList items =>
      .list (items.val.map (itemContent fun item =>
        .sequence [some (.integer item.ricActionID.toNat), some (causeContent item.cause)]))
  | .other _ _ => .sequence []

/-- An IE of a message whose IEs are of the types of these rows. -/
def wireIe (rows : Asn1.E2ap.Messages) (ie : ProtocolIe) : Value :=
  Asn1.E2ap.ieOf ie.id (criticalityCode ie.criticality) ((rows.map Prod.fst).idxOf (ie.id : Int))
    (ieContent ie.value)

theorem readFin_integer {bound number : Nat} (inside : number < bound) :
    readFin bound (.integer number) = some ⟨number, inside⟩ := by
  have hnumber : (number : Int).toNat < bound := inside
  rw [readFin, dif_pos hnumber]
  rfl

theorem readCriticality_code (criticality : Criticality) :
    readCriticality (criticalityCode criticality) = some criticality := by
  cases criticality <;> rfl

theorem readOctets_content (octets : Octets) : readOctets (octetsContent octets) = some octets :=
  dif_pos octets.property

theorem readActionID_integer (action : UInt8) : readActionID (.integer action.toNat) = some action := by
  rw [readActionID, readFin_integer action.toNat_lt]
  rfl

theorem readCause_content (cause : Cause) : readCause (causeContent cause) = some cause := by
  cases cause <;> exact congrArg (Option.map _) (readFin_integer (Fin.isLt _))

theorem readItem_content {Item : Type} {itemID : Nat} {read : Value → Option Item}
    {content : Item → Value} (reads : ∀ item, read (content item) = some item)
    (item : ItemIe itemID Item) : readItem itemID read (itemContent content item) = some item := by
  rcases item with ⟨id, criticality, value, known⟩
  have hid : (id : Int).toNat = itemID := known
  simp only [itemContent, Asn1.E2ap.ieOf, Asn1.E2ap.messageOfKind, readItem, readCriticality_code, reads]
  exact dif_pos hid

theorem mapM_content {Item : Type} {read : Value → Option Item} {content : Item → Value}
    {items : List Item} (reads : ∀ item ∈ items, read (content item) = some item) :
    (items.map content).mapM read = some items := by
  induction items with
  | nil => rfl
  | cons first items ih =>
      have hfirst := reads first (List.mem_cons_self ..)
      have hitems := ih fun item among => reads item (List.mem_cons_of_mem _ among)
      rw [List.map_cons, List.mapM_cons, hfirst, hitems]
      rfl

theorem readItems_content {Item : Type} {itemID : Nat} {read : Value → Option Item}
    {content : Item → Value} (reads : ∀ item, read (content item) = some item)
    (items : Bounded 16 (ItemIe itemID Item)) :
    readItems itemID read (.list (items.val.map (itemContent content))) = some items := by
  have hitems : (items.val.map (itemContent content)).mapM (readItem itemID read) = some items.val :=
    mapM_content fun item _ => readItem_content reads item
  rw [readItems, hitems]
  exact dif_pos items.property

theorem readRequestID_content (request : RICrequestID) :
    readRequestID (ieContent (.ricRequestID request)) = some request := by
  rw [ieContent, readRequestID, readFin_integer request.ricRequestorID.toNat_lt,
    readFin_integer request.ricInstanceID.toNat_lt]
  rfl

theorem readIndicationType_code (type : RICindicationType) :
    readIndicationType (.integer type.code) = some type := by
  cases type <;> rfl

theorem readIeValue_content {value : IeValue} (known : value.id ∈ readIDs) :
    readIeValue value.id (ieContent value) = some value := by
  cases value with
  | other id content => exact absurd known id.property
  | ricRequestID request => exact congrArg (Option.map _) (readRequestID_content request)
  | ranFunctionID function => exact congrArg (Option.map _) (readFin_integer function.isLt)
  | ricActionID action => exact congrArg (Option.map _) (readActionID_integer action)
  | ricIndicationSN number => exact congrArg (Option.map _) (readFin_integer number.toNat_lt)
  | ricIndicationType type => exact congrArg (Option.map _) (readIndicationType_code type)
  | ricIndicationHeader octets => exact congrArg (Option.map _) (readOctets_content octets)
  | ricIndicationMessage octets => exact congrArg (Option.map _) (readOctets_content octets)
  | ricCallProcessID octets => exact congrArg (Option.map _) (readOctets_content octets)
  | ricActionAdmittedList items =>
      have hadmitted : ∀ item : AdmittedItem,
          readAdmitted (.sequence [some (.integer item.ricActionID.toNat)]) = some item := by
        intro item
        rw [readAdmitted, readActionID_integer]
        rfl
      exact congrArg (Option.map _) (readItems_content hadmitted items)
  | ricActionNotAdmittedList items =>
      have hnotAdmitted : ∀ item : NotAdmittedItem,
          readNotAdmitted (.sequence [some (.integer item.ricActionID.toNat),
            some (causeContent item.cause)]) = some item := by
        intro item
        rw [readNotAdmitted, readActionID_integer, readCause_content]
        rfl
      exact congrArg (Option.map _) (readItems_content hnotAdmitted items)

theorem readIe_wire (rows : Asn1.E2ap.Messages) {ie : ProtocolIe} (known : ie.id ∈ readIDs) :
    readIe (wireIe rows ie) = some ie := by
  have hvalue : readIeValue (ie.id : Int).toNat (ieContent ie.value) = some ie.value :=
    readIeValue_content known
  simp only [wireIe, Asn1.E2ap.ieOf, Asn1.E2ap.messageOfKind, readIe, readCriticality_code, hvalue]
  rfl

end NearRtRic.Kpimon.E2ap
