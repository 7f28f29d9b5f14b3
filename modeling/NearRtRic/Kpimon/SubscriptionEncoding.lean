import NearRtRic.Kpimon.WireMessages

/-! The encoding of the request that KPIMON builds into the payload of its message, and what E2T
reads of it. -/

namespace NearRtRic.Kpimon.SubscriptionRequest

open Asn1 Asn1.E2ap CMemory
open E2ap (criticalityCode written)

def idRICactionToBeSetupItem : Nat := 19
def idRICsubscriptionDetails : Nat := 30

def subsequentContent (action : RICsubsequentAction) : Value :=
  .sequence [some (.integer action.ricSubsequentActionType), some (.integer action.ricTimeToWait)]

def itemContent (item : RICactionToBeSetupItem) : Value :=
  .sequence [some (.integer item.ricActionID), some (.integer item.ricActionType),
    item.ricActionDefinition.map fun octets => .string ⟨octets, 0⟩,
    item.ricSubsequentAction.map subsequentContent]

def itemOnWire (item : RICactionToBeSetupItem) : Value :=
  ieOf idRICactionToBeSetupItem (criticalityCode item.criticality) 0 (itemContent item)

def detailsContent (ricEventTriggerDefinition : List UInt8)
    (ricActionToBeSetupList : List RICactionToBeSetupItem) : Value :=
  .sequence [some (.string ⟨ricEventTriggerDefinition, 0⟩),
    some (.list (ricActionToBeSetupList.map itemOnWire))]

def ieOnWire (ie : SubscriptionRequestIe) : Value :=
  match ie.value with
  | .ricRequestID ricRequestorID ricInstanceID =>
      ieOf E2ap.idRICrequestID (criticalityCode ie.criticality) 0
        (.sequence [some (.integer ricRequestorID), some (.integer ricInstanceID)])
  | .ranFunctionID ranFunctionID =>
      ieOf E2ap.idRANfunctionID (criticalityCode ie.criticality) 1 (.integer ranFunctionID)
  | .ricSubscriptionDetails ricEventTriggerDefinition ricActionToBeSetupList =>
      ieOf idRICsubscriptionDetails (criticalityCode ie.criticality) 2
        (detailsContent ricEventTriggerDefinition ricActionToBeSetupList)

/-- The PDU as either library knows it. -/
def onWire (pdu : SubscriptionRequestPdu) : Value :=
  pduOfKind 0 (some (.integer E2ap.idRICsubscription.toNat))
    (some (.integer (criticalityCode pdu.criticality))) 0 (containerOf (pdu.protocolIEs.map ieOnWire))

/-- `encode_E2AP_PDU`, where `none` is -1: the number of bits, and the buffer from its start on. -/
def encodeE2apPdu (pdu : Value) (buf : List UInt8) : Run (Option (Int × List UInt8)) :=
  match aperEncodeToBuffer (encodeAper V0100.e2apPDU pdu) buf.length with
  | .ok (stored, encoded) => pure (some (encoded, stored ++ buf.drop stored.length))
  | .error .failed => pure none
  | .error .outside => .error .fault

/-- What `SetSubscriptionRequestPayload` returns for the PDU that was built. -/
def newPayload (pdu : SubscriptionRequestPdu) (payload : List UInt8) : Run (List UInt8) := do
  let size ← encodeE2apPdu (onWire pdu) payload
  match size with
  | none => .error (.error
      "e2ap wrapper is unable to set Subscription Request Payload due to wrong or invalid payload")
  | some encoded => pure (written encoded)

/-- The call with the arguments of the request, up to the payload that is sent. -/
def Request.send (request : Request) (payload : List UInt8) : Run (List UInt8) := do
  let pdu ← request.build payload
  newPayload pdu payload

/-- A request within the bounds of its types, which a payload of 1024 octets has room for. -/
structure Request.Encodable (request : Request) : Prop where
  ranFunctionID : request.ranFunctionID.toNat ≤ 4095
  eventTrigger : request.eventTrigger.length ≤ 512
  few : request.actions.length ≤ 16
  actionID : ∀ action ∈ request.actions, 0 ≤ action.ricActionID ∧ action.ricActionID ≤ 255
  actionType : ∀ action ∈ request.actions, 0 ≤ action.ricActionType ∧ action.ricActionType ≤ 2

theorem bareItem_fits {action : Action} (id : 0 ≤ action.ricActionID ∧ action.ricActionID ≤ 255)
    (type : 0 ≤ action.ricActionType ∧ action.ricActionType ≤ 2) :
    fits ricActionToBeSetupItem (itemContent action.bareItem) = true ∧
      sizeAper ricActionToBeSetupItem (itemContent action.bareItem) = 60 := by
  have hid : fits ricActionID (.integer action.ricActionID) = true ∧
      sizeAper ricActionID (.integer action.ricActionID) = 24 :=
    number_fits (by decide) (by decide) (by unfold IsLong; omega) id.1 id.2
  have htypes : ∀ type : Fin 3, fits ricActionType (.integer (type : Nat)) = true := by
    decide
  have htype : fits ricActionType (.integer action.ricActionType) = true := by
    have hthis := htypes ⟨action.ricActionType.toNat, by omega⟩
    rwa [Int.toNat_of_nonneg type.1] at hthis
  have hsize : sizeAper ricActionType (.integer action.ricActionType) = 33 := rfl
  constructor
  · simp only [ricActionToBeSetupItem, members, mandatory, Asn1.E2ap.optional, itemContent,
      Action.bareItem, Option.map_none, fits, fitsMembers, Elements.count, inExtensionGroup, fitsMember]
    simp only [memberAt, List.getElem?_cons_zero, List.getElem?_cons_succ, Option.join_some, hid.1,
      htype]
    rfl
  · simp only [ricActionToBeSetupItem, members, mandatory, Asn1.E2ap.optional, itemContent,
      Action.bareItem, Option.map_none, sizeAper_sequence, sizeRoot_cons, sizeRoot_nil,
      Elements.count, inExtensionGroup]
    simp only [memberAt, List.getElem?_cons_zero, List.getElem?_cons_succ, Option.join_some,
      Option.map_some, Option.getD_some, hid.2, hsize]
    rfl

variable {request : Request}

theorem bareItems_fit (encodable : request.Encodable) (some : request.actions ≠ []) :
    fits ricActionsToBeSetupList (.list ((request.actions.map Action.bareItem).map itemOnWire)) = true ∧
      sizeAper ricActionsToBeSetupList (.list ((request.actions.map Action.bareItem).map itemOnWire)) ≤
        24 + 192 * request.actions.length := by
  have hlength : ((request.actions.map Action.bareItem).map itemOnWire).length =
      request.actions.length := by
    rw [List.length_map, List.length_map]
  have hsome := List.length_pos_of_ne_nil some
  have hfew := encodable.few
  rw [← hlength] at hsome hfew ⊢
  apply E2ap.list_of_items_fits 4 _ hsome hfew
  intro value among
  rw [List.map_map] at among
  rcases List.mem_map.mp among with ⟨action, member, rfl⟩
  have hitem := bareItem_fits (encodable.actionID action member) (encodable.actionType action member)
  exact E2ap.single_fits (by decide) .reject hitem.1 (by omega)

theorem details_fit (encodable : request.Encodable) (some : request.actions ≠ []) :
    fits ricSubscriptionDetails
        (detailsContent request.eventTrigger (request.actions.map Action.bareItem)) = true ∧
      sizeAper ricSubscriptionDetails
        (detailsContent request.eventTrigger (request.actions.map Action.bareItem)) ≤ 7224 := by
  have htrigger : fits octetString (.string ⟨request.eventTrigger, 0⟩) = true ∧
      sizeAper octetString (.string ⟨request.eventTrigger, 0⟩) = 31 + 8 * request.eventTrigger.length :=
    octets_fit (lt_of_le_of_lt encodable.eventTrigger (by decide))
  have hitems := bareItems_fit encodable some
  have hdetails := fits_sequenceOfAll (.cons htrigger.1 (.cons hitems.1 .nil))
  refine ⟨hdetails.1, hdetails.2.trans_le ?_⟩
  have hshort := encodable.eventTrigger
  have hfew := encodable.few
  simp only [List.zipWith_cons_cons, List.zipWith_nil_left, List.sum_cons, List.sum_nil, htrigger.2]
  omega

def Placed (octets : Nat) (ie : Value) : Prop :=
  fits (ieType subscriptionRequestIEs) ie = true ∧
    sizeAper (ieType subscriptionRequestIEs) ie ≤ 89 + 8 * octets

theorem codes_distinct : (subscriptionRequestIEs.map Prod.fst).Nodup := by
  decide

theorem requestID_placed (request : Request) : Placed 7
    (ieOnWire { value := .ricRequestID request.ricRequestorID.toNat request.ricInstanceID.toNat }) := by
  have hrequestor := E2ap.number16_fits request.ricRequestorID
  have hinstance := E2ap.number16_fits request.ricInstanceID
  have hrequest := fits_sequenceOfAll (.cons hrequestor.1 (.cons hinstance.1 .nil))
  simp only [List.zipWith_cons_cons, List.zipWith_nil_left, List.sum_cons, List.sum_nil,
    hrequestor.2, hinstance.2] at hrequest
  exact E2ap.selecting_fits rfl codes_distinct (by decide) .reject hrequest.1
    (hrequest.2.trans_le (by omega)) (by decide)

theorem ranFunctionID_placed (encodable : request.Encodable) : Placed 3
    (ieOnWire { value := .ranFunctionID request.ranFunctionID.toNat }) := by
  have hbound := encodable.ranFunctionID
  have hfunction : fits ranFunctionID (.integer request.ranFunctionID.toNat) = true ∧
      sizeAper ranFunctionID (.integer request.ranFunctionID.toNat) = 24 :=
    number_fits (by decide) (by decide) (by unfold IsLong; omega) (by omega) (by omega)
  exact E2ap.selecting_fits rfl codes_distinct (by decide) .reject hfunction.1
    (hfunction.2.trans_le (by omega)) (by decide)

theorem details_placed (encodable : request.Encodable) (some : request.actions ≠ []) : Placed 903
    (ieOnWire ⟨.reject, .ricSubscriptionDetails request.eventTrigger
      (request.actions.map Action.bareItem)⟩) := by
  have hdetails := details_fit encodable some
  exact E2ap.selecting_fits rfl codes_distinct (by decide) .reject hdetails.1
    (hdetails.2.trans (by omega)) (by decide)

def Request.ies (request : Request) : List Value :=
  (request.pduOf Action.bareItem).protocolIEs.map ieOnWire

theorem ies_eq (request : Request) : request.ies =
    [ieOnWire { value := .ricRequestID request.ricRequestorID.toNat request.ricInstanceID.toNat },
      ieOnWire { value := .ranFunctionID request.ranFunctionID.toNat },
      ieOnWire ⟨.reject, .ricSubscriptionDetails request.eventTrigger
        (request.actions.map Action.bareItem)⟩] :=
  rfl

theorem body_fits (encodable : request.Encodable) (some : request.actions ≠ []) :
    fits (message subscriptionRequestIEs) (containerOf request.ies) = true ∧
      sizeAper (message subscriptionRequestIEs) (containerOf request.ies) ≤ 7596 := by
  have hrequest := requestID_placed request
  have hfunction := ranFunctionID_placed encodable
  have hdetails := details_placed encodable some
  have heach : ∀ ie ∈ request.ies, fits (ieType subscriptionRequestIEs) ie = true := by
    rw [ies_eq]
    simp only [List.forall_mem_cons]
    exact ⟨hrequest.1, hfunction.1, hdetails.1, nofun⟩
  have hlength : request.ies.length = 3 := rfl
  have hmessage := fits_message subscriptionRequestIEs (by omega) heach
  refine ⟨hmessage.1, hmessage.2.trans_le ?_⟩
  have hone : lengthBits 3 = 23 := rfl
  have hsizes := Nat.add_le_add hrequest.2 (Nat.add_le_add hfunction.2 hdetails.2)
  rw [hlength, hone, ies_eq]
  simp only [List.map_cons, List.map_nil, List.sum_cons, List.sum_nil]
  omega

theorem onWire_fits (encodable : request.Encodable) (some : request.actions ≠ []) :
    fits Asn1.E2ap.e2apPDU (onWire (request.pduOf Action.bareItem)) = true ∧
      sizeAper V0100.e2apPDU (onWire (request.pduOf Action.bareItem)) ≤ 8 * 1024 := by
  have hbody := body_fits encodable some
  have hcode := E2ap.number8_fits E2ap.idRICsubscription
  have hcriticality := E2ap.criticality_fits .reject
  have hends := endsOpen_of_size (hbody.2.trans (by decide))
  have hrow : Asn1.E2ap.initiatingMessage[0]? = Option.some
      ((E2ap.idRICsubscription.toNat : Int), message subscriptionRequestIEs) := rfl
  have hrow' : V0100.initiatingMessage[0]? = Option.some
      ((E2ap.idRICsubscription.toNat : Int), message subscriptionRequestIEs) := rfl
  constructor
  · exact fits_pdu (by decide) rfl hrow (kinds_distinct.2 initiatingMessage (.head _)) hcode.1
      hcriticality.1 hbody.1 hends
  · have hopen : openBits (sizeAper (message subscriptionRequestIEs) (containerOf request.ies)) ≤
        7623 := by
      have hfew : max 1 ((sizeAper (message subscriptionRequestIEs) (containerOf request.ies) + 7) /
          8) ≤ 950 := by omega
      exact bodyBits_mono hfew
    have hsize : sizeAper V0100.e2apPDU (onWire (request.pduOf Action.bareItem)) =
        25 + (sizeAper procedureCode (.integer E2ap.idRICsubscription.toNat) +
          (sizeAper Asn1.E2ap.criticality (.integer (criticalityCode .reject)) +
            openBits (sizeAper (message subscriptionRequestIEs) (containerOf request.ies)))) :=
      sizeAper_pdu (by decide) rfl hrow' (criticalityCode .reject) (containerOf request.ies)
    have hcodeSize : sizeAper procedureCode (.integer E2ap.idRICsubscription.toNat) = 24 := hcode.2
    rw [hsize, hcodeSize, hcriticality.2]
    omega

theorem zeros_refused :
    (aperDecodeComplete (decodeAper .oranE2 Asn1.E2ap.e2apPDU) [0]).isOk = false :=
  rfl

theorem onWire_conveys (encodable : request.Encodable) (some : request.actions ≠ []) :
    Transmission.Conveys (encodeAper V0100.e2apPDU (onWire (request.pduOf Action.bareItem)))
      (decodeAper .oranE2 Asn1.E2ap.e2apPDU)
      fun _ got => got = onWire (request.pduOf Action.bareItem) := by
  have hshared : Shared 0 0 0 := ⟨(8, ricSubscriptionRequest), rfl, rfl⟩
  have halike : encodeAper V0100.e2apPDU (onWire (request.pduOf Action.bareItem)) =
      encodeAper Asn1.E2ap.e2apPDU (onWire (request.pduOf Action.bareItem)) :=
    (shared_alike hshared _ _ (containerOf request.ies)).1
  rw [halike]
  exact encodeAper_conveys Asn1.E2ap.e2apPDU _ e2apPDU_wellFormed (onWire_fits encodable some).1

/-- What KPIMON sends for a request, E2T reads: the PDU that was built, with the actions bare. -/
theorem request_sent {payload : List UInt8} (callable : request.Callable payload)
    (encodable : request.Encodable) (roomy : 1024 ≤ payload.length) :
    ∃ sent, request.send payload = .ok sent ∧ sent.length ≤ 1024 ∧
      ∀ rest, aperDecodeComplete (decodeAper .oranE2 Asn1.E2ap.e2apPDU) (sent ++ rest) =
        .ok (onWire (request.pduOf Action.bareItem), sent.length) := by
  have hsize := (onWire_fits encodable callable.actions).2
  have hlarge := hsize.trans (Nat.mul_le_mul_left 8 roomy)
  have hconveys := onWire_conveys encodable callable.actions
  rcases (encodeAper_bounded V0100.e2apPDU _).decoded_of_refused hconveys hlarge zeros_refused with
    ⟨stored, encoded, hencode, hbits, hlength, hdecode⟩
  have hwritten : written ((encoded : Int), stored ++ payload.drop stored.length) = stored := by
    rw [written, Int.toNat_natCast, ← hlength, List.take_left]
  refine ⟨stored, ?_, by omega, fun rest => ?_⟩
  · rw [Request.send, build_of_callable callable, bind_ok, newPayload, encodeE2apPdu, hencode,
      pure_bind]
    exact congrArg Except.ok hwritten
  · rcases hdecode rest with ⟨got, hgot, rfl⟩
    exact hgot

def reportRequest : Request where
  ricRequestorID := 1001
  ricInstanceID := 1
  ranFunctionID := 2
  eventTrigger := [0x08, 0, 0, 0, 0, 0, 0, 0]
  actions := [⟨0, 0, none, none⟩]

theorem request_sent_report :
    ∃ sent, reportRequest.send (List.replicate 1024 0) = .ok sent ∧ sent.length ≤ 1024 ∧
      ∀ rest, aperDecodeComplete (decodeAper .oranE2 Asn1.E2ap.e2apPDU) (sent ++ rest) =
        .ok (onWire (reportRequest.pduOf Action.bareItem), sent.length) :=
  request_sent ⟨by decide, by decide, by decide, by decide⟩
    ⟨by decide, by decide, by decide, by decide, by decide⟩ (by rw [List.length_replicate])

end NearRtRic.Kpimon.SubscriptionRequest
