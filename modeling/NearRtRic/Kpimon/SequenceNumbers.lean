import Mathlib.Tactic
import NearRtRic.Kpimon.E2apPdu

/-! The sequence number of an E2AP message, which is the instance id of its first request id:
read and replaced in the encoded bytes. -/

namespace NearRtRic.Kpimon.E2ap

/-- `value.choice.RICrequestID` of an IE with the id of a request id. -/
def ProtocolIe.requestID? (ie : ProtocolIe) : Option RICrequestID :=
  match ie.value with
  | .ricRequestID request => some request
  | _ => none

def ProtocolIe.withInstanceID (sequenceNumber : UInt16) (ie : ProtocolIe) : ProtocolIe :=
  match ie.value with
  | .ricRequestID request =>
      { ie with value := .ricRequestID { request with ricInstanceID := sequenceNumber } }
  | _ => ie

/-- The loop of a get function over the IEs. -/
def firstInstanceID : List ProtocolIe → Option UInt16
  | [] => none
  | ie :: protocolIEs =>
      match ie.requestID? with
      | some request => some request.ricInstanceID
      | none => firstInstanceID protocolIEs

/-- The loop of a set function over the IEs. -/
def setFirstInstanceID (sequenceNumber : UInt16) : List ProtocolIe → Option (List ProtocolIe)
  | [] => none
  | ie :: protocolIEs =>
      match ie.requestID? with
      | some _ => some (ie.withInstanceID sequenceNumber :: protocolIEs)
      | none => (setFirstInstanceID sequenceNumber protocolIEs).map (ie :: ·)

section Functions

variable (kind : MessageKind) (codec : Codec) (buffer : List UInt8)

def getSequenceNumber : Int :=
  match codec.decode buffer with
  | none => -1
  | some pdu =>
      if kind.describes pdu then
        match firstInstanceID pdu.protocolIEs with
        | some instanceID => instanceID.toNat
        | none => -1
      else -1

/-- The number of bits of the new encoding, or -1, and what the buffer then holds. The number is a
`long` in C, for which every caller passes a `uint16`. -/
def setSequenceNumber (sequenceNumber : UInt16) : Int × List UInt8 :=
  match codec.decode buffer with
  | none => (-1, buffer)
  | some pdu =>
      if kind.describes pdu then
        match setFirstInstanceID sequenceNumber pdu.protocolIEs with
        | some protocolIEs => codec.encode { pdu with protocolIEs } buffer
        | none => (-1, buffer)
      else (-1, buffer)

end Functions

def ricSubscriptionRequest : MessageKind where
  present := .initiatingMessage
  procedureCode := idRICsubscription
  value := .ricSubscriptionRequest

def e2apGetRicSubscriptionRequestSequenceNumber : Codec → List UInt8 → Int :=
  getSequenceNumber ricSubscriptionRequest

def e2apSetRicSubscriptionRequestSequenceNumber :
    Codec → List UInt8 → UInt16 → Int × List UInt8 :=
  setSequenceNumber ricSubscriptionRequest

def ricSubscriptionResponse : MessageKind where
  present := .successfulOutcome
  procedureCode := idRICsubscription
  value := .ricSubscriptionResponse

def e2apGetRicSubscriptionResponseSequenceNumber : Codec → List UInt8 → Int :=
  getSequenceNumber ricSubscriptionResponse

def e2apSetRicSubscriptionResponseSequenceNumber :
    Codec → List UInt8 → UInt16 → Int × List UInt8 :=
  setSequenceNumber ricSubscriptionResponse

def ricSubscriptionDeleteRequest : MessageKind where
  present := .initiatingMessage
  procedureCode := idRICsubscriptionDelete
  value := .ricSubscriptionDeleteRequest

def e2apGetRicSubscriptionDeleteRequestSequenceNumber : Codec → List UInt8 → Int :=
  getSequenceNumber ricSubscriptionDeleteRequest

def e2apSetRicSubscriptionDeleteRequestSequenceNumber :
    Codec → List UInt8 → UInt16 → Int × List UInt8 :=
  setSequenceNumber ricSubscriptionDeleteRequest

def ricSubscriptionDeleteResponse : MessageKind where
  present := .successfulOutcome
  procedureCode := idRICsubscriptionDelete
  value := .ricSubscriptionDeleteResponse

def e2apGetRicSubscriptionDeleteResponseSequenceNumber : Codec → List UInt8 → Int :=
  getSequenceNumber ricSubscriptionDeleteResponse

def e2apSetRicSubscriptionDeleteResponseSequenceNumber :
    Codec → List UInt8 → UInt16 → Int × List UInt8 :=
  setSequenceNumber ricSubscriptionDeleteResponse

/-- The messages whose sequence number can be read and replaced. -/
inductive SequencedMessage
  | subscriptionRequest
  | subscriptionResponse
  | subscriptionDeleteRequest
  | subscriptionDeleteResponse

namespace SequencedMessage

def kind : SequencedMessage → MessageKind
  | .subscriptionRequest => ricSubscriptionRequest
  | .subscriptionResponse => ricSubscriptionResponse
  | .subscriptionDeleteRequest => ricSubscriptionDeleteRequest
  | .subscriptionDeleteResponse => ricSubscriptionDeleteResponse

def get : SequencedMessage → Codec → List UInt8 → Int
  | .subscriptionRequest => e2apGetRicSubscriptionRequestSequenceNumber
  | .subscriptionResponse => e2apGetRicSubscriptionResponseSequenceNumber
  | .subscriptionDeleteRequest => e2apGetRicSubscriptionDeleteRequestSequenceNumber
  | .subscriptionDeleteResponse => e2apGetRicSubscriptionDeleteResponseSequenceNumber

def set : SequencedMessage → Codec → List UInt8 → UInt16 → Int × List UInt8
  | .subscriptionRequest => e2apSetRicSubscriptionRequestSequenceNumber
  | .subscriptionResponse => e2apSetRicSubscriptionResponseSequenceNumber
  | .subscriptionDeleteRequest => e2apSetRicSubscriptionDeleteRequestSequenceNumber
  | .subscriptionDeleteResponse => e2apSetRicSubscriptionDeleteResponseSequenceNumber

theorem get_eq (message : SequencedMessage) : message.get = getSequenceNumber message.kind := by
  cases message with
  | subscriptionRequest => rfl
  | subscriptionResponse => rfl
  | subscriptionDeleteRequest => rfl
  | subscriptionDeleteResponse => rfl

theorem set_eq (message : SequencedMessage) : message.set = setSequenceNumber message.kind := by
  cases message with
  | subscriptionRequest => rfl
  | subscriptionResponse => rfl
  | subscriptionDeleteRequest => rfl
  | subscriptionDeleteResponse => rfl

end SequencedMessage

theorem ProtocolIe.requestID?_eq_none_iff {ie : ProtocolIe} :
    ie.requestID? = none ↔ ie.id ≠ idRICrequestID := by
  rcases ie with ⟨criticality, value⟩
  cases value with
  | ricRequestID request => simp [requestID?, ProtocolIe.id, IeValue.id]
  | other id content =>
      have hid : (id : Nat) ≠ idRICrequestID := by
        rintro same
        exact id.property (same ▸ by decide)
      simpa [requestID?, ProtocolIe.id, IeValue.id] using hid
  | _ =>
      simp [requestID?, ProtocolIe.id, IeValue.id, idRICrequestID, idRANfunctionID, idRICactionID,
        idRICindicationSN, idRICindicationType, idRICindicationHeader, idRICindicationMessage,
        idRICcallProcessID, idRICactionsAdmitted, idRICactionsNotAdmitted]

/-- The list splits at its first request id. -/
structure FirstRequestID (protocolIEs before : List ProtocolIe) (ie : ProtocolIe)
    (request : RICrequestID) (after : List ProtocolIe) : Prop where
  split : protocolIEs = before ++ ie :: after
  noneBefore : ∀ other ∈ before, other.id ≠ idRICrequestID
  value : ie.value = .ricRequestID request

theorem exists_firstRequestID {protocolIEs : List ProtocolIe}
    (member : ∃ ie ∈ protocolIEs, ie.id = idRICrequestID) :
    ∃ before ie request after, FirstRequestID protocolIEs before ie request after := by
  induction protocolIEs with
  | nil => simp at member
  | cons ie protocolIEs ih =>
      cases hrequest : ie.requestID? with
      | some request =>
          refine ⟨[], ie, request, protocolIEs, rfl, by simp, ?_⟩
          rw [ProtocolIe.requestID?] at hrequest
          split at hrequest
          · next found hvalue => rw [hvalue, Option.some.inj hrequest]
          · cases hrequest
      | none =>
          have hother := ProtocolIe.requestID?_eq_none_iff.mp hrequest
          have hlater : ∃ ie ∈ protocolIEs, ie.id = idRICrequestID := by
            simpa [hother] using member
          rcases ih hlater with ⟨before, first, request, after, found⟩
          refine ⟨ie :: before, first, request, after, ?_, ?_, found.value⟩
          · rw [found.split, List.cons_append]
          · intro other hmember
            rcases List.mem_cons.mp hmember with rfl | hmember
            · exact hother
            · exact found.noneBefore other hmember

section FirstRequestID

variable {protocolIEs before after : List ProtocolIe} {ie : ProtocolIe} {request : RICrequestID}

theorem FirstRequestID.instanceID (found : FirstRequestID protocolIEs before ie request after) :
    firstInstanceID protocolIEs = some request.ricInstanceID := by
  rcases found with ⟨rfl, noneBefore, value⟩
  induction before with
  | nil => simp [firstInstanceID, ProtocolIe.requestID?, value]
  | cons other before ih =>
      have hother := ProtocolIe.requestID?_eq_none_iff.mpr (noneBefore other (by simp))
      rw [List.cons_append, firstInstanceID, hother]
      exact ih fun later member => noneBefore later (by simp [member])

theorem FirstRequestID.replaced (found : FirstRequestID protocolIEs before ie request after)
    (sequenceNumber : UInt16) :
    setFirstInstanceID sequenceNumber protocolIEs =
      some (before ++ ie.withInstanceID sequenceNumber :: after) := by
  rcases found with ⟨rfl, noneBefore, value⟩
  induction before with
  | nil => simp [setFirstInstanceID, ProtocolIe.requestID?, value]
  | cons other before ih =>
      have hother := ProtocolIe.requestID?_eq_none_iff.mpr (noneBefore other (by simp))
      rw [List.cons_append, setFirstInstanceID, hother,
        ih fun later member => noneBefore later (by simp [member])]
      rfl

/-- The new list splits at the same IE, which has the new instance id and the old requestor. -/
theorem FirstRequestID.withInstanceID
    (found : FirstRequestID protocolIEs before ie request after) (sequenceNumber : UInt16) :
    FirstRequestID (before ++ ie.withInstanceID sequenceNumber :: after) before
      (ie.withInstanceID sequenceNumber) { request with ricInstanceID := sequenceNumber } after :=
  ⟨rfl, found.noneBefore, by simp [ProtocolIe.withInstanceID, found.value]⟩

end FirstRequestID

theorem setFirstInstanceID_eq_none {protocolIEs : List ProtocolIe}
    (missing : ¬∃ ie ∈ protocolIEs, ie.id = idRICrequestID) (sequenceNumber : UInt16) :
    setFirstInstanceID sequenceNumber protocolIEs = none := by
  induction protocolIEs with
  | nil => rfl
  | cons ie protocolIEs ih =>
      have hother : ie.requestID? = none :=
        ProtocolIe.requestID?_eq_none_iff.mpr fun same => missing ⟨ie, by simp, same⟩
      have hlater : ¬∃ ie ∈ protocolIEs, ie.id = idRICrequestID := fun ⟨later, member, same⟩ =>
        missing ⟨later, by simp [member], same⟩
      rw [setFirstInstanceID, hother, ih hlater]
      rfl

def E2apPdu.masked (pdu : E2apPdu) : E2apPdu :=
  { pdu with protocolIEs := pdu.protocolIEs.map (ProtocolIe.withInstanceID 0) }

/-- What is taken of the codec: an encoding decodes to the PDU it was made from, and other
instance ids do not make it longer, so that it fits where the PDU was decoded from. -/
structure Codec.RoundTrip (codec : Codec) : Prop where
  decodes : ∀ pdu buffer, 0 ≤ (codec.encode pdu buffer).1 →
    codec.decode (written (codec.encode pdu buffer)) = some pdu
  fits : ∀ buffer pdu changed, codec.decode buffer = some pdu → changed.masked = pdu.masked →
    0 ≤ (codec.encode changed buffer).1

@[simp] theorem ProtocolIe.withInstanceID_withInstanceID (first second : UInt16)
    (ie : ProtocolIe) :
    (ie.withInstanceID first).withInstanceID second = ie.withInstanceID second := by
  rcases ie with ⟨criticality, value⟩
  cases value <;> rfl

section ReadBack

variable {kind : MessageKind} {codec : Codec} {buffer : List UInt8} {pdu : E2apPdu}

theorem sequenceNumber_of_other
    (other : ∀ pdu, codec.decode buffer = some pdu → ¬kind.describes pdu)
    (sequenceNumber : UInt16) :
    getSequenceNumber kind codec buffer = -1 ∧
      (setSequenceNumber kind codec buffer sequenceNumber).1 = -1 := by
  cases hdecoded : codec.decode buffer with
  | none => simp [getSequenceNumber, setSequenceNumber, hdecoded]
  | some pdu => simp [getSequenceNumber, setSequenceNumber, hdecoded, other pdu hdecoded]

theorem setSequenceNumber_of_missing (decoded : codec.decode buffer = some pdu)
    (described : kind.describes pdu)
    (missing : ¬∃ ie ∈ pdu.protocolIEs, ie.id = idRICrequestID) (sequenceNumber : UInt16) :
    setSequenceNumber kind codec buffer sequenceNumber = (-1, buffer) := by
  simp only [setSequenceNumber, decoded, if_pos described,
    setFirstInstanceID_eq_none missing sequenceNumber]

variable {before after : List ProtocolIe} {ie : ProtocolIe} {request : RICrequestID}

theorem setSequenceNumber_of_found (decoded : codec.decode buffer = some pdu)
    (described : kind.describes pdu)
    (found : FirstRequestID pdu.protocolIEs before ie request after) (sequenceNumber : UInt16) :
    setSequenceNumber kind codec buffer sequenceNumber =
      codec.encode
        { pdu with protocolIEs := before ++ ie.withInstanceID sequenceNumber :: after } buffer := by
  simp only [setSequenceNumber, decoded, if_pos described, found.replaced sequenceNumber]

theorem getSequenceNumber_of_found (decoded : codec.decode buffer = some pdu)
    (described : kind.describes pdu)
    (found : FirstRequestID pdu.protocolIEs before ie request after) :
    getSequenceNumber kind codec buffer = request.ricInstanceID.toNat := by
  simp only [getSequenceNumber, decoded, if_pos described, found.instanceID]

end ReadBack

/-- A set function succeeds exactly where there is a request id; what it has written then decodes
to the PDU with the new instance id in its first request id and nothing else changed, and the
get function reads the new number from it. On another PDU both functions fail. -/
theorem sequence_number_read_back (codec : Codec) (faithful : codec.RoundTrip)
    (message : SequencedMessage) (buffer : List UInt8) (sequenceNumber : UInt16) :
    (∀ pdu, codec.decode buffer = some pdu → message.kind.describes pdu →
      (0 ≤ (message.set codec buffer sequenceNumber).1 ↔
        ∃ ie ∈ pdu.protocolIEs, ie.id = idRICrequestID) ∧
      ((∃ ie ∈ pdu.protocolIEs, ie.id = idRICrequestID) →
        message.get codec (written (message.set codec buffer sequenceNumber)) =
          sequenceNumber.toNat ∧
        ∃ before ie request after, FirstRequestID pdu.protocolIEs before ie request after ∧
          codec.decode (written (message.set codec buffer sequenceNumber)) =
            some { pdu with
              protocolIEs := before ++
                { ie with
                  value := .ricRequestID { request with ricInstanceID := sequenceNumber } } ::
                after })) ∧
    ((∀ pdu, codec.decode buffer = some pdu → ¬message.kind.describes pdu) →
      message.get codec buffer = -1 ∧ (message.set codec buffer sequenceNumber).1 = -1) := by
  rw [message.get_eq, message.set_eq]
  refine ⟨?_, fun other => sequenceNumber_of_other other sequenceNumber⟩
  intro pdu decoded described
  by_cases present : ∃ ie ∈ pdu.protocolIEs, ie.id = idRICrequestID
  · rcases exists_firstRequestID present with ⟨before, ie, request, after, found⟩
    have hset := setSequenceNumber_of_found decoded described found sequenceNumber
    have hmasked : E2apPdu.masked
        { pdu with protocolIEs := before ++ ie.withInstanceID sequenceNumber :: after } =
          pdu.masked := by
      simp [E2apPdu.masked, found.split]
    have hfits := faithful.fits buffer pdu _ decoded hmasked
    have hdecodes := faithful.decodes _ buffer hfits
    refine ⟨iff_of_true (by rw [hset]; exact hfits) present, fun _ => ⟨?_, ?_⟩⟩
    · rw [hset]
      exact getSequenceNumber_of_found hdecodes described (found.withInstanceID sequenceNumber)
    · refine ⟨before, ie, request, after, found, ?_⟩
      rw [hset, hdecodes]
      simp [ProtocolIe.withInstanceID, found.value]
  · have hset := setSequenceNumber_of_missing decoded described present sequenceNumber
    have hfails : ¬0 ≤ (setSequenceNumber message.kind codec buffer sequenceNumber).1 := by
      rw [hset]
      exact Int.not_le.mpr (Int.negSucc_lt_zero 0)
    exact ⟨iff_of_false hfails present, fun member => absurd member present⟩

def deleteRequestBytes (sequenceNumber : UInt16) : List UInt8 :=
  [0x00, 0x09, 0x00, 0x12, 0x00, 0x00, 0x02,
    0x00, 0x1D, 0x00, 0x05, 0x00, 0x00, 0x7B,
    (sequenceNumber.toNat / 256).toUInt8, (sequenceNumber.toNat % 256).toUInt8,
    0x00, 0x05, 0x00, 0x02, 0x00, 0x01]

def deleteRequestPdu (sequenceNumber : UInt16) : E2apPdu where
  present := .initiatingMessage
  procedureCode := idRICsubscriptionDelete
  value := .ricSubscriptionDeleteRequest
  protocolIEs :=
    [{ value := .ricRequestID ⟨123, sequenceNumber⟩ }, { value := .ranFunctionID 1 }]

/-- A codec for these delete requests only. -/
def deleteRequestCodec : Codec where
  decode := fun bytes =>
    match bytes[14]?, bytes[15]? with
    | some high, some low =>
        let sequenceNumber := (high.toNat * 256 + low.toNat).toUInt16
        if bytes = deleteRequestBytes sequenceNumber then some (deleteRequestPdu sequenceNumber)
        else none
    | _, _ => none
  encode := fun pdu buffer =>
    match firstInstanceID pdu.protocolIEs with
    | some sequenceNumber =>
        if pdu = deleteRequestPdu sequenceNumber ∧ 22 ≤ buffer.length then
          (176, deleteRequestBytes sequenceNumber ++ buffer.drop 22)
        else (-1, buffer)
    | none => (-1, buffer)
  decode_nil := rfl

theorem octets_of_sequenceNumber (sequenceNumber : UInt16) :
    ((sequenceNumber.toNat / 256).toUInt8.toNat * 256 +
      (sequenceNumber.toNat % 256).toUInt8.toNat).toUInt16 = sequenceNumber := by
  have hbound := sequenceNumber.toNat_lt
  have hhigh : (sequenceNumber.toNat / 256).toUInt8.toNat = sequenceNumber.toNat / 256 := by
    apply UInt8.toNat_ofNat_of_lt'
    rw [UInt8.size]
    omega
  have hlow : (sequenceNumber.toNat % 256).toUInt8.toNat = sequenceNumber.toNat % 256 := by
    apply UInt8.toNat_ofNat_of_lt'
    rw [UInt8.size]
    omega
  rw [hhigh, hlow, Nat.div_add_mod']
  exact UInt16.ofNat_toNat

theorem deleteRequestCodec_decode (sequenceNumber : UInt16) :
    deleteRequestCodec.decode (deleteRequestBytes sequenceNumber) =
      some (deleteRequestPdu sequenceNumber) := by
  change (if deleteRequestBytes sequenceNumber = deleteRequestBytes (Nat.toUInt16 _) then
    some (deleteRequestPdu (Nat.toUInt16 _)) else none) = _
  rw [octets_of_sequenceNumber, if_pos rfl]

theorem deleteRequestCodec_encode (sequenceNumber : UInt16) {buffer : List UInt8}
    (fits : 22 ≤ buffer.length) :
    deleteRequestCodec.encode (deleteRequestPdu sequenceNumber) buffer =
      (176, deleteRequestBytes sequenceNumber ++ buffer.drop 22) :=
  if_pos ⟨rfl, fits⟩

theorem ProtocolIe.exists_withInstanceID (ie : ProtocolIe) :
    ∃ sequenceNumber, ie.withInstanceID sequenceNumber = ie := by
  rcases ie with ⟨criticality, value⟩
  cases value with
  | ricRequestID request => exact ⟨request.ricInstanceID, rfl⟩
  | _ => exact ⟨0, rfl⟩

theorem ProtocolIe.eq_of_withInstanceID_eq {ie other : ProtocolIe}
    (same : ie.withInstanceID 0 = other.withInstanceID 0) :
    ∃ sequenceNumber, ie = other.withInstanceID sequenceNumber := by
  rcases ie.exists_withInstanceID with ⟨sequenceNumber, hie⟩
  refine ⟨sequenceNumber, ?_⟩
  calc ie = (ie.withInstanceID 0).withInstanceID sequenceNumber := by simp [hie]
    _ = (other.withInstanceID 0).withInstanceID sequenceNumber := by rw [same]
    _ = other.withInstanceID sequenceNumber := by simp

theorem eq_deleteRequestPdu {changed : E2apPdu} {sequenceNumber : UInt16}
    (masked : changed.masked = (deleteRequestPdu sequenceNumber).masked) :
    ∃ other, changed = deleteRequestPdu other := by
  rcases changed with ⟨present, procedureCode, criticality, value, protocolIEs⟩
  simp only [E2apPdu.masked, deleteRequestPdu, E2apPdu.mk.injEq, List.map_cons, List.map_nil,
    List.map_eq_cons_iff, List.map_eq_nil_iff] at masked
  rcases masked with ⟨rfl, rfl, rfl, rfl, first, rest, rfl, hfirst, second, nothing, rfl, hsecond, rfl⟩
  rcases ProtocolIe.eq_of_withInstanceID_eq hfirst with ⟨number, rfl⟩
  rcases ProtocolIe.eq_of_withInstanceID_eq hsecond with ⟨_, rfl⟩
  exact ⟨number, rfl⟩

theorem deleteRequestCodec_roundTrip : deleteRequestCodec.RoundTrip where
  decodes := by
    intro pdu buffer encoded
    cases hnumber : firstInstanceID pdu.protocolIEs with
    | none => simp [deleteRequestCodec, hnumber] at encoded
    | some sequenceNumber =>
        by_cases accepted : pdu = deleteRequestPdu sequenceNumber ∧ 22 ≤ buffer.length
        · rw [accepted.1, deleteRequestCodec_encode sequenceNumber accepted.2]
          have hwritten : written (176, deleteRequestBytes sequenceNumber ++ buffer.drop 22) =
              deleteRequestBytes sequenceNumber :=
            List.take_left' (by simp [deleteRequestBytes])
          rw [hwritten, deleteRequestCodec_decode sequenceNumber]
        · simp [deleteRequestCodec, hnumber, accepted] at encoded
  fits := by
    intro buffer pdu changed decoded masked
    simp only [deleteRequestCodec] at decoded
    split at decoded
    · next high low _ _ =>
      split at decoded
      · next hbuffer =>
        obtain rfl := Option.some.inj decoded
        rcases eq_deleteRequestPdu masked with ⟨other, rfl⟩
        have hlength : 22 ≤ buffer.length := by
          rw [hbuffer]
          exact Nat.le_refl 22
        rw [deleteRequestCodec_encode other hlength]
        exact Int.natCast_nonneg 176
      · cases decoded
    · cases decoded

/-- The delete request with the number 7 is given the number 300. -/
theorem deleteRequest_read_back :
    (0 ≤ (e2apSetRicSubscriptionDeleteRequestSequenceNumber deleteRequestCodec
        (deleteRequestBytes 7) 300).1 ↔
      ∃ ie ∈ (deleteRequestPdu 7).protocolIEs, ie.id = idRICrequestID) ∧
    e2apGetRicSubscriptionDeleteRequestSequenceNumber deleteRequestCodec
      (written (e2apSetRicSubscriptionDeleteRequestSequenceNumber deleteRequestCodec
        (deleteRequestBytes 7) 300)) = 300 := by
  have hback := (sequence_number_read_back deleteRequestCodec deleteRequestCodec_roundTrip
    .subscriptionDeleteRequest (deleteRequestBytes 7) 300).1 (deleteRequestPdu 7)
      (deleteRequestCodec_decode 7) ⟨rfl, rfl, rfl⟩
  exact ⟨hback.1, (hback.2 ⟨_, List.mem_cons_self, rfl⟩).1⟩

end NearRtRic.Kpimon.E2ap
