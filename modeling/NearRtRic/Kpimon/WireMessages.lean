import NearRtRic.Kpimon.WireFormat

/-! The messages of a RAN from its encoder to the Go structures of the xApp, by way of E2T, which
decodes them too and hands their octets on. -/

namespace NearRtRic.Kpimon.E2ap

open Asn1 Asn1.E2ap CMemory FixedArray
open SubscriptionRequest (Criticality)

def contentType (id : Nat) : Descriptor :=
  if id = idRICrequestID then Asn1.E2ap.ricRequestID
  else if id = idRANfunctionID then Asn1.E2ap.ranFunctionID
  else if id = idRICactionID then Asn1.E2ap.ricActionID
  else if id = idRICindicationSN then Asn1.E2ap.ricIndicationSN
  else if id = idRICindicationType then Asn1.E2ap.ricIndicationType
  else if id = idRICactionsAdmitted then Asn1.E2ap.ricActionAdmittedList
  else if id = idRICactionsNotAdmitted then Asn1.E2ap.ricActionNotAdmittedList
  else octetString

/-- The octets that a content takes beside a few that every one does: those of a string, and some
for each item of a list. -/
def IeValue.load : IeValue → Nat
  | .ricIndicationHeader octets => octets.val.length
  | .ricIndicationMessage octets => octets.val.length
  | .ricCallProcessID octets => octets.val.length
  | .ricActionAdmittedList items => 24 * items.val.length
  | .ricActionNotAdmittedList items => 24 * items.val.length
  | _ => 0

/-- Actions are admitted in lists of at least one. -/
def IeValue.filled : IeValue → Bool
  | .ricActionAdmittedList items => !items.val.isEmpty
  | _ => true

theorem criticality_fits (code : Criticality) :
    fits Asn1.E2ap.criticality (.integer (criticalityCode code)) = true ∧
      sizeAper Asn1.E2ap.criticality (.integer (criticalityCode code)) = 33 := by
  cases code <;> exact ⟨by decide, rfl⟩

theorem cause_fits (given : Cause) :
    fits Asn1.E2ap.cause (causeContent given) = true ∧
      sizeAper Asn1.E2ap.cause (causeContent given) = 57 := by
  have hric : ∀ value : Fin 11, fits Asn1.E2ap.cause (causeContent (.ricRequest value)) = true := by
    decide
  have hservice : ∀ value : Fin 3, fits Asn1.E2ap.cause (causeContent (.ricService value)) = true := by
    decide
  have htransport : ∀ value : Fin 2, fits Asn1.E2ap.cause (causeContent (.transport value)) = true := by
    decide
  have hprotocol : ∀ value : Fin 7, fits Asn1.E2ap.cause (causeContent (.protocol value)) = true := by
    decide
  have hmisc : ∀ value : Fin 4, fits Asn1.E2ap.cause (causeContent (.misc value)) = true := by
    decide
  cases given with
  | ricRequest value => exact ⟨hric value, rfl⟩
  | ricService value => exact ⟨hservice value, rfl⟩
  | transport value => exact ⟨htransport value, rfl⟩
  | protocol value => exact ⟨hprotocol value, rfl⟩
  | misc value => exact ⟨hmisc value, rfl⟩

theorem number16_fits (value : UInt16) :
    fits (number (constrained 16 16 0 65535)) (.integer value.toNat) = true ∧
      sizeAper (number (constrained 16 16 0 65535)) (.integer value.toNat) = 24 := by
  have hvalue := value.toNat_lt
  exact number_fits (by decide) (by decide) (by unfold IsLong; omega) (by omega) (by omega)

theorem number8_fits (value : UInt8) :
    fits (number (constrained 8 8 0 255)) (.integer value.toNat) = true ∧
      sizeAper (number (constrained 8 8 0 255)) (.integer value.toNat) = 24 := by
  have hvalue := value.toNat_lt
  exact number_fits (by decide) (by decide) (by unfold IsLong; omega) (by omega) (by omega)

theorem selecting_fits {rows : Messages} {index id octets : Nat} {type : Descriptor} {value : Value}
    (here : rows[index]? = some ((id : Int), type)) (codes : (rows.map Prod.fst).Nodup)
    (known : id ≤ 65535) (code : Criticality) (fit : fits type value = true)
    (small : sizeAper type value ≤ 8 * octets) (short : octets < 16384) :
    fits (ieType rows) (ieOf id (criticalityCode code) index value) = true ∧
      sizeAper (ieType rows) (ieOf id (criticalityCode code) index value) ≤ 89 + 8 * octets := by
  have hcriticality := criticality_fits code
  have hid : fits protocolIEID (.integer id) = true ∧ sizeAper protocolIEID (.integer id) = 24 :=
    number_fits (by decide) (by decide) (by unfold IsLong; omega) (by omega) (by omega)
  have hends : endsOpen (encodeAper type value) = true := endsOpen_of_size (by omega)
  have hopen : openBits (sizeAper type value) ≤ 31 + 8 * octets := by
    have hfew : max 1 ((sizeAper type value + 7) / 8) ≤ max 1 octets := by omega
    have hone : max 1 octets / 16384 = 0 := Nat.div_eq_of_lt (by omega)
    apply (bodyBits_mono hfew).trans
    rw [bodyBits, lengthBits, hone]
    omega
  have hsize := sizeAper_selecting protocolIEID here (criticalityCode code) value
  rw [hcriticality.2, hid.2] at hsize
  refine ⟨fits_selecting here codes hid.1 hcriticality.1 fit hends, ?_⟩
  exact hsize.trans_le (by simp only; omega)

theorem single_fits {itemID : Nat} (known : itemID ≤ 65535) (code : Criticality) {type : Descriptor}
    {value : Value} (fit : fits type value = true) (small : sizeAper type value ≤ 82) :
    fits (protocolIESingleContainer itemID type) (ieOf itemID (criticalityCode code) 0 value) = true ∧
      sizeAper (protocolIESingleContainer itemID type) (ieOf itemID (criticalityCode code) 0 value) ≤
        192 := by
  have hrow : [((itemID : Int), type)][0]? = some ((itemID : Int), type) := rfl
  have hoctets : sizeAper type value ≤ 8 * 11 := by omega
  have hitem := selecting_fits hrow (List.nodup_singleton _) known code fit hoctets (by decide)
  exact ⟨hitem.1, hitem.2.trans (by decide)⟩

theorem list_of_items_fits (bits : Nat) {lower : Nat} {element : Descriptor} {array : List Value}
    (each : ∀ value ∈ array, fits element value = true ∧ sizeAper element value ≤ 192)
    (least : lower ≤ array.length) (few : array.length ≤ 16) :
    fits (.setOf (some (constrained bits bits lower 16)) element) (.list array) = true ∧
      sizeAper (.setOf (some (constrained bits bits lower 16)) element) (.list array) ≤
        24 + 192 * array.length := by
  constructor
  · rw [fits, decide_eq_true (list_fits (by omega) (by omega) (by omega)), Bool.true_and,
      List.all_eq_true]
    exact fun value among => (each value among).1
  · have hbound : ∀ size ∈ array.map (sizeAper element), size ≤ 192 := by
      intro size among
      rcases List.mem_map.mp among with ⟨value, member, rfl⟩
      exact (each value member).2
    have hsum := List.sum_le_card_nsmul _ _ hbound
    have hone : array.length / 16384 = 0 := Nat.div_eq_of_lt (by omega)
    rw [List.length_map, smul_eq_mul] at hsum
    rw [sizeAper_list, lengthBits, hone]
    omega

theorem items_fit (bits : Nat) {Item : Type} {itemID lower : Nat} (known : itemID ≤ 65535)
    {type : Descriptor} {content : Item → Value}
    (each : ∀ item : Item, fits type (content item) = true ∧ sizeAper type (content item) ≤ 82)
    (items : Bounded 16 (ItemIe itemID Item)) (least : lower ≤ items.val.length) :
    fits (.setOf (some (constrained bits bits lower 16)) (protocolIESingleContainer itemID type))
        (.list (items.val.map (itemContent content))) = true ∧
      sizeAper (.setOf (some (constrained bits bits lower 16)) (protocolIESingleContainer itemID type))
        (.list (items.val.map (itemContent content))) ≤ 24 + 192 * items.val.length := by
  have hlength : (items.val.map (itemContent content)).length = items.val.length := List.length_map _
  rw [← hlength] at least ⊢
  apply list_of_items_fits bits _ least (hlength.trans_le items.property)
  intro value among
  rcases List.mem_map.mp among with ⟨item, _, rfl⟩
  rw [itemContent, item.known]
  exact single_fits known item.criticality (each item.value).1 (each item.value).2

theorem octetsContent_fits {octets : Octets} (short : octets.val.length < 16384) :
    fits octetString (octetsContent octets) = true ∧
      sizeAper octetString (octetsContent octets) = 31 + 8 * octets.val.length :=
  octets_fit short

theorem content_fits {value : IeValue} (known : value.id ∈ readIDs) (filled : value.filled = true)
    (short : value.load ≤ 16000) :
    fits (contentType value.id) (ieContent value) = true ∧
      sizeAper (contentType value.id) (ieContent value) ≤ 57 + 8 * value.load := by
  cases value with
  | other id content => exact absurd known id.property
  | ricRequestID request =>
      have hrequestor := number16_fits request.ricRequestorID
      have hinstance := number16_fits request.ricInstanceID
      have hrequest := fits_sequenceOfAll (.cons hrequestor.1 (.cons hinstance.1 .nil))
      refine ⟨hrequest.1, hrequest.2.trans_le ?_⟩
      simp only [List.zipWith_cons_cons, List.zipWith_nil_left, List.sum_cons, List.sum_nil,
        hrequestor.2, hinstance.2]
      omega
  | ranFunctionID function =>
      have hfunction : fits Asn1.E2ap.ranFunctionID (.integer function.val) = true ∧
          sizeAper Asn1.E2ap.ranFunctionID (.integer function.val) = 24 :=
        number_fits (by decide) (by decide) (by unfold IsLong; omega) (by omega) (by omega)
      exact ⟨hfunction.1, hfunction.2.trans_le (by omega)⟩
  | ricActionID action =>
      have haction := number8_fits action
      exact ⟨haction.1, haction.2.trans_le (by omega)⟩
  | ricIndicationSN number =>
      have hnumber := number16_fits number
      exact ⟨hnumber.1, hnumber.2.trans_le (by omega)⟩
  | ricIndicationType type =>
      cases type <;> exact ⟨by decide, by decide⟩
  | ricIndicationHeader octets =>
      have hoctets := octetsContent_fits (lt_of_le_of_lt short (by decide))
      exact ⟨hoctets.1, hoctets.2.trans_le (by simp only [IeValue.load]; omega)⟩
  | ricIndicationMessage octets =>
      have hoctets := octetsContent_fits (lt_of_le_of_lt short (by decide))
      exact ⟨hoctets.1, hoctets.2.trans_le (by simp only [IeValue.load]; omega)⟩
  | ricCallProcessID octets =>
      have hoctets := octetsContent_fits (lt_of_le_of_lt short (by decide))
      exact ⟨hoctets.1, hoctets.2.trans_le (by simp only [IeValue.load]; omega)⟩
  | ricActionAdmittedList items =>
      have hadmitted : ∀ item : AdmittedItem, fits Asn1.E2ap.ricActionAdmittedItem
            (.sequence [some (.integer item.ricActionID.toNat)]) = true ∧
          sizeAper Asn1.E2ap.ricActionAdmittedItem
            (.sequence [some (.integer item.ricActionID.toNat)]) ≤ 82 := by
        intro item
        have haction := number8_fits item.ricActionID
        have hitem := fits_sequenceOfAll (.cons haction.1 .nil)
        refine ⟨hitem.1, hitem.2.trans_le ?_⟩
        simp only [List.zipWith_cons_cons, List.zipWith_nil_left, List.sum_cons, List.sum_nil,
          haction.2]
        omega
      have hsome : items.val ≠ [] := by
        intro none
        simp only [IeValue.filled, none] at filled
        cases filled
      have hitems := items_fit 4 (by decide) hadmitted items (List.length_pos_of_ne_nil hsome)
      exact ⟨hitems.1, hitems.2.trans (by simp only [IeValue.load]; omega)⟩
  | ricActionNotAdmittedList items =>
      have hnotAdmitted : ∀ item : NotAdmittedItem, fits Asn1.E2ap.ricActionNotAdmittedItem
            (.sequence [some (.integer item.ricActionID.toNat), some (causeContent item.cause)]) = true ∧
          sizeAper Asn1.E2ap.ricActionNotAdmittedItem
            (.sequence [some (.integer item.ricActionID.toNat), some (causeContent item.cause)]) ≤ 82 := by
        intro item
        have haction := number8_fits item.ricActionID
        have hcause := cause_fits item.cause
        have hitem := fits_sequenceOfAll (.cons haction.1 (.cons hcause.1 .nil))
        refine ⟨hitem.1, hitem.2.trans_le ?_⟩
        simp only [List.zipWith_cons_cons, List.zipWith_nil_left, List.sum_cons, List.sum_nil,
          haction.2, hcause.2]
        omega
      have hitems := items_fit 5 (by decide) hnotAdmitted items (Nat.zero_le _)
      exact ⟨hitems.1, hitems.2.trans (by simp only [IeValue.load]; omega)⟩

/-- The wrapper reads IEs of these ids, as these types. -/
def Readable (rows : Messages) : Prop :=
  ∃ ids : List Nat, ids ⊆ readIDs ∧ rows = ids.map fun (id : Nat) => ((id : Int), contentType id)

theorem indicationIEs_readable : Readable indicationIEs :=
  ⟨[idRICrequestID, idRANfunctionID, idRICactionID, idRICindicationSN, idRICindicationType,
    idRICindicationHeader, idRICindicationMessage, idRICcallProcessID], by decide, rfl⟩

theorem subscriptionResponseIEs_readable : Readable subscriptionResponseIEs :=
  ⟨[idRICrequestID, idRANfunctionID, idRICactionsAdmitted, idRICactionsNotAdmitted], by decide, rfl⟩

/-- IEs of a message, each id once. -/
structure Sendable (rows : Messages) (ies : List ProtocolIe) : Prop where
  listed : ∀ ie ∈ ies, (ie.id : Int) ∈ rows.map Prod.fst
  distinct : (ies.map ProtocolIe.id).Nodup
  filled : ∀ ie ∈ ies, ie.value.filled = true

def load (ies : List ProtocolIe) : Nat :=
  (ies.map fun ie => ie.value.load).sum

variable {rows : Messages} {ies : List ProtocolIe} {ie : ProtocolIe}

theorem row_of_listed (readable : Readable rows) (listed : (ie.id : Int) ∈ rows.map Prod.fst) :
    ie.id ∈ readIDs ∧
      rows[(rows.map Prod.fst).idxOf (ie.id : Int)]? = some ((ie.id : Int), contentType ie.id) := by
  have hinside := List.idxOf_lt_length_iff.mpr listed
  have hcode := List.getElem_idxOf hinside
  rw [List.getElem_map] at hcode
  rw [List.length_map] at hinside
  rcases readable with ⟨ids, known, hrows⟩
  have hrow : rows[(rows.map Prod.fst).idxOf (ie.id : Int)] ∈
      ids.map fun (id : Nat) => ((id : Int), contentType id) := hrows ▸ List.getElem_mem hinside
  rcases List.mem_map.mp hrow with ⟨id, among, same⟩
  rw [← same] at hcode
  obtain rfl : id = ie.id := Int.ofNat.inj hcode
  exact ⟨known among, (List.getElem?_eq_getElem hinside).trans (congrArg some same.symm)⟩

theorem wireIe_fits (readable : Readable rows) (codes : (rows.map Prod.fst).Nodup)
    (listed : (ie.id : Int) ∈ rows.map Prod.fst) (filled : ie.value.filled = true)
    (short : ie.value.load ≤ 16000) :
    fits (ieType rows) (wireIe rows ie) = true ∧
      sizeAper (ieType rows) (wireIe rows ie) ≤ 153 + 8 * ie.value.load := by
  rcases row_of_listed readable listed with ⟨known, here⟩
  have hknown : ie.id ≤ 65535 := by
    have hall : ∀ id ∈ readIDs, id ≤ 65535 := by decide
    exact hall ie.id known
  have hcontent := content_fits known filled short
  have hoctets : sizeAper (contentType ie.id) (ieContent ie.value) ≤ 8 * (8 + ie.value.load) :=
    hcontent.2.trans (by omega)
  have hie := selecting_fits here codes hknown ie.criticality hcontent.1 hoctets (by omega)
  exact ⟨hie.1, hie.2.trans (by omega)⟩

theorem load_le (among : ie ∈ ies) : ie.value.load ≤ load ies :=
  List.le_sum_of_mem (List.mem_map_of_mem among)

theorem length_le (sendable : Sendable rows ies) : ies.length ≤ rows.length := by
  have hdistinct : (ies.map fun ie => (ie.id : Int)).Nodup := by
    have hcast := sendable.distinct.map (f := Int.ofNat) fun _ _ same => Int.ofNat.inj same
    rwa [List.map_map] at hcast
  have hsubset : (ies.map fun ie => (ie.id : Int)) ⊆ rows.map Prod.fst := by
    intro code among
    rcases List.mem_map.mp among with ⟨ie, member, rfl⟩
    exact sendable.listed ie member
  have hlength := (hdistinct.subperm hsubset).length_le
  rwa [List.length_map, List.length_map] at hlength

theorem sum_size_le
    (each : ∀ ie ∈ ies, sizeAper (ieType rows) (wireIe rows ie) ≤ 153 + 8 * ie.value.load) :
    ((ies.map (wireIe rows)).map (sizeAper (ieType rows))).sum ≤
      153 * ies.length + 8 * load ies := by
  unfold load
  induction ies with
  | nil => exact le_rfl
  | cons first ies ih =>
      have hfirst := each first (List.mem_cons_self ..)
      have hrest := ih fun ie among => each ie (List.mem_cons_of_mem _ among)
      simp only [List.map_cons, List.sum_cons, List.length_cons]
      omega

theorem message_fits (readable : Readable rows) (codes : (rows.map Prod.fst).Nodup)
    (few : rows.length ≤ 8) (sendable : Sendable rows ies) (short : load ies ≤ 16000) :
    fits (message rows) (containerOf (ies.map (wireIe rows))) = true ∧
      sizeAper (message rows) (containerOf (ies.map (wireIe rows))) ≤ 8 * 16383 := by
  have hlength := length_le sendable
  have heach := fun ie (among : ie ∈ ies) =>
    wireIe_fits readable codes (sendable.listed ie among) (sendable.filled ie among)
      ((load_le among).trans short)
  have hwire : ∀ value ∈ ies.map (wireIe rows), fits (ieType rows) value = true := by
    intro value among
    rcases List.mem_map.mp among with ⟨ie, member, rfl⟩
    exact (heach ie member).1
  have hmany : (ies.map (wireIe rows)).length = ies.length := List.length_map _
  have hmessage := fits_message rows (by omega) hwire
  refine ⟨hmessage.1, hmessage.2.trans_le ?_⟩
  have hsum := sum_size_le fun ie among => (heach ie among).2
  have hone : ies.length / 16384 = 0 := Nat.div_eq_of_lt (by omega)
  rw [hmany, lengthBits, hone]
  omega

/-- A PDU whose message has the row of this place in its kind. -/
def wirePdu (kind index : Nat) (code : UInt8) (criticality : Criticality) (rows : Messages)
    (ies : List ProtocolIe) : Value :=
  pduOfKind kind (some (.integer code.toNat)) (some (.integer (criticalityCode criticality))) index
    (containerOf (ies.map (wireIe rows)))

theorem readPdu_wire {kind index : Nat} {present : E2apPduPR}
    (kindOf : readPresent (kind + 1) = some present) (readable : Readable rows)
    (listed : ∀ ie ∈ ies, (ie.id : Int) ∈ rows.map Prod.fst) (code : UInt8) (criticality : Criticality) :
    readPdu (wirePdu kind index code criticality rows ies) =
      some
        { present
          procedureCode := code
          criticality
          value := readMessagePR present (index + 1)
          protocolIEs := ies } := by
  have hies : (ies.map (wireIe rows)).mapM readIe = some ies :=
    mapM_content fun ie among => readIe_wire rows (row_of_listed readable (listed ie among)).1
  have hcode : UInt8.ofNat (code.toNat : Int).toNat = code := by
    rw [Int.toNat_natCast, UInt8.ofNat_toNat]
  simp only [wirePdu, pduOfKind, messageOfKind, containerOf, readPdu, kindOf, readCriticality_code,
    hies, hcode]
  rfl

/-- A message that both versions have, from the octets that it is encoded to: E2T reads the message
in them, and the wrapper its PDU. -/
theorem message_received (kind index index' : Nat) (code : UInt8) {present : E2apPduPR}
    {older newer : Messages} (kindOf : readPresent (kind + 1) = some present)
    (one : V0100.kinds[kind]? = some older) (other : Asn1.E2ap.kinds[kind]? = some newer)
    (here : older[index]? = some ((code.toNat : Int), message rows))
    (there : newer[index']? = some ((code.toNat : Int), message rows))
    (readable : Readable rows) (codes : (rows.map Prod.fst).Nodup) (few : rows.length ≤ 8)
    (sendable : Sendable rows ies) (short : load ies ≤ 16000) (criticality : Criticality) :
    ∃ buf, aperEncodeToNewBuffer (encodeAper Asn1.E2ap.e2apPDU
          (wirePdu kind index' code criticality rows ies)) = .ok buf ∧
      aperDecodeComplete (decodeAper .oranE2 Asn1.E2ap.e2apPDU) buf =
        .ok (wirePdu kind index' code criticality rows ies, buf.length) ∧
      decodeE2apPdu buf = some
        { present
          procedureCode := code
          criticality
          value := readMessagePR present (index + 1)
          protocolIEs := ies } := by
  have hbody := message_fits readable codes few sendable short
  have hcode := number8_fits code
  have hcriticality := criticality_fits criticality
  have hkind : kind ≤ 2 := by
    have hinside := (List.getElem?_eq_some_iff.mp other).1
    exact Nat.le_of_lt_succ hinside
  have hpdu : fits Asn1.E2ap.e2apPDU (wirePdu kind index' code criticality rows ies) = true :=
    fits_pdu hkind other there (kinds_distinct.2 newer (List.mem_of_getElem? other)) hcode.1
      hcriticality.1 hbody.1 (endsOpen_of_size hbody.2)
  have hshared : Shared kind index index' :=
    ⟨_, by rw [one]; exact here, by rw [other]; exact there⟩
  have hnew : Transmission.Conveys _ (decodeAper .oranE2 Asn1.E2ap.e2apPDU) _ :=
    encodeAper_conveys Asn1.E2ap.e2apPDU _ e2apPDU_wellFormed hpdu
  rcases read_alike (shared_conveys hshared hpdu) hnew with ⟨buf, hencode, hdecode⟩
  have hboth := hdecode []
  rw [List.append_nil] at hboth
  refine ⟨buf, hencode, hboth.2, ?_⟩
  rw [decodeE2apPdu, hboth.1]
  exact readPdu_wire kindOf readable sendable.listed code criticality

def indicationOnWire (criticality : Criticality) (ies : List ProtocolIe) : Value :=
  wirePdu 0 8 idRICindication criticality indicationIEs ies

/-- An indication with the IEs of its table, in any order, reaches the xApp by way of E2T, unless it
takes too much to come back through an open type: the Go structure shows every IE. -/
theorem indication_received (encode : E2apPdu → List UInt8 → Int × List UInt8)
    (sendable : Sendable indicationIEs ies) (short : load ies ≤ 16000) (criticality : Criticality) :
    ∃ buf copied,
      aperEncodeToNewBuffer (encodeAper Asn1.E2ap.e2apPDU (indicationOnWire criticality ies)) = .ok buf ∧
      aperDecodeComplete (decodeAper .oranE2 Asn1.E2ap.e2apPDU) buf =
        .ok (indicationOnWire criticality ies, buf.length) ∧
      getIndicationMessage (wireCodec encode) buf = .ok (copied, none) ∧ copied.ShowsAll ies := by
  rcases message_received 0 6 8 idRICindication rfl rfl rfl rfl rfl indicationIEs_readable (by decide)
      (by decide) sendable short criticality with ⟨buf, hencode, hdecode, hread⟩
  have decoded : (wireCodec encode).decode buf = some _ := hread
  rcases indication_decoded decoded ⟨rfl, rfl, rfl⟩ sendable.distinct with ⟨msg, hmsg, hshown⟩
  rcases indicationCopy_shown hshown with ⟨copied, hcopy, hcopied⟩
  exact ⟨buf, copied, hencode, hdecode, getIndicationMessage_eq decoded hmsg hcopy, hcopied⟩

theorem indication_received_report :
    ∃ buf copied,
      aperEncodeToNewBuffer (encodeAper Asn1.E2ap.e2apPDU
        (indicationOnWire .ignore (reportIes.map Prod.fst))) = .ok buf ∧
      aperDecodeComplete (decodeAper .oranE2 Asn1.E2ap.e2apPDU) buf =
        .ok (indicationOnWire .ignore (reportIes.map Prod.fst), buf.length) ∧
      getIndicationMessage (wireCodec fun _ buffer => (-1, buffer)) buf = .ok (copied, none) ∧
      copied.ShowsAll (reportIes.map Prod.fst) :=
  indication_received _ ⟨by decide, by decide, by decide⟩ (by decide) .ignore

def responseOnWire (criticality : Criticality) (ies : List ProtocolIe) : Value :=
  wirePdu 1 0 idRICsubscription criticality subscriptionResponseIEs ies

theorem response_load (sendable : Sendable subscriptionResponseIEs ies) : load ies ≤ 16000 := by
  have hstrings : ∀ id ∈ [idRICindicationHeader, idRICindicationMessage, idRICcallProcessID],
      (id : Int) ∉ subscriptionResponseIEs.map Prod.fst := by decide
  have heach : ∀ size ∈ ies.map fun ie => ie.value.load, size ≤ 384 := by
    intro size among
    rcases List.mem_map.mp among with ⟨⟨criticality, value⟩, member, rfl⟩
    have hlisted := sendable.listed _ member
    cases value with
    | ricActionAdmittedList items =>
        have hitems := items.property
        simp only [IeValue.load]
        omega
    | ricActionNotAdmittedList items =>
        have hitems := items.property
        simp only [IeValue.load]
        omega
    | ricIndicationHeader octets => exact absurd hlisted (hstrings idRICindicationHeader (by decide))
    | ricIndicationMessage octets => exact absurd hlisted (hstrings idRICindicationMessage (by decide))
    | ricCallProcessID octets => exact absurd hlisted (hstrings idRICcallProcessID (by decide))
    | _ => exact Nat.zero_le _
  have hlength : ies.length ≤ 4 := length_le sendable
  have hsum := List.sum_le_card_nsmul _ _ heach
  rw [List.length_map, smul_eq_mul] at hsum
  unfold load
  omega

/-- A response with the IEs of its table, in any order, reaches the xApp by way of E2T. -/
theorem subscription_response_received (encode : E2apPdu → List UInt8 → Int × List UInt8)
    (sendable : Sendable subscriptionResponseIEs ies) (criticality : Criticality) :
    ∃ buf copied,
      aperEncodeToNewBuffer (encodeAper Asn1.E2ap.e2apPDU (responseOnWire criticality ies)) = .ok buf ∧
      aperDecodeComplete (decodeAper .oranE2 Asn1.E2ap.e2apPDU) buf =
        .ok (responseOnWire criticality ies, buf.length) ∧
      getSubscriptionResponseMessage (wireCodec encode) buf = .ok (copied, none) ∧
      copied.ShowsAll ies := by
  rcases message_received 1 0 0 idRICsubscription rfl rfl rfl rfl rfl subscriptionResponseIEs_readable
      (by decide) (by decide) sendable (response_load sendable) criticality with
    ⟨buf, hencode, hdecode, hread⟩
  have decoded : (wireCodec encode).decode buf = some _ := hread
  rcases subscriptionResponse_decoded decoded ⟨rfl, rfl, rfl⟩ sendable.distinct with
    ⟨msg, hmsg, hshown⟩
  rcases subscriptionResponseCopy_shown hshown with ⟨copied, hcopy, hcopied⟩
  exact ⟨buf, copied, hencode, hdecode, getSubscriptionResponseMessage_eq decoded hmsg hcopy, hcopied⟩

theorem subscription_response_received_pdu :
    ∃ buf copied,
      aperEncodeToNewBuffer (encodeAper Asn1.E2ap.e2apPDU
        (responseOnWire .reject (admittedResponseIes.map Prod.fst))) = .ok buf ∧
      aperDecodeComplete (decodeAper .oranE2 Asn1.E2ap.e2apPDU) buf =
        .ok (responseOnWire .reject (admittedResponseIes.map Prod.fst), buf.length) ∧
      getSubscriptionResponseMessage (wireCodec fun _ buffer => (-1, buffer)) buf =
        .ok (copied, none) ∧
      copied.ShowsAll (admittedResponseIes.map Prod.fst) :=
  subscription_response_received _ ⟨by decide, by decide, by decide⟩ .reject

end NearRtRic.Kpimon.E2ap
