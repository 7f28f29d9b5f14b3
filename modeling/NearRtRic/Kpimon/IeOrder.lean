import Mathlib.Tactic
import NearRtRic.Kpimon.E2apMessages
import NearRtRic.Library.KeyedItems

/-! What the wrapper reads from a message with distinct ids: each field shows its IE, in whatever
order the IEs come. -/

namespace NearRtRic.Kpimon.E2ap

open CMemory CInteger FixedArray KeyedItems
open SubscriptionRequest (firstOf)

theorem other_id_ne {own : Nat} (read : own ∈ readIDs) (id : { id : Nat // id ∉ readIDs }) :
    (id : Nat) ≠ own := by
  rintro rfl
  exact id.property read

/-- An id and the content of the alternative that it selects. -/
structure Alternative (Content : Type) where
  id : Nat
  content : IeValue → Option Content
  selected : ∀ value, (content value).isSome ↔ value.id = id := by
    intro value
    cases value with
    | other id bytes => exact iff_of_false nofun (other_id_ne (by decide) id)
    | _ =>
        first
        | exact iff_of_true rfl rfl
        | exact iff_of_false nofun (Nat.ne_of_beq_eq_false rfl)

namespace Alternative

def ricRequestID : Alternative RICrequestID where
  id := idRICrequestID
  content
    | .ricRequestID request => some request
    | _ => none

def ranFunctionID : Alternative (Fin 4096) where
  id := idRANfunctionID
  content
    | .ranFunctionID function => some function
    | _ => none

def ricActionID : Alternative UInt8 where
  id := idRICactionID
  content
    | .ricActionID action => some action
    | _ => none

def ricIndicationSN : Alternative UInt16 where
  id := idRICindicationSN
  content
    | .ricIndicationSN number => some number
    | _ => none

def ricIndicationType : Alternative RICindicationType where
  id := idRICindicationType
  content
    | .ricIndicationType type => some type
    | _ => none

def ricIndicationHeader : Alternative Octets where
  id := idRICindicationHeader
  content
    | .ricIndicationHeader octets => some octets
    | _ => none

def ricIndicationMessage : Alternative Octets where
  id := idRICindicationMessage
  content
    | .ricIndicationMessage octets => some octets
    | _ => none

def ricCallProcessID : Alternative Octets where
  id := idRICcallProcessID
  content
    | .ricCallProcessID octets => some octets
    | _ => none

def ricActionAdmittedList : Alternative AdmittedItems where
  id := idRICactionsAdmitted
  content
    | .ricActionAdmittedList items => some items
    | _ => none

def ricActionNotAdmittedList : Alternative NotAdmittedItems where
  id := idRICactionsNotAdmitted
  content
    | .ricActionNotAdmittedList items => some items
    | _ => none

end Alternative

section Shows

variable {Content Value Other : Type}

/-- The field shows the content of the IE with the id, and is `absent` where there is none. -/
structure Shows (protocolIEs : List ProtocolIe) (alternative : Alternative Content)
    (view : Content → Value) (absent field : Value) : Prop where
  present : ∀ ie ∈ protocolIEs, ∀ content, alternative.content ie.value = some content →
    field = view content
  absent : (∀ ie ∈ protocolIEs, ie.id ≠ alternative.id) → field = absent

variable {protocolIEs : List ProtocolIe} {alternative : Alternative Content}
variable {view : Content → Value} {absent field : Value}

theorem Shows.cases (shown : Shows protocolIEs alternative view absent field) :
    (∃ content, field = view content) ∨ field = absent := by
  by_cases present : ∃ ie ∈ protocolIEs, ie.id = alternative.id
  · rcases present with ⟨ie, member, same⟩
    rcases Option.isSome_iff_exists.mp ((alternative.selected ie.value).mpr same) with
      ⟨content, selected⟩
    exact .inl ⟨content, shown.present ie member content selected⟩
  · exact .inr (shown.absent fun ie member same => present ⟨ie, member, same⟩)

theorem Shows.map {viewed : Content → Other} {missing : Other}
    (shown : Shows protocolIEs alternative view absent field) (transform : Value → Other)
    (hview : ∀ content, transform (view content) = viewed content)
    (hmissing : transform absent = missing) :
    Shows protocolIEs alternative viewed missing (transform field) where
  present := by
    intro ie member content selected
    rw [shown.present ie member content selected, hview content]
  absent := fun without => by rw [shown.absent without, hmissing]

/-- The order of the IEs does not matter to the value that is shown. -/
theorem Shows.eq_of_perm {others : List ProtocolIe} {same : Value}
    (shown : Shows protocolIEs alternative view absent field)
    (shownOthers : Shows others alternative view absent same)
    (perm : others.Perm protocolIEs) : same = field := by
  by_cases present : ∃ ie ∈ protocolIEs, ie.id = alternative.id
  · rcases present with ⟨ie, member, hid⟩
    rcases Option.isSome_iff_exists.mp ((alternative.selected ie.value).mpr hid) with
      ⟨content, selected⟩
    rw [shown.present ie member content selected,
      shownOthers.present ie (perm.mem_iff.mpr member) content selected]
  · have without : ∀ ie ∈ protocolIEs, ie.id ≠ alternative.id := fun ie member hid =>
      present ⟨ie, member, hid⟩
    rw [shown.absent without,
      shownOthers.absent fun ie member => without ie (perm.mem_iff.mp member)]

/-- A computation that shows only successes is one. -/
theorem Shows.of_ok {run : Run Value}
    (shown : Shows protocolIEs alternative (fun content => Except.ok (view content)) (.ok absent) run) :
    ∃ value, run = .ok value ∧ Shows protocolIEs alternative view absent value := by
  have hsuccess : ∃ value, run = .ok value := by
    rcases shown.cases with ⟨content, same⟩ | same
    · exact ⟨view content, same⟩
    · exact ⟨absent, same⟩
  rcases hsuccess with ⟨value, rfl⟩
  refine ⟨value, rfl, ?_, ?_⟩
  · exact fun ie member content selected =>
      Except.ok.inj (shown.present ie member content selected)
  · exact fun without => Except.ok.inj (shown.absent without)

/-! A loop whose turns have the effect `next` on the record. -/

variable {Record : Type} {step : Record → ProtocolIe → Run Record}
variable {next : Record → IeValue → Record} {before after : Record}

theorem shows_of_run (read : Record → Value) (write : Option Content → Value → Value)
    (turn : ∀ record ie, step record ie = .ok (next record ie.value))
    (reads : ∀ record value,
      read (next record value) = write (alternative.content value) (read record))
    (skips : ∀ old, write none old = old)
    (run : protocolIEs.foldlM step before = .ok after)
    (distinct : (protocolIEs.map ProtocolIe.id).Nodup) :
    Shows protocolIEs alternative (fun content => write (some content) (read before))
      (read before) (read after) := by
  have hstep : ∀ {record ie following}, step record ie = .ok following →
      read following = write (alternative.content ie.value) (read record) := by
    intro record ie following hrun
    rw [turn record ie] at hrun
    rw [← Except.ok.inj hrun, reads record ie.value]
  have writes : Writes ProtocolIe.id alternative.id step read
      fun ie old => write (alternative.content ie.value) old :=
    { atKey := fun hrun _ => hstep hrun
      elsewhere := by
        intro record ie following hrun hid
        have hnone : alternative.content ie.value = none := by
          rw [← Option.not_isSome_iff_eq_none, alternative.selected]
          exact hid
        rw [hstep hrun, hnone, skips] }
  refine ⟨?_, writes.absent run⟩
  intro ie member content selected
  have hid : ie.id = alternative.id :=
    (alternative.selected ie.value).mp (Option.isSome_iff_exists.mpr ⟨content, selected⟩)
  rw [writes.present run distinct member hid, selected]

/-- A plain field, which the IE replaces. -/
theorem shows_of_replacing (read : Record → Value)
    (turn : ∀ record ie, step record ie = .ok (next record ie.value))
    (reads : ∀ record value,
      read (next record value) = ((alternative.content value).map view).getD (read record))
    (run : protocolIEs.foldlM step before = .ok after)
    (distinct : (protocolIEs.map ProtocolIe.id).Nodup) :
    Shows protocolIEs alternative view (read before) (read after) :=
  shows_of_run read (fun content old => (content.map view).getD old) turn reads (fun _ => rfl) run
    distinct

end Shows

theorem run_exists {Record : Type} {step : Record → ProtocolIe → Run Record}
    {next : Record → IeValue → Record}
    (turn : ∀ record ie, step record ie = .ok (next record ie.value))
    (protocolIEs : List ProtocolIe) (before : Record) :
    ∃ after, protocolIEs.foldlM step before = .ok after :=
  foldlM_total (fun record ie => ⟨next record ie.value, turn record ie⟩) protocolIEs before

theorem int32_of_range {value : Int} (nonneg : 0 ≤ value) (bounded : value < 2 ^ 31) :
    int32 value = value := by
  apply toSigned_of_range
  · omega
  · exact bounded

def requestView (request : RICrequestID) : Int × Int :=
  (request.ricRequestorID.toNat, request.ricInstanceID.toNat)

/-- The block and the size that stand for octets in C. -/
def blockView (octets : Octets) : Option (List UInt8) × Nat :=
  (some octets.val, octets.val.length)

def octetsView (octets : Octets) : List UInt8 × Int :=
  (octets.val, octets.val.length)

/-- What the C structure shows of the IEs. -/
structure RICindicationMsg.ShowsAll (protocolIEs : List ProtocolIe) (msg : RICindicationMsg) :
    Prop where
  request : Shows protocolIEs .ricRequestID requestView (0, 0)
    (msg.requestorID, msg.requestSequenceNumber)
  ranfunctionID : Shows protocolIEs .ranFunctionID (fun function => (function.val : Int)) 0
    msg.ranfunctionID
  actionID : Shows protocolIEs .ricActionID (fun action => (action.toNat : Int)) 0 msg.actionID
  indicationSN : Shows protocolIEs .ricIndicationSN (fun number => (number.toNat : Int)) 0
    msg.indicationSN
  indicationType : Shows protocolIEs .ricIndicationType RICindicationType.code 0
    msg.indicationType
  indicationHeader : Shows protocolIEs .ricIndicationHeader blockView (none, 0)
    (msg.indicationHeader, msg.indicationHeaderSize)
  indicationMessage : Shows protocolIEs .ricIndicationMessage blockView (none, 0)
    (msg.indicationMessage, msg.indicationMessageSize)
  callProcessID : Shows protocolIEs .ricCallProcessID blockView (none, 0)
    (msg.callProcessID, msg.callProcessIDSize)

/-- What the Go structure shows of the IEs. -/
structure DecodedIndicationMessage.ShowsAll (protocolIEs : List ProtocolIe)
    (decoded : DecodedIndicationMessage) : Prop where
  request : Shows protocolIEs .ricRequestID requestView (0, 0)
    (decoded.requestID, decoded.requestSequenceNumber)
  funcID : Shows protocolIEs .ranFunctionID (fun function => (function.val : Int)) 0
    decoded.funcID
  actionID : Shows protocolIEs .ricActionID (fun action => (action.toNat : Int)) 0
    decoded.actionID
  indSN : Shows protocolIEs .ricIndicationSN (fun number => (number.toNat : Int)) 0
    decoded.indSN
  indType : Shows protocolIEs .ricIndicationType RICindicationType.code 0 decoded.indType
  indHeader : Shows protocolIEs .ricIndicationHeader octetsView ([], 0)
    (decoded.indHeader, decoded.indHeaderLength)
  indMessage : Shows protocolIEs .ricIndicationMessage octetsView ([], 0)
    (decoded.indMessage, decoded.indMessageLength)
  callProcessID : Shows protocolIEs .ricCallProcessID octetsView ([], 0)
    (decoded.callProcessID, decoded.callProcessIDLength)

/-- A field after a turn: the view of the IE if it is the one of the field. -/
def replaced {Content Value : Type} (alternative : Alternative Content) (view : Content → Value)
    (value : IeValue) (old : Value) : Value :=
  ((alternative.content value).map view).getD old

/-- The effect of a turn of the loop. -/
def indicationAfter (msg : RICindicationMsg) (value : IeValue) : RICindicationMsg :=
  let request := replaced .ricRequestID requestView value
    (msg.requestorID, msg.requestSequenceNumber)
  let header := replaced .ricIndicationHeader blockView value
    (msg.indicationHeader, msg.indicationHeaderSize)
  let message := replaced .ricIndicationMessage blockView value
    (msg.indicationMessage, msg.indicationMessageSize)
  let callProcess := replaced .ricCallProcessID blockView value
    (msg.callProcessID, msg.callProcessIDSize)
  { requestorID := request.1
    requestSequenceNumber := request.2
    ranfunctionID := replaced .ranFunctionID (fun function => (function.val : Int)) value
      msg.ranfunctionID
    actionID := replaced .ricActionID (fun action => (action.toNat : Int)) value msg.actionID
    indicationSN := replaced .ricIndicationSN (fun number => (number.toNat : Int)) value
      msg.indicationSN
    indicationType := replaced .ricIndicationType RICindicationType.code value
      msg.indicationType
    indicationHeader := header.1
    indicationHeaderSize := header.2
    indicationMessage := message.1
    indicationMessageSize := message.2
    callProcessID := callProcess.1
    callProcessIDSize := callProcess.2 }

theorem indicationIe_eq (msg : RICindicationMsg) (ie : ProtocolIe) :
    indicationIe msg ie = .ok (indicationAfter msg ie.value) := by
  rcases ie with ⟨criticality, value⟩
  cases value <;> rfl

theorem indicationMsg_showsAll {protocolIEs : List ProtocolIe} {msg : RICindicationMsg}
    (run : protocolIEs.foldlM indicationIe {} = .ok msg)
    (distinct : (protocolIEs.map ProtocolIe.id).Nodup) : msg.ShowsAll protocolIEs where
  request := shows_of_replacing
    (fun msg : RICindicationMsg => (msg.requestorID, msg.requestSequenceNumber))
    indicationIe_eq (fun _ _ => rfl) run distinct
  ranfunctionID := shows_of_replacing RICindicationMsg.ranfunctionID indicationIe_eq
    (fun _ _ => rfl) run distinct
  actionID := shows_of_replacing RICindicationMsg.actionID indicationIe_eq (fun _ _ => rfl) run
    distinct
  indicationSN := shows_of_replacing RICindicationMsg.indicationSN indicationIe_eq
    (fun _ _ => rfl) run distinct
  indicationType := shows_of_replacing RICindicationMsg.indicationType indicationIe_eq
    (fun _ _ => rfl) run distinct
  indicationHeader := shows_of_replacing
    (fun msg : RICindicationMsg => (msg.indicationHeader, msg.indicationHeaderSize))
    indicationIe_eq (fun _ _ => rfl) run distinct
  indicationMessage := shows_of_replacing
    (fun msg : RICindicationMsg => (msg.indicationMessage, msg.indicationMessageSize))
    indicationIe_eq (fun _ _ => rfl) run distinct
  callProcessID := shows_of_replacing
    (fun msg : RICindicationMsg => (msg.callProcessID, msg.callProcessIDSize))
    indicationIe_eq (fun _ _ => rfl) run distinct

theorem RICindicationMsg.ShowsAll.eq_of_perm {protocolIEs others : List ProtocolIe}
    {msg same : RICindicationMsg} (shown : msg.ShowsAll protocolIEs)
    (shownOthers : same.ShowsAll others) (perm : others.Perm protocolIEs) : same = msg := by
  have hrequest := Prod.mk.inj (shown.request.eq_of_perm shownOthers.request perm)
  have hheader := Prod.mk.inj (shown.indicationHeader.eq_of_perm shownOthers.indicationHeader perm)
  have hmessage :=
    Prod.mk.inj (shown.indicationMessage.eq_of_perm shownOthers.indicationMessage perm)
  have hcall := Prod.mk.inj (shown.callProcessID.eq_of_perm shownOthers.callProcessID perm)
  have hfunction := shown.ranfunctionID.eq_of_perm shownOthers.ranfunctionID perm
  have haction := shown.actionID.eq_of_perm shownOthers.actionID perm
  have hnumber := shown.indicationSN.eq_of_perm shownOthers.indicationSN perm
  have htype := shown.indicationType.eq_of_perm shownOthers.indicationType perm
  cases msg
  cases same
  simp_all

theorem requestView_int32 (request : RICrequestID) :
    Prod.map int32 int32 (requestView request) = requestView request := by
  have hrequestor := request.ricRequestorID.toNat_lt
  have hinstance := request.ricInstanceID.toNat_lt
  have hfirst : int32 request.ricRequestorID.toNat = request.ricRequestorID.toNat :=
    int32_of_range (Int.natCast_nonneg _) (by omega)
  have hsecond : int32 request.ricInstanceID.toNat = request.ricInstanceID.toNat :=
    int32_of_range (Int.natCast_nonneg _) (by omega)
  exact Prod.ext hfirst hsecond

theorem int32_length (octets : Octets) :
    int32 (octets.val.length : Int) = octets.val.length :=
  int32_of_range (Int.natCast_nonneg _) (by exact_mod_cast octets.property)

section Blocks

variable {protocolIEs : List ProtocolIe} {alternative : Alternative Octets}
variable {pointer : Option (List UInt8)} {size : Nat}

theorem goBytesOf_shown (shown : Shows protocolIEs alternative blockView (none, 0) (pointer, size)) :
    goBytesOf pointer size = .ok (pointer.getD []) := by
  rcases shown.cases with ⟨octets, same⟩ | same
  · obtain ⟨rfl, rfl⟩ := Prod.mk.inj same
    rw [goBytesOf, int32_length, if_neg (Int.not_lt.mpr (Int.natCast_nonneg _))]
    split
    · next empty =>
      have hnil : octets.val = [] := List.eq_nil_of_length_eq_zero (by exact_mod_cast empty)
      rw [hnil]
      rfl
    · simp [orFault]
  · obtain ⟨rfl, rfl⟩ := Prod.mk.inj same
    rw [goBytesOf, int32_of_range (by norm_num) (by norm_num)]
    rfl

theorem octets_shown (shown : Shows protocolIEs alternative blockView (none, 0) (pointer, size)) :
    Shows protocolIEs alternative octetsView ([], 0) (pointer.getD [], int32 size) :=
  shown.map (fun block => (block.1.getD [], int32 block.2))
    (fun octets => Prod.ext rfl (int32_length octets))
    (Prod.ext rfl (int32_of_range (by norm_num) (by norm_num)))

end Blocks

theorem indicationCopy_shown {protocolIEs : List ProtocolIe} {msg : RICindicationMsg}
    (shown : msg.ShowsAll protocolIEs) :
    ∃ decoded, indicationCopy msg = .ok decoded ∧ decoded.ShowsAll protocolIEs := by
  have hzero : int32 0 = 0 := int32_of_range (by norm_num) (by norm_num)
  refine ⟨
    { requestID := int32 msg.requestorID
      requestSequenceNumber := int32 msg.requestSequenceNumber
      funcID := int32 msg.ranfunctionID
      actionID := int32 msg.actionID
      indSN := int32 msg.indicationSN
      indType := int32 msg.indicationType
      indHeader := msg.indicationHeader.getD []
      indHeaderLength := int32 msg.indicationHeaderSize
      indMessage := msg.indicationMessage.getD []
      indMessageLength := int32 msg.indicationMessageSize
      callProcessID := msg.callProcessID.getD []
      callProcessIDLength := int32 msg.callProcessIDSize }, ?_, ?_⟩
  · rw [indicationCopy, goBytesOf_shown shown.indicationHeader,
      goBytesOf_shown shown.indicationMessage, goBytesOf_shown shown.callProcessID]
    rfl
  · exact
      { request := shown.request.map (Prod.map int32 int32) requestView_int32 (by simp [hzero])
        funcID := shown.ranfunctionID.map int32
          (fun function => int32_of_range (Int.natCast_nonneg _) (by omega)) hzero
        actionID := shown.actionID.map int32
          (fun action => int32_of_range (Int.natCast_nonneg _) (by
            have hbound := action.toNat_lt
            omega)) hzero
        indSN := shown.indicationSN.map int32
          (fun number => int32_of_range (Int.natCast_nonneg _) (by
            have hbound := number.toNat_lt
            omega)) hzero
        indType := shown.indicationType.map int32
          (fun type => by cases type <;> exact int32_of_range (by decide) (by decide)) hzero
        indHeader := octets_shown shown.indicationHeader
        indMessage := octets_shown shown.indicationMessage
        callProcessID := octets_shown shown.callProcessID }

def admittedIDs (items : AdmittedItems) : List Int :=
  items.val.map fun item => (item.value.ricActionID.toNat : Int)

def notAdmittedIDs (items : NotAdmittedItems) : List Int :=
  items.val.map fun item => (item.value.ricActionID.toNat : Int)

def notAdmittedCauses (items : NotAdmittedItems) : List Cause :=
  items.val.map fun item => item.value.cause

def admittedOver (content : Option AdmittedItems) (old : RICactionAdmittedList) :
    RICactionAdmittedList :=
  match content with
  | none => old
  | some items =>
      { ricActionID := overlay (admittedIDs items) old.ricActionID, count := items.val.length }

def notAdmittedOver (content : Option NotAdmittedItems) (old : RICactionNotAdmittedList) :
    RICactionNotAdmittedList :=
  match content with
  | none => old
  | some items =>
      { ricActionID := overlay (notAdmittedIDs items) old.ricActionID
        ricCause := overlay ((notAdmittedCauses items).map causeItem) old.ricCause
        count := items.val.length }

/-- The ids of the items in order, behind them zeros, and how many there are. -/
def admittedList (items : AdmittedItems) : RICactionAdmittedList :=
  admittedOver (some items) {}

def notAdmittedList (items : NotAdmittedItems) : RICactionNotAdmittedList :=
  notAdmittedOver (some items) {}

structure RICsubscriptionResponseMsg.ShowsAll (protocolIEs : List ProtocolIe)
    (msg : RICsubscriptionResponseMsg) : Prop where
  request : Shows protocolIEs .ricRequestID requestView (0, 0)
    (msg.requestorID, msg.requestSequenceNumber)
  ranfunctionID : Shows protocolIEs .ranFunctionID (fun function => (function.val : Int)) 0
    msg.ranfunctionID
  admitted : Shows protocolIEs .ricActionAdmittedList admittedList {} msg.ricActionAdmittedList
  notAdmitted : Shows protocolIEs .ricActionNotAdmittedList notAdmittedList {}
    msg.ricActionNotAdmittedList

section AdmittedTurn

variable (list : RICactionAdmittedList) (index : Nat)
variable (item : ItemIe idRICactionAdmittedItem AdmittedItem)

theorem admittedTurn_inside (inside : index < 16) :
    admittedTurn list index item =
      .ok { list with
        ricActionID := list.ricActionID.set index (item.value.ricActionID.toNat : Int) inside } := by
  rw [admittedTurn, if_pos item.known, store_inside inside]
  rfl

theorem admittedTurn_outside (outside : ¬index < 16) :
    admittedTurn list index item = .error .fault := by
  rw [admittedTurn, if_pos item.known, store, dif_neg outside]
  rfl

end AdmittedTurn

section NotAdmittedTurn

variable (list : RICactionNotAdmittedList) (index : Nat)
variable (item : ItemIe idRICactionNotAdmittedItem NotAdmittedItem)

theorem notAdmittedTurn_inside (inside : index < 16) :
    notAdmittedTurn list index item =
      .ok { list with
        ricActionID := list.ricActionID.set index (item.value.ricActionID.toNat : Int) inside
        ricCause := list.ricCause.set index (causeItem item.value.cause) inside } := by
  rw [notAdmittedTurn, if_pos item.known, store_inside inside]
  rw [bind_ok, store_inside inside]
  rfl

theorem notAdmittedTurn_outside (outside : ¬index < 16) :
    notAdmittedTurn list index item = .error .fault := by
  rw [notAdmittedTurn, if_pos item.known, store, dif_neg outside]
  rfl

end NotAdmittedTurn

theorem admittedItems_run (items : AdmittedItems) (list : RICactionAdmittedList) :
    ∃ after, eachIndexed admittedTurn 0 items.val list = .ok after ∧
      after.ricActionID = overlay (admittedIDs items) list.ricActionID := by
  have hstores : Stores admittedTurn RICactionAdmittedList.ricActionID
      fun item => (item.value.ricActionID.toNat : Int) :=
    stores_of_effect _ _ admittedTurn_inside admittedTurn_outside fun _ _ _ _ => rfl
  rcases eachIndexed_bounded items
      (fun list index item inside => ⟨_, admittedTurn_inside list index item inside⟩) list with
    ⟨after, hafter⟩
  exact ⟨after, hafter, hstores.eq_overlay hafter⟩

theorem notAdmittedItems_run (items : NotAdmittedItems) (list : RICactionNotAdmittedList) :
    ∃ after, eachIndexed notAdmittedTurn 0 items.val list = .ok after ∧
      after.ricActionID = overlay (notAdmittedIDs items) list.ricActionID ∧
      after.ricCause = overlay ((notAdmittedCauses items).map causeItem) list.ricCause := by
  have hids : Stores notAdmittedTurn RICactionNotAdmittedList.ricActionID
      fun item => (item.value.ricActionID.toNat : Int) :=
    stores_of_effect _ _ notAdmittedTurn_inside notAdmittedTurn_outside fun _ _ _ _ => rfl
  have hcauses : Stores notAdmittedTurn RICactionNotAdmittedList.ricCause
      fun item => causeItem item.value.cause :=
    stores_of_effect _ _ notAdmittedTurn_inside notAdmittedTurn_outside fun _ _ _ _ => rfl
  rcases eachIndexed_bounded items
      (fun list index item inside => ⟨_, notAdmittedTurn_inside list index item inside⟩) list with
    ⟨after, hafter⟩
  refine ⟨after, hafter, hids.eq_overlay hafter, ?_⟩
  rw [hcauses.eq_overlay hafter, notAdmittedCauses, List.map_map]
  rfl

/-- The effect of a turn of the loop. -/
def subscriptionResponseAfter (msg : RICsubscriptionResponseMsg) (value : IeValue) :
    RICsubscriptionResponseMsg :=
  let request := replaced .ricRequestID requestView value
    (msg.requestorID, msg.requestSequenceNumber)
  { requestorID := request.1
    requestSequenceNumber := request.2
    ranfunctionID := replaced .ranFunctionID (fun function => (function.val : Int)) value
      msg.ranfunctionID
    ricActionAdmittedList := admittedOver (Alternative.ricActionAdmittedList.content value)
      msg.ricActionAdmittedList
    ricActionNotAdmittedList := notAdmittedOver
      (Alternative.ricActionNotAdmittedList.content value) msg.ricActionNotAdmittedList }

theorem subscriptionResponseIe_eq (msg : RICsubscriptionResponseMsg) (ie : ProtocolIe) :
    subscriptionResponseIe msg ie = .ok (subscriptionResponseAfter msg ie.value) := by
  rcases ie with ⟨criticality, value⟩
  cases value with
  | ricActionAdmittedList items =>
      rcases admittedItems_run items msg.ricActionAdmittedList with ⟨after, hafter, hids⟩
      simp only [subscriptionResponseIe, hafter, bind_ok, hids]
      rfl
  | ricActionNotAdmittedList items =>
      rcases notAdmittedItems_run items msg.ricActionNotAdmittedList with
        ⟨after, hafter, hids, hcauses⟩
      simp only [subscriptionResponseIe, hafter, bind_ok, hids, hcauses]
      rfl
  | _ => rfl

section Run

variable {protocolIEs : List ProtocolIe} {msg : RICsubscriptionResponseMsg}

theorem admitted_shown (run : protocolIEs.foldlM subscriptionResponseIe {} = .ok msg)
    (distinct : (protocolIEs.map ProtocolIe.id).Nodup) :
    Shows protocolIEs .ricActionAdmittedList
      (fun items => admittedOver (some items) (RICsubscriptionResponseMsg.ricActionAdmittedList {}))
      (RICsubscriptionResponseMsg.ricActionAdmittedList {}) msg.ricActionAdmittedList := by
  apply shows_of_run RICsubscriptionResponseMsg.ricActionAdmittedList admittedOver
    subscriptionResponseIe_eq
  · exact fun _ _ => rfl
  · exact fun _ => rfl
  · exact run
  · exact distinct

theorem notAdmitted_shown (run : protocolIEs.foldlM subscriptionResponseIe {} = .ok msg)
    (distinct : (protocolIEs.map ProtocolIe.id).Nodup) :
    Shows protocolIEs .ricActionNotAdmittedList
      (fun items => notAdmittedOver (some items)
        (RICsubscriptionResponseMsg.ricActionNotAdmittedList {}))
      (RICsubscriptionResponseMsg.ricActionNotAdmittedList {}) msg.ricActionNotAdmittedList := by
  apply shows_of_run RICsubscriptionResponseMsg.ricActionNotAdmittedList notAdmittedOver
    subscriptionResponseIe_eq
  · exact fun _ _ => rfl
  · exact fun _ => rfl
  · exact run
  · exact distinct

theorem subscriptionResponseMsg_showsAll
    (run : protocolIEs.foldlM subscriptionResponseIe {} = .ok msg)
    (distinct : (protocolIEs.map ProtocolIe.id).Nodup) : msg.ShowsAll protocolIEs where
  request := shows_of_replacing
    (fun msg : RICsubscriptionResponseMsg => (msg.requestorID, msg.requestSequenceNumber))
    subscriptionResponseIe_eq (fun _ _ => rfl) run distinct
  ranfunctionID := shows_of_replacing RICsubscriptionResponseMsg.ranfunctionID
    subscriptionResponseIe_eq (fun _ _ => rfl) run distinct
  admitted := admitted_shown run distinct
  notAdmitted := notAdmitted_shown run distinct

end Run

theorem RICsubscriptionResponseMsg.ShowsAll.eq_of_perm {protocolIEs others : List ProtocolIe}
    {msg same : RICsubscriptionResponseMsg} (shown : msg.ShowsAll protocolIEs)
    (shownOthers : same.ShowsAll others) (perm : others.Perm protocolIEs) : same = msg := by
  have hrequest := Prod.mk.inj (shown.request.eq_of_perm shownOthers.request perm)
  have hfunction := shown.ranfunctionID.eq_of_perm shownOthers.ranfunctionID perm
  have hadmitted := shown.admitted.eq_of_perm shownOthers.admitted perm
  have hnotAdmitted := shown.notAdmitted.eq_of_perm shownOthers.notAdmitted perm
  cases msg
  cases same
  simp_all

def causeItemType (cause : Cause) : CauseItemType :=
  { causeType := cause.present, causeID := cause.value }

def copiedAdmitted (items : AdmittedItems) : ActionAdmittedListType :=
  { actionID := overlay (admittedIDs items) (Vector.replicate 16 0), count := items.val.length }

def copiedNotAdmitted (items : NotAdmittedItems) : ActionNotAdmittedListType :=
  { actionID := overlay (notAdmittedIDs items) (Vector.replicate 16 0)
    cause := overlay ((notAdmittedCauses items).map causeItemType) (Vector.replicate 16 {})
    count := items.val.length }

structure DecodedSubscriptionResponseMessage.ShowsAll (protocolIEs : List ProtocolIe)
    (decoded : DecodedSubscriptionResponseMessage) : Prop where
  request : Shows protocolIEs .ricRequestID requestView (0, 0)
    (decoded.requestID, decoded.requestSequenceNumber)
  funcID : Shows protocolIEs .ranFunctionID (fun function => (function.val : Int)) 0
    decoded.funcID
  admitted : Shows protocolIEs .ricActionAdmittedList copiedAdmitted {}
    decoded.actionAdmittedList
  notAdmitted : Shows protocolIEs .ricActionNotAdmittedList copiedNotAdmitted {}
    decoded.actionNotAdmittedList

theorem admittedCopyTurn_stores (admitted : RICactionAdmittedList) :
    Stores (admittedCopyTurn admitted) ActionAdmittedListType.actionID
      fun place => int32 (admitted.ricActionID[place]?.getD 0) := by
  intro list index place after run
  rcases bind_ok_iff.mp run with ⟨ricActionID, hread, hrest⟩
  rcases bind_ok_iff.mp hrest with ⟨actionID, hstored, hafter⟩
  rcases store_eq_ok hstored with ⟨inside, rfl⟩
  refine ⟨inside, ?_⟩
  rw [← pure_ok_iff.mp hafter]
  simp only [orFault_eq_ok_iff.mp hread, Option.getD_some]

theorem admittedCopyTurn_total (admitted : RICactionAdmittedList) (list : ActionAdmittedListType)
    {index place : Nat} (inside : index < 16) (listed : place < 16) :
    ∃ after, admittedCopyTurn admitted list index place = .ok after := by
  rw [admittedCopyTurn, orFault_eq_ok_iff.mpr (Vector.getElem?_eq_getElem listed), bind_ok,
    store_inside inside]
  exact ⟨_, rfl⟩

theorem admittedCopy_overlay {values : List Int} (fits : values.length ≤ 16)
    (array : Vector Int 16) :
    admittedCopy { ricActionID := overlay values array, count := values.length } =
      .ok { actionID := overlay (values.map int32) (Vector.replicate 16 0)
            count := values.length } := by
  have htotal : ∃ after, eachIndexed
      (admittedCopyTurn { ricActionID := overlay values array, count := values.length }) 0
      (List.range values.length) {} = .ok after := by
    apply eachIndexed_total
    · intro list index place member inside
      have hplace := List.mem_range.mp member
      exact admittedCopyTurn_total _ list inside (by omega)
    · simpa using fits
  rcases htotal with ⟨after, hafter⟩
  have hids := (admittedCopyTurn_stores _).eq_overlay hafter
  rw [overlay_range int32 rfl] at hids
  simp only [admittedCopy, Int.toNat_natCast, hafter, bind_ok, hids]
  rfl

theorem notAdmittedCopyTurn_stores (notAdmitted : RICactionNotAdmittedList) :
    Stores (notAdmittedCopyTurn notAdmitted) ActionNotAdmittedListType.actionID
        (fun place => int32 (notAdmitted.ricActionID[place]?.getD 0)) ∧
      Stores (notAdmittedCopyTurn notAdmitted) ActionNotAdmittedListType.cause
        (fun place => causeCopy (notAdmitted.ricCause[place]?.getD {})) := by
  constructor
  all_goals
    intro list index place after run
    rcases bind_ok_iff.mp run with ⟨ricActionID, hid, run⟩
    rcases bind_ok_iff.mp run with ⟨actionID, hstoredID, run⟩
    rcases bind_ok_iff.mp run with ⟨ricCause, hcause, run⟩
    rcases bind_ok_iff.mp run with ⟨cause, hstoredCause, hafter⟩
    rcases store_eq_ok hstoredID with ⟨inside, rfl⟩
    rcases store_eq_ok hstoredCause with ⟨_, rfl⟩
    refine ⟨inside, ?_⟩
    rw [← pure_ok_iff.mp hafter]
    simp only [orFault_eq_ok_iff.mp hid, orFault_eq_ok_iff.mp hcause, Option.getD_some]

theorem notAdmittedCopyTurn_total (notAdmitted : RICactionNotAdmittedList)
    (list : ActionNotAdmittedListType) {index place : Nat} (inside : index < 16)
    (listed : place < 16) :
    ∃ after, notAdmittedCopyTurn notAdmitted list index place = .ok after := by
  rw [notAdmittedCopyTurn, orFault_eq_ok_iff.mpr (Vector.getElem?_eq_getElem listed), bind_ok,
    store_inside inside, bind_ok, orFault_eq_ok_iff.mpr (Vector.getElem?_eq_getElem listed),
    bind_ok, store_inside inside]
  exact ⟨_, rfl⟩

theorem notAdmittedCopy_overlay {ids : List Int} {causes : List RICcauseItem} {count : Nat}
    (hids : ids.length = count) (hcauses : causes.length = count) (fits : count ≤ 16)
    (idArray : Vector Int 16) (causeArray : Vector RICcauseItem 16) :
    notAdmittedCopy
        { ricActionID := overlay ids idArray, ricCause := overlay causes causeArray, count } =
      .ok { actionID := overlay (ids.map int32) (Vector.replicate 16 0)
            cause := overlay (causes.map causeCopy) (Vector.replicate 16 {})
            count } := by
  have htotal : ∃ after, eachIndexed
      (notAdmittedCopyTurn
        { ricActionID := overlay ids idArray, ricCause := overlay causes causeArray, count }) 0
      (List.range count) {} = .ok after := by
    apply eachIndexed_total
    · intro list index place member inside
      have hplace := List.mem_range.mp member
      exact notAdmittedCopyTurn_total _ list inside (by omega)
    · simpa using fits
  rcases htotal with ⟨after, hafter⟩
  have hactionID := (notAdmittedCopyTurn_stores _).1.eq_overlay hafter
  have hcause := (notAdmittedCopyTurn_stores _).2.eq_overlay hafter
  rw [overlay_range int32 hids] at hactionID
  rw [overlay_range causeCopy hcauses] at hcause
  simp only [notAdmittedCopy, Int.toNat_natCast, hafter, bind_ok, hactionID, hcause]
  rfl

theorem int32_octet (octet : UInt8) : int32 (octet.toNat : Int) = octet.toNat :=
  int32_of_range (Int.natCast_nonneg _) (by
    have hbound := octet.toNat_lt
    omega)

theorem causeCopy_causeItem (cause : Cause) : causeCopy (causeItem cause) = causeItemType cause := by
  have hsmall : ∀ value : Int, 0 ≤ value → value < 16 → int32 value = value :=
    fun value nonneg bounded => int32_of_range nonneg (by omega)
  have hpresent : int32 cause.present = cause.present := by
    cases cause <;> exact hsmall _ (by simp [Cause.present]) (by simp [Cause.present])
  have hvalue : int32 cause.value = cause.value := by
    cases cause <;> exact hsmall _ (Int.natCast_nonneg _) (by simp only [Cause.value]; omega)
  calc causeCopy (causeItem cause)
      = { causeType := int32 cause.present, causeID := int32 cause.value } := rfl
    _ = causeItemType cause := by rw [hpresent, hvalue, causeItemType]

theorem admittedCopy_list (items : AdmittedItems) :
    admittedCopy (admittedList items) = .ok (copiedAdmitted items) := by
  have hlength : (admittedIDs items).length = items.val.length := List.length_map _
  have hsame : (admittedIDs items).map int32 = admittedIDs items := by
    rw [admittedIDs, List.map_map]
    apply List.map_congr_left
    intro item _
    rw [Function.comp_apply, int32_octet]
  have hcopy := admittedCopy_overlay (hlength ▸ items.property) (Vector.replicate 16 0)
  rw [hsame, hlength] at hcopy
  exact hcopy

theorem notAdmittedCopy_list (items : NotAdmittedItems) :
    notAdmittedCopy (notAdmittedList items) = .ok (copiedNotAdmitted items) := by
  have hsame : (notAdmittedIDs items).map int32 = notAdmittedIDs items := by
    rw [notAdmittedIDs, List.map_map]
    apply List.map_congr_left
    intro item _
    rw [Function.comp_apply, int32_octet]
  have hcauses : ((notAdmittedCauses items).map causeItem).map causeCopy =
      (notAdmittedCauses items).map causeItemType := by
    rw [List.map_map]
    apply List.map_congr_left
    intro cause _
    rw [Function.comp_apply, causeCopy_causeItem]
  have hids : (notAdmittedIDs items).length = items.val.length := List.length_map _
  have hlength : ((notAdmittedCauses items).map causeItem).length = items.val.length := by
    rw [List.length_map, notAdmittedCauses, List.length_map]
  have hcopy := notAdmittedCopy_overlay hids hlength items.property (Vector.replicate 16 0)
    (Vector.replicate 16 {})
  rw [hsame, hcauses] at hcopy
  exact hcopy

theorem subscriptionResponseCopy_shown {protocolIEs : List ProtocolIe}
    {msg : RICsubscriptionResponseMsg} (shown : msg.ShowsAll protocolIEs) :
    ∃ decoded, subscriptionResponseCopy msg = .ok decoded ∧ decoded.ShowsAll protocolIEs := by
  have hzero : int32 0 = 0 := int32_of_range (by norm_num) (by norm_num)
  have hadmitted : Shows protocolIEs .ricActionAdmittedList
      (fun items => Except.ok (copiedAdmitted items)) (.ok {})
      (admittedCopy msg.ricActionAdmittedList) :=
    shown.admitted.map admittedCopy admittedCopy_list rfl
  have hnotAdmitted : Shows protocolIEs .ricActionNotAdmittedList
      (fun items => Except.ok (copiedNotAdmitted items)) (.ok {})
      (notAdmittedCopy msg.ricActionNotAdmittedList) :=
    shown.notAdmitted.map notAdmittedCopy notAdmittedCopy_list rfl
  rcases hadmitted.of_ok with ⟨admitted, hcopied, hadmitted⟩
  rcases hnotAdmitted.of_ok with ⟨notAdmitted, hnotCopied, hnotAdmitted⟩
  refine ⟨
    { requestID := int32 msg.requestorID
      requestSequenceNumber := int32 msg.requestSequenceNumber
      funcID := int32 msg.ranfunctionID
      actionAdmittedList := admitted
      actionNotAdmittedList := notAdmitted }, ?_, ?_⟩
  · rw [subscriptionResponseCopy, hcopied, bind_ok, hnotCopied]
    rfl
  · exact
      { request := shown.request.map (Prod.map int32 int32) requestView_int32 (by simp [hzero])
        funcID := shown.ranfunctionID.map int32
          (fun function => int32_of_range (Int.natCast_nonneg _) (by omega)) hzero
        admitted := hadmitted
        notAdmitted := hnotAdmitted }

section Order

variable {codec : Codec} {payload : List UInt8} {pdu : E2apPdu}

theorem firstOf_decoded (decoded : codec.decode payload = some pdu) : firstOf payload = .ok () := by
  cases payload with
  | nil =>
      rw [codec.decode_nil] at decoded
      cases decoded
  | cons octet payload => rfl

theorem indication_decoded (decoded : codec.decode payload = some pdu)
    (described : ricIndication.describes pdu) (distinct : (pdu.protocolIEs.map ProtocolIe.id).Nodup) :
    ∃ msg, e2apDecodeRicIndicationMessage codec payload = .ok (some msg) ∧
      msg.ShowsAll pdu.protocolIEs := by
  rcases run_exists indicationIe_eq pdu.protocolIEs {} with ⟨msg, run⟩
  refine ⟨msg, ?_, indicationMsg_showsAll run distinct⟩
  simp only [e2apDecodeRicIndicationMessage, decoded, if_pos described, run, bind_ok]
  rfl

theorem getIndicationMessage_eq (decoded : codec.decode payload = some pdu)
    {msg : RICindicationMsg} {copied : DecodedIndicationMessage}
    (message : e2apDecodeRicIndicationMessage codec payload = .ok (some msg))
    (copy : indicationCopy msg = .ok copied) :
    getIndicationMessage codec payload = .ok (copied, none) := by
  rw [getIndicationMessage, firstOf_decoded decoded, bind_ok, message, bind_ok]
  simp only [copy, bind_ok]
  rfl

theorem subscriptionResponse_decoded (decoded : codec.decode payload = some pdu)
    (described : ricSubscriptionResponseMessage.describes pdu)
    (distinct : (pdu.protocolIEs.map ProtocolIe.id).Nodup) :
    ∃ msg, e2apDecodeRicSubscriptionResponseMessage codec payload = .ok (some msg) ∧
      msg.ShowsAll pdu.protocolIEs := by
  rcases run_exists subscriptionResponseIe_eq pdu.protocolIEs {} with ⟨msg, run⟩
  refine ⟨msg, ?_, subscriptionResponseMsg_showsAll run distinct⟩
  simp only [e2apDecodeRicSubscriptionResponseMessage, decoded, if_pos described, run, bind_ok]
  rfl

theorem getSubscriptionResponseMessage_eq (decoded : codec.decode payload = some pdu)
    {msg : RICsubscriptionResponseMsg} {copied : DecodedSubscriptionResponseMessage}
    (message : e2apDecodeRicSubscriptionResponseMessage codec payload = .ok (some msg))
    (copy : subscriptionResponseCopy msg = .ok copied) :
    getSubscriptionResponseMessage codec payload = .ok (copied, none) := by
  simp only [getSubscriptionResponseMessage, firstOf_decoded decoded, message, copy, bind_ok]
  rfl

theorem distinct_of_perm {protocolIEs others : List ProtocolIe} (perm : others.Perm protocolIEs)
    (distinct : (protocolIEs.map ProtocolIe.id).Nodup) : (others.map ProtocolIe.id).Nodup :=
  ((perm.map ProtocolIe.id).nodup_iff).mpr distinct

end Order

/-- Of an indication and of a subscription response with distinct ids, both the C structure and
its Go copy show every IE, and they are the same for a payload with the IEs in another order. -/
theorem ie_order_irrelevant (codec : Codec) (payload : List UInt8) (pdu : E2apPdu)
    (decoded : codec.decode payload = some pdu)
    (distinct : (pdu.protocolIEs.map ProtocolIe.id).Nodup) :
    (ricIndication.describes pdu →
      ∃ msg copied, e2apDecodeRicIndicationMessage codec payload = .ok (some msg) ∧
        msg.ShowsAll pdu.protocolIEs ∧
        getIndicationMessage codec payload = .ok (copied, none) ∧
        copied.ShowsAll pdu.protocolIEs ∧
        ∀ reordered other, codec.decode reordered = some other → ricIndication.describes other →
          other.protocolIEs.Perm pdu.protocolIEs →
          e2apDecodeRicIndicationMessage codec reordered = .ok (some msg) ∧
          getIndicationMessage codec reordered = .ok (copied, none)) ∧
    (ricSubscriptionResponseMessage.describes pdu →
      ∃ msg copied, e2apDecodeRicSubscriptionResponseMessage codec payload = .ok (some msg) ∧
        msg.ShowsAll pdu.protocolIEs ∧
        getSubscriptionResponseMessage codec payload = .ok (copied, none) ∧
        copied.ShowsAll pdu.protocolIEs ∧
        ∀ reordered other, codec.decode reordered = some other →
          ricSubscriptionResponseMessage.describes other →
          other.protocolIEs.Perm pdu.protocolIEs →
          e2apDecodeRicSubscriptionResponseMessage codec reordered = .ok (some msg) ∧
          getSubscriptionResponseMessage codec reordered = .ok (copied, none)) := by
  constructor
  · intro described
    rcases indication_decoded decoded described distinct with ⟨msg, message, shown⟩
    rcases indicationCopy_shown shown with ⟨copied, copy, shownCopy⟩
    refine ⟨msg, copied, message, shown, getIndicationMessage_eq decoded message copy, shownCopy, ?_⟩
    intro reordered other decodedOther describedOther perm
    rcases indication_decoded decodedOther describedOther (distinct_of_perm perm distinct) with
      ⟨same, messageOther, shownOther⟩
    obtain rfl := shown.eq_of_perm shownOther perm
    exact ⟨messageOther, getIndicationMessage_eq decodedOther messageOther copy⟩
  · intro described
    rcases subscriptionResponse_decoded decoded described distinct with ⟨msg, message, shown⟩
    rcases subscriptionResponseCopy_shown shown with ⟨copied, copy, shownCopy⟩
    refine ⟨msg, copied, message, shown, getSubscriptionResponseMessage_eq decoded message copy,
      shownCopy, ?_⟩
    intro reordered other decodedOther describedOther perm
    rcases subscriptionResponse_decoded decodedOther describedOther
      (distinct_of_perm perm distinct) with ⟨same, messageOther, shownOther⟩
    obtain rfl := shown.eq_of_perm shownOther perm
    exact ⟨messageOther, getSubscriptionResponseMessage_eq decodedOther messageOther copy⟩

/-- The IEs of a RICsubscriptionResponse, each with its encoding. -/
def admittedResponseIes : List (ProtocolIe × List UInt8) :=
  [({ value := .ricRequestID ⟨123, 7⟩ },
      [0x00, 0x1D, 0x00, 0x05, 0x00, 0x00, 0x7B, 0x00, 0x07]),
    ({ value := .ranFunctionID ⟨1, by decide⟩ }, [0x00, 0x05, 0x00, 0x02, 0x00, 0x01]),
    ({ value := .ricActionAdmittedList ⟨[{ value := ⟨1⟩ }], by decide⟩ },
      [0x00, 0x11, 0x00, 0x07, 0x00, 0x00, 0x0E, 0x40, 0x02, 0x00, 0x01])]

/-- The same of a RICindication, the message before the header. -/
def reportIes : List (ProtocolIe × List UInt8) :=
  [({ value := .ricRequestID ⟨123, 7⟩ },
      [0x00, 0x1D, 0x00, 0x05, 0x00, 0x00, 0x7B, 0x00, 0x07]),
    ({ value := .ranFunctionID ⟨1, by decide⟩ }, [0x00, 0x05, 0x00, 0x02, 0x00, 0x01]),
    ({ value := .ricActionID 0 }, [0x00, 0x0F, 0x00, 0x01, 0x00]),
    ({ value := .ricIndicationType .report }, [0x00, 0x1C, 0x00, 0x01, 0x00]),
    ({ value := .ricIndicationMessage ⟨[2, 3], by decide⟩ },
      [0x00, 0x1A, 0x00, 0x03, 0x02, 0x02, 0x03]),
    ({ value := .ricIndicationHeader ⟨[1], by decide⟩ }, [0x00, 0x19, 0x00, 0x02, 0x01, 0x01])]

/-- The PDU with the IEs, beside the octets of the PDU with their encodings. -/
def encodedPdu (kind : MessageKind) (prologue : List UInt8) (ies : List (ProtocolIe × List UInt8)) :
    List UInt8 × E2apPdu :=
  (prologue ++ (ies.map Prod.snd).flatten,
    { present := kind.present
      procedureCode := kind.procedureCode
      value := kind.value
      protocolIEs := ies.map Prod.fst })

def admittedResponse (ies : List (ProtocolIe × List UInt8)) : List UInt8 × E2apPdu :=
  encodedPdu ricSubscriptionResponseMessage [0x20, 0x08, 0x00, 0x1D, 0x00, 0x00, 0x03] ies

def report (ies : List (ProtocolIe × List UInt8)) : List UInt8 × E2apPdu :=
  encodedPdu ricIndication [0x00, 0x05, 0x40, 0x29, 0x00, 0x00, 0x06] ies

/-- A codec for the two messages only, each with its IEs in two orders. -/
def twoOrdersCodec : Codec where
  decode := fun bytes => List.lookup bytes
    [admittedResponse admittedResponseIes, admittedResponse admittedResponseIes.reverse,
      report reportIes, report reportIes.reverse]
  encode := fun _ buffer => (-1, buffer)
  decode_nil := rfl

theorem twoOrders_shown :
    (∃ copied,
      getSubscriptionResponseMessage twoOrdersCodec (admittedResponse admittedResponseIes).1 =
        .ok (copied, none) ∧
      getSubscriptionResponseMessage twoOrdersCodec
        (admittedResponse admittedResponseIes.reverse).1 = .ok (copied, none) ∧
      copied.ShowsAll (admittedResponse admittedResponseIes).2.protocolIEs) ∧
    ∃ copied,
      getIndicationMessage twoOrdersCodec (report reportIes).1 = .ok (copied, none) ∧
      getIndicationMessage twoOrdersCodec (report reportIes.reverse).1 = .ok (copied, none) ∧
      copied.ShowsAll (report reportIes).2.protocolIEs := by
  have hresponse := ie_order_irrelevant twoOrdersCodec (admittedResponse admittedResponseIes).1
    (admittedResponse admittedResponseIes).2 rfl (by decide)
  have hreport := ie_order_irrelevant twoOrdersCodec (report reportIes).1 (report reportIes).2 rfl
    (by decide)
  rcases hresponse.2 ⟨rfl, rfl, rfl⟩ with ⟨_, response, _, _, hcopied, hshown, reordered⟩
  rcases hreport.1 ⟨rfl, rfl, rfl⟩ with ⟨_, indication, _, _, hindication, hreported, shuffled⟩
  have hreversed := reordered (admittedResponse admittedResponseIes.reverse).1
    (admittedResponse admittedResponseIes.reverse).2 rfl ⟨rfl, rfl, rfl⟩
    ((List.reverse_perm admittedResponseIes).map Prod.fst)
  have hturned := shuffled (report reportIes.reverse).1 (report reportIes.reverse).2 rfl
    ⟨rfl, rfl, rfl⟩ ((List.reverse_perm reportIes).map Prod.fst)
  exact ⟨⟨response, hcopied, hreversed.2, hshown⟩, indication, hindication, hturned.2, hreported⟩

end NearRtRic.Kpimon.E2ap
