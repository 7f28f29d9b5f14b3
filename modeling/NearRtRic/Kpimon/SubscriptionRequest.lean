import Mathlib.Tactic
import NearRtRic.Library.CMemory

/-! The E2AP subscription request that KPIMON builds, from the Go slices over the arrays of C
structures to the PDU that is encoded. -/

namespace NearRtRic.Kpimon.SubscriptionRequest

open NearRtRic.CMemory

inductive Criticality
  | reject
  | ignore
  | notify
  deriving DecidableEq, Repr

structure RICsubsequentAction where
  ricSubsequentActionType : Int
  ricTimeToWait : Int
  deriving DecidableEq, Repr

/-- An item of the `RICactions-ToBeSetup-List`; a null pointer is `none`. -/
structure RICactionToBeSetupItem where
  criticality : Criticality := .reject
  ricActionID : Int
  ricActionType : Int
  ricActionDefinition : Option (List UInt8) := none
  ricSubsequentAction : Option RICsubsequentAction := none
  deriving DecidableEq, Repr

inductive SubscriptionRequestValue
  | ricRequestID (ricRequestorID ricInstanceID : Int)
  | ranFunctionID (ranFunctionID : Int)
  | ricSubscriptionDetails (ricEventTriggerDefinition : List UInt8)
      (ricActionToBeSetupList : List RICactionToBeSetupItem)
  deriving DecidableEq, Repr

structure SubscriptionRequestIe where
  criticality : Criticality := .reject
  value : SubscriptionRequestValue
  deriving DecidableEq, Repr

/-- The initiating message of the procedure RICsubscription. -/
structure SubscriptionRequestPdu where
  criticality : Criticality := .reject
  protocolIEs : List SubscriptionRequestIe
  deriving DecidableEq, Repr

/-- `RICactionDefinition` of the wrapper. -/
structure CActionDefinition where
  actionDefinition : Option (List UInt8) := none
  size : Int := 0
  deriving DecidableEq, Repr

/-- `RICSubsequentAction` of the wrapper. -/
structure CSubsequentAction where
  isValid : Int := 0
  subsequentActionType : Int := 0
  timeToWait : Int := 0
  deriving DecidableEq, Repr

def storeThrough {Target : Type} (pointer : Option Target) (value : Target) : Run (Option Target) :=
  match pointer with
  | none => .error .fault
  | some _ => pure (some value)

/-- `memcpy` of `size` bytes out of a block. -/
def copyBytes (block : List UInt8) (size : Nat) : Run (List UInt8) :=
  if size ≤ block.length then pure (block.take size) else .error .fault

/-- One turn of the loop over the actions. The item is allocated with `calloc`, and memory for
its optional parts is never allocated. -/
def actionItem (actionIds actionTypes : List Int) (actionDefinitions : List CActionDefinition)
    (subsequentActionTypes : List CSubsequentAction) (index : Nat) :
    Run RICactionToBeSetupItem := do
  let ricActionID ← orFault actionIds[index]?
  let ricActionType ← orFault actionTypes[index]?
  let ricactionIe : RICactionToBeSetupItem := { ricActionID, ricActionType }
  let definition ← orFault actionDefinitions[index]?
  let ricActionDefinition ←
    if definition.size ≠ 0 then
      storeThrough ricactionIe.ricActionDefinition (definition.actionDefinition.getD [])
    else pure ricactionIe.ricActionDefinition
  let subsequent ← orFault subsequentActionTypes[index]?
  let ricSubsequentAction ←
    if subsequent.isValid ≠ 0 then
      storeThrough ricactionIe.ricSubsequentAction
        { ricSubsequentActionType := subsequent.subsequentActionType
          ricTimeToWait := subsequent.timeToWait }
    else pure ricactionIe.ricSubsequentAction
  pure { ricactionIe with ricActionDefinition, ricSubsequentAction }

/-- `while (index < actionCount)`, for the turns that remain. -/
def actionItems (item : Nat → Run RICactionToBeSetupItem) :
    Nat → Nat → Run (List RICactionToBeSetupItem)
  | _, 0 => pure []
  | index, turns + 1 => do
      let first ← item index
      let rest ← actionItems item (index + 1) turns
      pure (first :: rest)

/-- The PDU that `e2ap_encode_ric_subscription_request_message` hands to the encoder, where
memory can be allocated. -/
def e2apEncodeRicSubscriptionRequestMessage
    (ricRequestorID ricRequestSequenceNumber ranFunctionID : Int)
    (eventTriggerDefinition : List UInt8) (eventTriggerDefinitionSize : Nat) (actionCount : Int)
    (actionIds actionTypes : List Int) (actionDefinitions : List CActionDefinition)
    (subsequentActionTypes : List CSubsequentAction) : Run SubscriptionRequestPdu := do
  let eventTrigger ← copyBytes eventTriggerDefinition eventTriggerDefinitionSize
  let ricActions ← actionItems
    (actionItem actionIds actionTypes actionDefinitions subsequentActionTypes) 0 actionCount.toNat
  pure
    { protocolIEs :=
        [{ value := .ricRequestID ricRequestorID ricRequestSequenceNumber },
          { value := .ranFunctionID ranFunctionID },
          { value := .ricSubscriptionDetails eventTrigger ricActions }] }

structure ActionDefinition where
  buf : List UInt8
  size : Int
  deriving DecidableEq, Repr

structure SubsequentAction where
  isValid : Int
  subsequentActionType : Int
  timeToWait : Int
  deriving DecidableEq, Repr

def cInt (value : Int) : Int := value.bmod (2 ^ 32)

/-- `&slice[0]`, which panics on an empty slice. -/
def firstOf {Element : Type} (slice : List Element) : Run Unit := do
  let _ ← orFault slice.head?

/-- `*(*T)(...)` of the entry of an array: its address is computed in a C int. -/
def entryAt {Entry : Type} (sizeof : Nat) (array : List Entry) (index : Nat) : Run Entry :=
  let offset := cInt ((sizeof * index : Nat) : Int)
  if 0 ≤ offset then orFault array[offset.toNat / sizeof]? else .error .fault

def sizeofRICactionDefinition : Nat := 16

def sizeofRICSubsequentAction : Nat := 24

/-- What one turn makes of the structure it has taken from the array. -/
def fillDefinition (ptr : CActionDefinition) (definition : ActionDefinition) : CActionDefinition :=
  let ptr := { ptr with size := cInt definition.size }
  if ptr.size ≠ 0 then { ptr with actionDefinition := some definition.buf } else ptr

def fillSubsequentAction (ptr : CSubsequentAction) (action : SubsequentAction) :
    CSubsequentAction :=
  { ptr with
    isValid := cInt action.isValid
    subsequentActionType := action.subsequentActionType
    timeToWait := action.timeToWait }

/-- The loop over a Go slice beside an array of C structures: `ptr` is a copy of the entry, and
what is filled in is not written back. -/
def fillArray {Item Entry : Type} (sizeof : Nat) (fill : Entry → Item → Entry)
    (array : List Entry) : Nat → List Item → Run (List Entry)
  | _, [] => pure array
  | index, item :: items => do
      let ptr ← entryAt sizeof array index
      let _ptr := fill ptr item
      fillArray sizeof fill array (index + 1) items

def setSubscriptionRequestPayload (payload : List UInt8)
    (ricRequestorID ricRequestSequenceNumber ranFunctionID : UInt16)
    (eventTriggerDefinition : List UInt8) (eventTriggerDefinitionSize : Nat) (actionCount : Nat)
    (actionIds actionTypes : List Int) (actionDefinitions : List ActionDefinition)
    (subsequentActions : List SubsequentAction) : Run SubscriptionRequestPdu := do
  firstOf payload
  firstOf eventTriggerDefinition
  firstOf actionIds
  firstOf actionTypes
  let actDefs ← fillArray sizeofRICactionDefinition fillDefinition
    (List.replicate actionDefinitions.length {}) 0 actionDefinitions
  let subActs ← fillArray sizeofRICSubsequentAction fillSubsequentAction
    (List.replicate subsequentActions.length {}) 0 subsequentActions
  e2apEncodeRicSubscriptionRequestMessage ricRequestorID.toNat ricRequestSequenceNumber.toNat
    ranFunctionID.toNat eventTriggerDefinition eventTriggerDefinitionSize (cInt actionCount)
    actionIds actionTypes actDefs subActs

/-- What the encoder of an event trigger definition reports in bits, and the buffer of eight
bytes it leaves. -/
structure EncodedTrigger where
  size : Fin 65
  buffer : Vector UInt8 8

/-- `SetEventTriggerDefinition` on a buffer of eight bytes: the buffer afterwards and the new
one that is returned. -/
def setEventTriggerDefinition (encoded : Option EncodedTrigger) :
    Run (List UInt8 × List UInt8) :=
  match encoded with
  | none => .error (.error
      "e2sm wrapper is unable to set EventTriggerDefinition due to wrong or invalid input")
  | some encoded =>
      let buffer := encoded.buffer.toList
      pure (buffer, buffer.take ((encoded.size.val + 7) / 8))

/-- The PDUs that `sendRicSubRequest` builds for the RANs of its list: it drops the buffer that
`SetEventTriggerDefinition` returns. -/
def sendRicSubRequest (encoded : Option EncodedTrigger) (ranCount : Nat)
    (requestSN funcID : Int) : Run (List SubscriptionRequestPdu) := do
  let set ← setEventTriggerDefinition encoded
  let eventTriggerDefinition := set.1
  let requests : List Unit := List.replicate ranCount ()
  requests.mapM fun _ =>
    setSubscriptionRequestPayload (List.replicate 1024 0) 1001 (UInt16.ofInt requestSN)
      (UInt16.ofInt funcID) eventTriggerDefinition eventTriggerDefinition.length 1 [0] [0]
      [{ buf := [], size := 0 }]
      [{ isValid := 0, subsequentActionType := 0, timeToWait := 0 }]

theorem cInt_of_small {value : Int} (nonneg : 0 ≤ value) (small : value < 2 ^ 31) :
    cInt value = value :=
  Int.bmod_eq_of_le (by omega) (by omega)

theorem firstOf_ok_iff {Element : Type} {slice : List Element} :
    firstOf slice = .ok () ↔ slice ≠ [] := by
  cases slice with
  | nil => simp [firstOf, orFault]
  | cons first rest => simp [firstOf, orFault, pure, Except.pure]

theorem entryAt_of_small {Entry : Type} {sizeof : Nat} {array : List Entry} {index : Nat}
    (positive : 0 < sizeof) (small : sizeof * index < 2 ^ 31) (inside : index < array.length) :
    entryAt sizeof array index = .ok array[index] := by
  have nonneg : 0 ≤ ((sizeof * index : Nat) : Int) := Int.natCast_nonneg _
  have offset : cInt ((sizeof * index : Nat) : Int) = (sizeof * index : Nat) :=
    cInt_of_small nonneg (by omega)
  have quotient : ((sizeof * index : Nat) : Int).toNat / sizeof = index :=
    Nat.mul_div_cancel_left index positive
  rw [entryAt, offset, if_pos nonneg, quotient, List.getElem?_eq_getElem inside]
  rfl

theorem fillArray_ok_iff {Item Entry : Type} {sizeof : Nat} {fill : Entry → Item → Entry}
    {array result : List Entry} {start : Nat} {items : List Item} :
    fillArray sizeof fill array start items = .ok result ↔
      result = array ∧ ∀ index, start ≤ index → index < start + items.length →
        ∃ entry, entryAt sizeof array index = .ok entry := by
  induction items generalizing start with
  | nil =>
      constructor
      · intro filled
        exact ⟨(pure_ok_iff.mp filled).symm, fun index after before => by simp at before; omega⟩
      · rintro ⟨rfl, -⟩
        rfl
  | cons item items ih =>
      rw [fillArray, bind_ok_iff]
      simp only [ih, List.length_cons]
      constructor
      · rintro ⟨first, hfirst, same, rest⟩
        refine ⟨same, fun index after before => ?_⟩
        by_cases here : index = start
        · rw [here]
          exact ⟨first, hfirst⟩
        · exact rest index (by omega) (by omega)
      · rintro ⟨same, all⟩
        rcases all start (by omega) (by omega) with ⟨first, hfirst⟩
        exact ⟨first, hfirst, same, fun index after before => all index (by omega) (by omega)⟩

theorem actionItems_eq {item : Nat → Run RICactionToBeSetupItem}
    {items : List RICactionToBeSetupItem} {start : Nat}
    (each : ∀ index (inside : index < items.length), item (start + index) = .ok items[index]) :
    actionItems item start items.length = .ok items := by
  induction items generalizing start with
  | nil => rfl
  | cons first items ih =>
      have head : item start = .ok first := each 0 (by simp)
      have tail : actionItems item (start + 1) items.length = .ok items := by
        apply ih
        intro index inside
        have next := each (index + 1) (by simpa using inside)
        rw [← Nat.add_assoc, Nat.add_right_comm] at next
        exact next
      rw [List.length_cons, actionItems, head, bind_ok, tail, bind_ok]
      rfl

structure Action where
  ricActionID : Int
  ricActionType : Int
  definition : Option (List UInt8)
  subsequentAction : Option RICsubsequentAction
  deriving DecidableEq, Repr

def Action.actionDefinition (action : Action) : ActionDefinition :=
  match action.definition with
  | some octets => { buf := octets, size := octets.length }
  | none => { buf := [], size := 0 }

def Action.subsequent (action : Action) : SubsequentAction :=
  match action.subsequentAction with
  | some subsequent =>
      { isValid := 1
        subsequentActionType := subsequent.ricSubsequentActionType
        timeToWait := subsequent.ricTimeToWait }
  | none => { isValid := 0, subsequentActionType := 0, timeToWait := 0 }

def Action.item (action : Action) : RICactionToBeSetupItem where
  ricActionID := action.ricActionID
  ricActionType := action.ricActionType
  ricActionDefinition := action.definition
  ricSubsequentAction := action.subsequentAction

structure Request where
  ricRequestorID : UInt16
  ricInstanceID : UInt16
  ranFunctionID : UInt16
  eventTrigger : List UInt8
  actions : List Action

namespace Request

variable (request : Request)

def build (payload : List UInt8) : Run SubscriptionRequestPdu :=
  setSubscriptionRequestPayload payload request.ricRequestorID request.ricInstanceID
    request.ranFunctionID request.eventTrigger request.eventTrigger.length request.actions.length
    (request.actions.map Action.ricActionID) (request.actions.map Action.ricActionType)
    (request.actions.map Action.actionDefinition) (request.actions.map Action.subsequent)

def pduOf (item : Action → RICactionToBeSetupItem) : SubscriptionRequestPdu where
  protocolIEs :=
    [{ value := .ricRequestID request.ricRequestorID.toNat request.ricInstanceID.toNat },
      { value := .ranFunctionID request.ranFunctionID.toNat },
      { value := .ricSubscriptionDetails request.eventTrigger (request.actions.map item) }]

def pdu : SubscriptionRequestPdu :=
  request.pduOf Action.item

/-- The actions for which the loops over the C arrays stay within them: 24 bytes for each. -/
def maxActions : Nat := 89478486

structure Callable (payload : List UInt8) : Prop where
  payload : payload ≠ []
  eventTrigger : request.eventTrigger ≠ []
  actions : request.actions ≠ []
  few : request.actions.length ≤ maxActions

end Request

def Action.bareItem (action : Action) : RICactionToBeSetupItem where
  ricActionID := action.ricActionID
  ricActionType := action.ricActionType

theorem actionItem_of_zeroed (actions : List Action) {index : Nat} (inside : index < actions.length) :
    actionItem (actions.map Action.ricActionID) (actions.map Action.ricActionType)
      (List.replicate (actions.map Action.actionDefinition).length {})
      (List.replicate (actions.map Action.subsequent).length {}) index =
        .ok actions[index].bareItem := by
  simp [actionItem, orFault, inside, Action.bareItem, pure, Except.pure]

theorem bareItems_eq (actions : List Action) :
    actionItems (actionItem (actions.map Action.ricActionID) (actions.map Action.ricActionType)
        (List.replicate (actions.map Action.actionDefinition).length {})
        (List.replicate (actions.map Action.subsequent).length {})) 0
      (actions.map Action.bareItem).length = .ok (actions.map Action.bareItem) := by
  apply actionItems_eq
  intro index inside
  rw [List.length_map] at inside
  rw [List.getElem_map, Nat.zero_add]
  exact actionItem_of_zeroed actions inside

theorem copyBytes_whole (block : List UInt8) : copyBytes block block.length = .ok block := by
  rw [copyBytes, if_pos le_rfl, List.take_length]
  rfl

theorem fillArray_zeroed {Item Entry : Type} {sizeof : Nat} (fill : Entry → Item → Entry)
    (zero : Entry) (items : List Item) (positive : 0 < sizeof)
    (small : sizeof * (items.length - 1) < 2 ^ 31) :
    fillArray sizeof fill (List.replicate items.length zero) 0 items =
      .ok (List.replicate items.length zero) := by
  refine fillArray_ok_iff.mpr ⟨rfl, fun index _ before => ?_⟩
  have below : sizeof * index ≤ sizeof * (items.length - 1) := Nat.mul_le_mul_left _ (by omega)
  have inside : index < (List.replicate items.length zero).length := by
    rw [List.length_replicate]
    omega
  exact ⟨_, entryAt_of_small positive (by omega) inside⟩

theorem build_of_callable {request : Request} {payload : List UInt8}
    (callable : request.Callable payload) :
    request.build payload = .ok (request.pduOf Action.bareItem) := by
  have few : request.actions.length ≤ 89478486 := callable.few
  have definitions := fillArray_zeroed fillDefinition {}
    (request.actions.map Action.actionDefinition) (by decide : 0 < sizeofRICactionDefinition) (by
      rw [List.length_map, sizeofRICactionDefinition]
      omega)
  have subsequents := fillArray_zeroed fillSubsequentAction {}
    (request.actions.map Action.subsequent) (by decide : 0 < sizeofRICSubsequentAction) (by
      rw [List.length_map, sizeofRICSubsequentAction]
      omega)
  have count : (cInt (request.actions.length : Int)).toNat =
      (request.actions.map Action.bareItem).length := by
    rw [cInt_of_small (by omega) (by omega), List.length_map]
    rfl
  have ids : request.actions.map Action.ricActionID ≠ [] := by simpa using callable.actions
  have types : request.actions.map Action.ricActionType ≠ [] := by simpa using callable.actions
  rw [Request.build, setSubscriptionRequestPayload, firstOf_ok_iff.mpr callable.payload, bind_ok,
    firstOf_ok_iff.mpr callable.eventTrigger, bind_ok, firstOf_ok_iff.mpr ids, bind_ok,
    firstOf_ok_iff.mpr types, bind_ok, definitions, bind_ok, subsequents, bind_ok,
    e2apEncodeRicSubscriptionRequestMessage, copyBytes_whole, bind_ok, count, bareItems_eq, bind_ok]
  rfl

theorem callable_of_build {request : Request} {payload : List UInt8}
    {pdu : SubscriptionRequestPdu} (built : request.build payload = .ok pdu) :
    request.Callable payload := by
  rcases bind_ok_iff.mp built with ⟨⟨⟩, hpayload, built⟩
  rcases bind_ok_iff.mp built with ⟨⟨⟩, htrigger, built⟩
  rcases bind_ok_iff.mp built with ⟨⟨⟩, hids, built⟩
  rcases bind_ok_iff.mp built with ⟨⟨⟩, -, built⟩
  rcases bind_ok_iff.mp built with ⟨actDefs, -, built⟩
  rcases bind_ok_iff.mp built with ⟨subActs, hsubsequents, -⟩
  refine ⟨firstOf_ok_iff.mp hpayload, firstOf_ok_iff.mp htrigger, ?_, ?_⟩
  · intro empty
    exact firstOf_ok_iff.mp hids (by rw [empty, List.map_nil])
  · by_contra many
    rw [Request.maxActions] at many
    have last := (fillArray_ok_iff.mp hsubsequents).2 89478486 (Nat.zero_le _) (by
      rw [List.length_map]
      omega)
    rcases last with ⟨entry, hentry⟩
    have negative : ¬ 0 ≤ cInt ((sizeofRICSubsequentAction * 89478486 : Nat) : Int) := by decide
    rw [entryAt, if_neg negative] at hentry
    cases hentry

theorem build_ok_iff {request : Request} {payload : List UInt8} {pdu : SubscriptionRequestPdu} :
    request.build payload = .ok pdu ↔
      request.Callable payload ∧ pdu = request.pduOf Action.bareItem := by
  constructor
  · intro built
    have callable := callable_of_build built
    refine ⟨callable, ?_⟩
    rw [build_of_callable callable] at built
    exact (Except.ok.inj built).symm
  · rintro ⟨callable, rfl⟩
    exact build_of_callable callable

def Action.Bare (action : Action) : Prop :=
  action.definition = none ∧ action.subsequentAction = none

theorem bareItem_eq_item_iff (action : Action) : action.bareItem = action.item ↔ action.Bare := by
  rw [Action.bareItem, Action.item, Action.Bare, RICactionToBeSetupItem.mk.injEq]
  simp only [true_and, eq_comm]

theorem pdu_carried_iff (request : Request) :
    request.pdu = request.pduOf Action.bareItem ↔ ∀ action ∈ request.actions, action.Bare := by
  have items : request.pdu = request.pduOf Action.bareItem ↔
      request.actions.map Action.item = request.actions.map Action.bareItem := by
    simp [Request.pdu, Request.pduOf]
  rw [items, List.map_inj_left]
  simp only [← bareItem_eq_item_iff, eq_comm]

def SubscriptionRequestPdu.eventTrigger (pdu : SubscriptionRequestPdu) : Option (List UInt8) :=
  pdu.protocolIEs.findSome? fun ie => match ie.value with
    | .ricSubscriptionDetails eventTrigger _ => some eventTrigger
    | _ => none

def sentRequest (encoded : EncodedTrigger) (requestSN funcID : Int) : Request where
  ricRequestorID := 1001
  ricInstanceID := UInt16.ofInt requestSN
  ranFunctionID := UInt16.ofInt funcID
  eventTrigger := encoded.buffer.toList
  actions := [{ ricActionID := 0, ricActionType := 0, definition := none, subsequentAction := none }]

theorem mapM_const {Item Value : Type} (value : Value) (items : List Item) :
    (items.mapM fun _ => (.ok value : Run Value)) = .ok (List.replicate items.length value) := by
  induction items with
  | nil => rfl
  | cons item items ih =>
      rw [List.mapM_cons, bind_ok, ih, bind_ok]
      rfl

theorem sentRequest_callable (encoded : EncodedTrigger) (requestSN funcID : Int) :
    (sentRequest encoded requestSN funcID).Callable (List.replicate 1024 0) := by
  have few : 1 ≤ Request.maxActions := by decide
  refine ⟨List.cons_ne_nil _ _, ?_, List.cons_ne_nil _ _, few⟩
  intro empty
  have length : encoded.buffer.toList.length = 8 := Vector.length_toList
  have none : encoded.buffer.toList = [] := empty
  rw [none, List.length_nil] at length
  omega

theorem sendRicSubRequest_eq (encoded : EncodedTrigger) (ranCount : Nat) (requestSN funcID : Int) :
    sendRicSubRequest (some encoded) ranCount requestSN funcID =
      .ok (List.replicate ranCount (sentRequest encoded requestSN funcID).pdu) := by
  have bare : (sentRequest encoded requestSN funcID).pdu =
      (sentRequest encoded requestSN funcID).pduOf Action.bareItem :=
    (pdu_carried_iff _).mpr (by simp [sentRequest, Action.Bare])
  have built := build_of_callable (sentRequest_callable encoded requestSN funcID)
  rw [← bare] at built
  calc
    sendRicSubRequest (some encoded) ranCount requestSN funcID
        = (List.replicate ranCount ()).mapM fun _ =>
            (sentRequest encoded requestSN funcID).build (List.replicate 1024 0) := rfl
    _ = .ok (List.replicate ranCount (sentRequest encoded requestSN funcID).pdu) := by
      rw [built, mapM_const, List.length_replicate]

theorem buffer_eq_take_iff (encoded : EncodedTrigger) :
    encoded.buffer.toList = encoded.buffer.toList.take ((encoded.size.val + 7) / 8) ↔
      56 < encoded.size.val := by
  have length : encoded.buffer.toList.length = 8 := Vector.length_toList
  rw [eq_comm, List.take_eq_self_iff, length]
  omega

/-- A request is built with all that it asks for exactly where the calls into C have what they
need and no action has a definition or a subsequent action; and the trigger that is sent is
the encoded one exactly where this takes more than seven bytes. -/
theorem subscriptionRequest_carried_iff (request : Request) (payload : List UInt8)
    (encoded : EncodedTrigger) (ranCount : Nat) (requestSN funcID : Int) :
    (request.build payload = .ok request.pdu ↔
      request.Callable payload ∧ ∀ action ∈ request.actions, action.Bare) ∧
    ((∃ set pdus, setEventTriggerDefinition (some encoded) = .ok set ∧
        sendRicSubRequest (some encoded) ranCount requestSN funcID = .ok pdus ∧
        pdus.length = ranCount ∧ ∀ pdu ∈ pdus, pdu.eventTrigger = some set.2) ↔
      ranCount = 0 ∨ 56 < encoded.size.val) := by
  constructor
  · rw [build_ok_iff, pdu_carried_iff]
  · have trigger : (sentRequest encoded requestSN funcID).pdu.eventTrigger =
        some encoded.buffer.toList := rfl
    constructor
    · rintro ⟨set, pdus, hset, hsent, -, carried⟩
      obtain rfl := pure_ok_iff.mp hset
      rw [sendRicSubRequest_eq] at hsent
      obtain rfl := Except.ok.inj hsent
      by_cases none : ranCount = 0
      · exact .inl none
      · have same := carried _ (List.mem_replicate.mpr ⟨none, rfl⟩)
        rw [trigger, Option.some.injEq] at same
        exact .inr ((buffer_eq_take_iff encoded).mp same)
    · intro enough
      refine ⟨_, _, rfl, sendRicSubRequest_eq encoded ranCount requestSN funcID,
        List.length_replicate, fun pdu member => ?_⟩
      rcases List.mem_replicate.mp member with ⟨some_ran, rfl⟩
      have long : 56 < encoded.size.val := enough.resolve_left some_ran
      rw [trigger, ← (buffer_eq_take_iff encoded).mpr long]

def definedRequest : Request where
  ricRequestorID := 1001
  ricInstanceID := 1
  ranFunctionID := 0
  eventTrigger := [0x08]
  actions :=
    [{ ricActionID := 0, ricActionType := 0, definition := some [0x01], subsequentAction := none }]

/-- The definition is filled into a copy of the C structure, and the PDU is built without it. -/
theorem definedRequest_not_carried :
    ¬ ∀ (request : Request) (payload : List UInt8), payload ≠ [] → request.eventTrigger ≠ [] →
      request.actions ≠ [] → request.build payload = .ok request.pdu := by
  intro claim
  have built := claim definedRequest [0] (by decide) (by decide) (by decide)
  exact absurd built (by decide)

end NearRtRic.Kpimon.SubscriptionRequest
