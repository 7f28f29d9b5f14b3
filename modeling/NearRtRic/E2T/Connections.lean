import Mathlib.Data.List.AList
import NearRtRic.Library.Runs
import NearRtRic.E2T.NameUniqueness

/-! The connections of the E2 termination and the map from RAN names to them. -/

namespace NearRtRic.E2T

open Buffer

/-- A `ConnectedCU_t`, by its address. -/
abbrev PeerId := Nat

structure ConnectedCU where
  hostName : List Char
  portNumber : List Char
  enodbName : List Char
  isConnected : Bool
  deriving DecidableEq, Repr

/-- `mapWrapper`: no key is held twice. -/
abbrev SctpMap := AList (fun _ : List Char => PeerId)

namespace SctpMap

def find (sctpMap : SctpMap) (key : List Char) : Option PeerId :=
  sctpMap.lookup key

def setkey (sctpMap : SctpMap) (key : List Char) (value : PeerId) : SctpMap :=
  sctpMap.insert key value

def erase (sctpMap : SctpMap) (key : List Char) : SctpMap :=
  AList.erase key sctpMap

def getKeys (sctpMap : SctpMap) : List (List Char) :=
  sctpMap.keys

@[simp] theorem find_empty (key : List Char) : find (∅ : SctpMap) key = none := by
  simp [find]

theorem find_setkey (sctpMap : SctpMap) (key other : List Char) (value : PeerId) :
    (sctpMap.setkey key value).find other =
      if other = key then some value else sctpMap.find other := by
  by_cases same : other = key
  · subst same
    simp [find, setkey]
  · simp [find, setkey, same, AList.lookup_insert_ne same]

theorem find_erase (sctpMap : SctpMap) (key other : List Char) :
    (sctpMap.erase key).find other = if other = key then none else sctpMap.find other := by
  by_cases same : other = key
  · subst same
    simp [find, erase]
  · simp [find, erase, same, AList.lookup_erase_ne same]

theorem mem_getKeys (sctpMap : SctpMap) (key : List Char) :
    key ∈ sctpMap.getKeys ↔ ∃ value, sctpMap.find key = some value := by
  rw [find, ← Option.isSome_iff_exists, AList.lookup_isSome, AList.mem_keys]
  rfl

end SctpMap

/-- A freed address holds nothing. -/
structure Termination where
  sctpMap : SctpMap
  peers : PeerId → Option ConnectedCU

namespace Termination

def initial : Termination where
  sctpMap := ∅
  peers := fun _ => none

def free (state : Termination) (peer : PeerId) : Termination where
  sctpMap := state.sctpMap
  peers := Function.update state.peers peer none

def store (state : Termination) (peer : PeerId) (peerInfo : ConnectedCU) : Termination where
  sctpMap := state.sctpMap
  peers := Function.update state.peers peer (some peerInfo)

def erase (state : Termination) (key : List Char) : Termination where
  sctpMap := state.sctpMap.erase key
  peers := state.peers

@[simp] theorem store_same (state : Termination) (peer : PeerId) (peerInfo : ConnectedCU) :
    (state.store peer peerInfo).peers peer = some peerInfo :=
  Function.update_self _ _ _

theorem store_other (state : Termination) {peer other : PeerId} (differ : other ≠ peer)
    (peerInfo : ConnectedCU) : (state.store peer peerInfo).peers other = state.peers other :=
  Function.update_of_ne differ _ _

end Termination

def portOf (portNumber : List Char) : Nat :=
  (portNumber.takeWhile Char.isDigit).foldl
    (fun port digit => 10 * port + (digit.toNat - '0'.toNat)) 0 % 2 ^ 16

def hostKey (val : ConnectedCU) : List Char :=
  "host:".toList ++ val.hostName ++ ':' :: decimal (portOf val.portNumber)

def msgKey (enodbName : List Char) (messageType : Int) : List Char :=
  "msg:".toList ++ enodbName ++ '|' :: (toString messageType).toList

def cleanHashEntry (state : Termination) (peer : PeerId) (val : ConnectedCU) : Termination :=
  ((state.erase (hostKey val)).erase (string val.enodbName)).free peer

/-- An IE of an `E2setupRequest`: a `GlobalE2node_ID`, or one that is not read. -/
inductive SetupIe where
  | globalE2nodeId (node : GlobalE2nodeId)
  | other

/-- The loop over the IEs: the result, the map, and the name left in `peerInfo->enodbName`.
`messageName` is `message.message.enodbName`, which is not cleared before a name is copied
over it, without its NUL. -/
def collectIes (peer : PeerId) :
    List SetupIe → SctpMap → List Char → List Char → Int × SctpMap × List Char
  | [], sctpMap, _, enodbName => (0, sctpMap, enodbName)
  | .other :: ies, sctpMap, messageName, enodbName =>
      collectIes peer ies sctpMap messageName enodbName
  | .globalE2nodeId node :: ies, sctpMap, messageName, enodbName =>
      let built := buildRanName enodbName node
      if built.1 < 0 then
        (-1, sctpMap, built.2)
      else
        let copied := memcpy messageName (string built.2)
        collectIes peer ies (sctpMap.setkey (string copied) peer) copied built.2

/-- A received `E2setupRequest`: `receiveDataFromSctp` has copied the name of the peer into
the message before. -/
def collectSetupRequestData (state : Termination) (peer : PeerId) (peerInfo : ConnectedCU)
    (ies : List SetupIe) : Int × Termination :=
  let collected := collectIes peer ies state.sctpMap peerInfo.enodbName
    (zeroed MAX_ENODB_NAME_SIZE)
  (collected.1,
    { sctpMap := collected.2.1
      peers := Function.update state.peers peer
        (some { peerInfo with enodbName := collected.2.2 }) })

/-- `sendSctpMsg` where `send` fails with another error than `EINTR`. -/
def sendSctpMsgFails (state : Termination) (peer : PeerId) (peerInfo : ConnectedCU)
    (messageName : List Char) (messageType : Int) : Termination :=
  if !peerInfo.isConnected then
    state
  else
    let cleaned := cleanHashEntry state peer peerInfo
    let key := msgKey messageName messageType
    match cleaned.sctpMap.find key with
    | none => cleaned.erase key
    | some tmp => (cleaned.free tmp).erase key

/-- `handleEinprogressMessages` where the socket has no error: `modified` and `sent` say
whether `epoll_ctl` and `send` succeed. Where `epoll_ctl` fails, `modifyToEpoll` composes
the temporary key from the name of the peer it has just freed. -/
def handleEinprogressMessages (state : Termination) (peer : PeerId) (peerInfo : ConnectedCU)
    (modified sent : Bool) : Termination :=
  let connected := { peerInfo with isConnected := true }
  let state := state.store peer connected
  let key := msgKey (string connected.enodbName) 0
  if !modified then
    let cleaned := cleanHashEntry state peer connected
    match cleaned.sctpMap.find key with
    | none => cleaned.erase key
    | some tmp => (cleaned.free tmp).erase key
  else if sent then
    state
  else
    sendSctpMsgFails state peer connected (string connected.enodbName) 0

def handlepollError (state : Termination) (peer : PeerId) (peerInfo : ConnectedCU) : Termination :=
  cleanHashEntry (state.erase (string peerInfo.enodbName)) peer peerInfo

def isTemporary (key : List Char) : Bool :=
  "host:".toList.isPrefixOf key || "msg:".toList.isPrefixOf key

/-- `RIC_SCTP_CLEAR_ALL`: every peer found under a name is closed and freed, then the map
is cleared. -/
def clearAll (state : Termination) : Termination :=
  let cleared := state.sctpMap.getKeys.foldl
    (fun cleared key =>
      if isTemporary key then cleared else
      match state.sctpMap.find key with
      | none => cleared
      | some peer => cleared.free peer)
    state
  { cleared with sctpMap := ∅ }

inductive Event where
  | accept (peer : PeerId) (hostName portNumber : List Char)
  | setupRequest (peer : PeerId) (ies : List SetupIe)
  /-- End of file or a read error. -/
  | disconnect (peer : PeerId)
  | epollError (peer : PeerId)
  | epollOut (peer : PeerId) (modified sent : Bool)
  /-- An RMR message with this RAN name in its meid, whose `send` fails. -/
  | sendFailure (meid : List Char) (messageType : Int)
  | sctpClearAll

/-- Nothing arrives for a descriptor that is closed; `calloc` returns an address not in use. -/
def step (state : Termination) : Event → Termination
  | .accept peer hostName portNumber =>
      match state.peers peer with
      | none => state.store peer
          { hostName := hostName
            portNumber := portNumber
            enodbName := zeroed MAX_ENODB_NAME_SIZE
            isConnected := false }
      | some _ => state
  | .setupRequest peer ies =>
      match state.peers peer with
      | none => state
      | some peerInfo => (collectSetupRequestData state peer peerInfo ies).2
  | .disconnect peer =>
      match state.peers peer with
      | none => state
      | some peerInfo => cleanHashEntry state peer peerInfo
  | .epollError peer =>
      match state.peers peer with
      | none => state
      | some peerInfo => handlepollError state peer peerInfo
  | .epollOut peer modified sent =>
      match state.peers peer with
      | none => state
      | some peerInfo => handleEinprogressMessages state peer peerInfo modified sent
  | .sendFailure meid messageType =>
      match state.sctpMap.find meid with
      | none => state
      | some peer =>
          match state.peers peer with
          -- the entry refers to freed memory: what is read there is not modelled
          | none => state
          | some peerInfo => sendSctpMsgFails state peer peerInfo meid messageType
  | .sctpClearAll => clearAll state

def run : Termination → List Event → Termination := Runs.run step

def nodeIds (ies : List SetupIe) : List GlobalE2nodeId :=
  ies.filterMap fun ie => match ie with
    | .globalE2nodeId node => some node
    | .other => none

theorem collectIes_of_none {peer : PeerId} {ies : List SetupIe} (absent : nodeIds ies = [])
    (sctpMap : SctpMap) (messageName enodbName : List Char) :
    collectIes peer ies sctpMap messageName enodbName = (0, sctpMap, enodbName) := by
  induction ies with
  | nil => rfl
  | cons ie ies ih =>
      cases ie with
      | globalE2nodeId node => simp [nodeIds] at absent
      | other => exact ih (by simpa [nodeIds] using absent)

theorem collectIes_of_rejected {peer : PeerId} {ies : List SetupIe} {node : GlobalE2nodeId}
    {rest : List GlobalE2nodeId} (first : nodeIds ies = node :: rest) (sctpMap : SctpMap)
    (messageName enodbName : List Char) (rejected : (buildRanName enodbName node).1 < 0) :
    collectIes peer ies sctpMap messageName enodbName =
      (-1, sctpMap, (buildRanName enodbName node).2) := by
  induction ies with
  | nil => simp [nodeIds] at first
  | cons ie ies ih =>
      cases ie with
      | globalE2nodeId other =>
          simp only [nodeIds, List.filterMap_cons, List.cons.injEq] at first
          rw [collectIes, first.1, if_pos rejected]
      | other => exact ih (by simpa [nodeIds] using first)

theorem collectIes_of_accepted {peer : PeerId} {ies : List SetupIe} {node : GlobalE2nodeId}
    (only : nodeIds ies = [node]) (sctpMap : SctpMap) (messageName enodbName : List Char)
    (accepted : ¬ (buildRanName enodbName node).1 < 0) :
    collectIes peer ies sctpMap messageName enodbName =
      (0, sctpMap.setkey
        (string (memcpy messageName (string (buildRanName enodbName node).2))) peer,
        (buildRanName enodbName node).2) := by
  induction ies with
  | nil => simp [nodeIds] at only
  | cons ie ies ih =>
      cases ie with
      | globalE2nodeId other =>
          simp only [nodeIds, List.filterMap_cons, List.cons.injEq] at only
          rw [collectIes, only.1, if_neg accepted]
          exact collectIes_of_none only.2 _ _ _
      | other => exact ih (by simpa [nodeIds] using only)

def KeysNamed (state : Termination) : Prop :=
  ∀ key peer, state.sctpMap.find key = some peer → isTemporary key = false

theorem isTemporary_hostKey (val : ConnectedCU) : isTemporary (hostKey val) = true := by
  change isTemporary ("host:".toList ++ val.hostName ++
    ':' :: decimal (portOf val.portNumber)) = true
  simp [isTemporary]

theorem isTemporary_msgKey (name : List Char) (messageType : Int) :
    isTemporary (msgKey name messageType) = true := by
  change isTemporary ("msg:".toList ++ name ++ '|' :: (toString messageType).toList) = true
  simp [isTemporary]

theorem KeysNamed.find_temporary {state : Termination} (named : KeysNamed state)
    {key : List Char} (temporary : isTemporary key = true) : state.sctpMap.find key = none := by
  cases found : state.sctpMap.find key with
  | none => rfl
  | some peer =>
      rw [named key peer found] at temporary
      cases temporary

/-- The peer is closed and freed, and the entry under its current name is erased. -/
structure TornDown (state : Termination) (peer : PeerId) (after : Termination) : Prop where
  opened : ∃ peerInfo, state.peers peer = some peerInfo
  peers : after.peers = Function.update state.peers peer none
  find : ∀ peerInfo, state.peers peer = some peerInfo → ∀ key, after.sctpMap.find key =
    if key = string peerInfo.enodbName then none else state.sctpMap.find key

def tornDown (state : Termination) : Event → Option PeerId
  | .disconnect peer => (state.peers peer).map fun _ => peer
  | .epollError peer => (state.peers peer).map fun _ => peer
  | .epollOut peer modified sent =>
      if modified && sent then none else (state.peers peer).map fun _ => peer
  | .sendFailure meid _ => do
      let peer ← state.sctpMap.find meid
      let peerInfo ← state.peers peer
      if peerInfo.isConnected then some peer else none
  | _ => none

/-- All that one event can do. -/
inductive StepEffect (state : Termination) : Event → Termination → Prop where
  | unchanged (event : Event) (stays : tornDown state event = none)
      (closed : ∀ peer ies, event = .setupRequest peer ies → state.peers peer = none) :
      StepEffect state event state
  | accepted (peer : PeerId) (hostName portNumber : List Char)
      (unused : state.peers peer = none) :
      StepEffect state (.accept peer hostName portNumber) (state.store peer
        { hostName := hostName
          portNumber := portNumber
          enodbName := zeroed MAX_ENODB_NAME_SIZE
          isConnected := false })
  | setup (peer : PeerId) (peerInfo : ConnectedCU) (ies : List SetupIe)
      (is : state.peers peer = some peerInfo) :
      StepEffect state (.setupRequest peer ies)
        (collectSetupRequestData state peer peerInfo ies).2
  | connected (peer : PeerId) (peerInfo : ConnectedCU) (is : state.peers peer = some peerInfo) :
      StepEffect state (.epollOut peer true true)
        (state.store peer { peerInfo with isConnected := true })
  | tornDown (event : Event) (peer : PeerId) (after : Termination)
      (torn : tornDown state event = some peer) (effect : TornDown state peer after) :
      StepEffect state event after
  | cleared : StepEffect state .sctpClearAll (clearAll state)

theorem SctpMap.find_erase_of_absent {sctpMap : SctpMap} {key : List Char}
    (absent : sctpMap.find key = none) (other : List Char) :
    (sctpMap.erase key).find other = sctpMap.find other := by
  rw [find_erase]
  split
  · next same => rw [same, absent]
  · rfl

theorem cleanHashEntry_tornDown {state before : Termination} {peer : PeerId}
    {peerInfo val : ConnectedCU} (named : KeysNamed state)
    (is : state.peers peer = some peerInfo) (sameMap : before.sctpMap = state.sctpMap)
    (samePeers : before.peers = Function.update state.peers peer (some val))
    (sameName : val.enodbName = peerInfo.enodbName) :
    TornDown state peer (cleanHashEntry before peer val) where
  opened := ⟨peerInfo, is⟩
  peers := by
    simp [cleanHashEntry, Termination.free, Termination.erase, samePeers]
  find := by
    intro found isFound key
    obtain rfl : peerInfo = found := Option.some.inj (is.symm.trans isFound)
    have absent := named.find_temporary (isTemporary_hostKey val)
    rw [← sameMap] at absent
    rw [cleanHashEntry, Termination.free, Termination.erase, Termination.erase,
      SctpMap.find_erase, SctpMap.find_erase_of_absent absent, sameMap, sameName]

theorem update_self (state : Termination) {peer : PeerId} {peerInfo : ConnectedCU}
    (is : state.peers peer = some peerInfo) :
    state.peers = Function.update state.peers peer (some peerInfo) := by
  rw [← is, Function.update_eq_self]

theorem TornDown.erase_temporary {state after : Termination} {peer : PeerId}
    (named : KeysNamed state) (torn : TornDown state peer after) {key : List Char}
    (temporary : isTemporary key = true) :
    after.sctpMap.find key = none ∧ TornDown state peer (after.erase key) := by
  rcases torn.opened with ⟨peerInfo, is⟩
  have absent : after.sctpMap.find key = none := by
    rw [torn.find peerInfo is, named.find_temporary temporary, ite_self]
  refine ⟨absent, torn.opened, torn.peers, fun found isFound other => ?_⟩
  rw [Termination.erase, SctpMap.find_erase_of_absent absent, torn.find found isFound]

theorem sendSctpMsgFails_tornDown {state before : Termination} {peer : PeerId}
    {peerInfo val : ConnectedCU} (named : KeysNamed state)
    (is : state.peers peer = some peerInfo) (sameMap : before.sctpMap = state.sctpMap)
    (samePeers : before.peers = Function.update state.peers peer (some val))
    (sameName : val.enodbName = peerInfo.enodbName) (connected : val.isConnected = true)
    (messageName : List Char) (messageType : Int) :
    TornDown state peer (sendSctpMsgFails before peer val messageName messageType) := by
  have torn := cleanHashEntry_tornDown named is sameMap samePeers sameName
  rcases torn.erase_temporary named (isTemporary_msgKey messageName messageType) with
    ⟨absent, erased⟩
  simpa [sendSctpMsgFails, connected, absent] using erased

theorem handlepollError_tornDown {state : Termination} {peer : PeerId} {peerInfo : ConnectedCU}
    (named : KeysNamed state) (is : state.peers peer = some peerInfo) :
    TornDown state peer (handlepollError state peer peerInfo) := by
  refine ⟨⟨peerInfo, is⟩, ?_, fun found isFound key => ?_⟩
  · simp [handlepollError, cleanHashEntry, Termination.free, Termination.erase]
  · obtain rfl : peerInfo = found := Option.some.inj (is.symm.trans isFound)
    have absent := named.find_temporary (isTemporary_hostKey peerInfo)
    simp only [handlepollError, cleanHashEntry, Termination.free, Termination.erase,
      SctpMap.find_erase]
    split_ifs with same temporary
    · rfl
    · rw [temporary, absent]
    · rfl

theorem handleEinprogressMessages_effect {state : Termination} {peer : PeerId}
    {peerInfo : ConnectedCU} (named : KeysNamed state) (is : state.peers peer = some peerInfo)
    (modified sent : Bool) :
    StepEffect state (.epollOut peer modified sent)
      (handleEinprogressMessages state peer peerInfo modified sent) := by
  cases modified with
  | false =>
      have torn := cleanHashEntry_tornDown named is
        (rfl : (state.store peer { peerInfo with isConnected := true }).sctpMap = state.sctpMap)
        rfl rfl
      rcases torn.erase_temporary named (isTemporary_msgKey (string peerInfo.enodbName) 0) with
        ⟨absent, erased⟩
      refine .tornDown _ peer _ (by simp [tornDown, is]) ?_
      simpa [handleEinprogressMessages, absent] using erased
  | true =>
      cases sent with
      | true => exact .connected peer peerInfo is
      | false =>
          have torn := sendSctpMsgFails_tornDown named is
            (rfl : (state.store peer { peerInfo with isConnected := true }).sctpMap =
              state.sctpMap) rfl rfl rfl (string peerInfo.enodbName) 0
          refine .tornDown _ peer _ (by simp [tornDown, is]) ?_
          simpa [handleEinprogressMessages] using torn

theorem sendFailure_effect {state : Termination} (named : KeysNamed state) (meid : List Char)
    (messageType : Int) :
    StepEffect state (.sendFailure meid messageType)
      (step state (.sendFailure meid messageType)) := by
  rw [step]
  cases found : state.sctpMap.find meid with
  | none => exact .unchanged _ (by simp [tornDown, found]) nofun
  | some peer =>
      cases is : state.peers peer with
      | none =>
          have stays : tornDown state (.sendFailure meid messageType) = none := by
            simp [tornDown, found, is]
          simpa [is] using StepEffect.unchanged _ stays nofun
      | some peerInfo =>
          cases connected : peerInfo.isConnected with
          | false =>
              have stays : tornDown state (.sendFailure meid messageType) = none := by
                simp [tornDown, found, is, connected]
              simpa [is, sendSctpMsgFails, connected] using StepEffect.unchanged _ stays nofun
          | true =>
              have torn := sendSctpMsgFails_tornDown named is rfl (update_self state is) rfl
                connected meid messageType
              have closes : tornDown state (.sendFailure meid messageType) = some peer := by
                simp [tornDown, found, is, connected]
              simpa [is] using StepEffect.tornDown _ peer _ closes torn

theorem step_effect {state : Termination} (named : KeysNamed state) (event : Event) :
    StepEffect state event (step state event) := by
  cases event with
  | accept peer hostName portNumber =>
      rw [step]
      cases is : state.peers peer with
      | none => exact .accepted peer hostName portNumber is
      | some peerInfo => exact .unchanged _ rfl nofun
  | setupRequest peer ies =>
      rw [step]
      cases is : state.peers peer with
      | none =>
          refine .unchanged _ rfl ?_
          rintro other otherIes same
          rcases Event.setupRequest.inj same with ⟨rfl, -⟩
          exact is
      | some peerInfo => exact .setup peer peerInfo ies is
  | disconnect peer =>
      rw [step]
      cases is : state.peers peer with
      | none => exact .unchanged _ (by simp [tornDown, is]) nofun
      | some peerInfo =>
          exact .tornDown _ peer _ (by simp [tornDown, is])
            (cleanHashEntry_tornDown named is rfl (update_self state is) rfl)
  | epollError peer =>
      rw [step]
      cases is : state.peers peer with
      | none => exact .unchanged _ (by simp [tornDown, is]) nofun
      | some peerInfo =>
          exact .tornDown _ peer _ (by simp [tornDown, is]) (handlepollError_tornDown named is)
  | epollOut peer modified sent =>
      rw [step]
      cases is : state.peers peer with
      | none => exact .unchanged _ (by simp [tornDown, is]) nofun
      | some peerInfo => exact handleEinprogressMessages_effect named is modified sent
  | sendFailure meid messageType => exact sendFailure_effect named meid messageType
  | sctpClearAll => exact .cleared

/-! Setup requests that name the connection at most once. -/

theorem buildRanName_result (node : GlobalE2nodeId) :
    (buildRanName (zeroed MAX_ENODB_NAME_SIZE) node).1 < 0 ↔ ¬ Accepted node := by
  have rejects := buildEnbName_rejects
  cases node with
  | nothing => simp [Accepted, buildRanName]
  | gNB plmnId gnbId => simp [Accepted, buildRanName_gNB]
  | enGNB plmnIdentity gnbId => simp [Accepted, buildRanName_enGNB]
  | ngENB plmnId enbId => simp [Accepted, buildRanName, rejects]
  | eNB plmnIdentity enbId => simp [Accepted, buildRanName, rejects]

/-- No second node id is read after an accepted one, and the name that the peer has before
is not longer than the new one. -/
def NameFits (peerInfo : ConnectedCU) (ies : List SetupIe) : Prop :=
  match nodeIds ies with
  | [] => True
  | node :: rest => Accepted node →
      rest = [] ∧ (string peerInfo.enodbName).length ≤ (ranName node).length

theorem setup_unnamed {state : Termination} {peer : PeerId} {peerInfo : ConnectedCU}
    {ies : List SetupIe} (absent : nodeIds ies = []) :
    collectSetupRequestData state peer peerInfo ies =
      (0, state.store peer { peerInfo with enodbName := zeroed MAX_ENODB_NAME_SIZE }) := by
  rw [collectSetupRequestData, collectIes_of_none absent]
  rfl

theorem setup_rejected {state : Termination} {peer : PeerId} {peerInfo : ConnectedCU}
    {ies : List SetupIe} {node : GlobalE2nodeId} {rest : List GlobalE2nodeId}
    (first : nodeIds ies = node :: rest) (rejected : ¬ Accepted node) :
    collectSetupRequestData state peer peerInfo ies =
      (-1, state.store peer
        { peerInfo with enodbName := (buildRanName (zeroed MAX_ENODB_NAME_SIZE) node).2 }) := by
  rw [collectSetupRequestData,
    collectIes_of_rejected first _ _ _ ((buildRanName_result node).mpr rejected)]
  rfl

/-- The new name is copied over the old one: where that is not longer, the key is the name. -/
theorem setup_accepted {state : Termination} {peer : PeerId} {peerInfo : ConnectedCU}
    {ies : List SetupIe} {node : GlobalE2nodeId} (only : nodeIds ies = [node])
    (accepted : Accepted node) (filled : Written peerInfo.enodbName 36)
    (fits : (string peerInfo.enodbName).length ≤ (ranName node).length) :
    collectSetupRequestData state peer peerInfo ies =
      (0,
        { sctpMap := state.sctpMap.setkey (ranName node) peer
          peers := Function.update state.peers peer
            (some { peerInfo with enodbName := padded MAX_ENODB_NAME_SIZE (ranName node) }) }) := by
  obtain ⟨array, plain, short⟩ : (buildRanName (zeroed MAX_ENODB_NAME_SIZE) node).2 =
      padded MAX_ENODB_NAME_SIZE (ranName node) ∧ Plain (ranName node) ∧
        (ranName node).length ≤ 36 := written_string (buildRanName_written node)
  have room : (ranName node).length ≤ MAX_ENODB_NAME_SIZE := short.trans (by decide)
  have copied : memcpy peerInfo.enodbName (ranName node) =
      padded MAX_ENODB_NAME_SIZE (ranName node) := by
    rw [(written_string filled).1]
    exact memcpy_padded fits room
  have notRejected := (buildRanName_result node).not.mpr (not_not.mpr accepted)
  have collected : collectIes peer ies state.sctpMap peerInfo.enodbName
      (zeroed MAX_ENODB_NAME_SIZE) = (0, state.sctpMap.setkey (ranName node) peer,
        padded MAX_ENODB_NAME_SIZE (ranName node)) := by
    rw [collectIes_of_accepted only _ _ _ notRejected, array, string_padded plain, copied,
      string_padded plain]
  rw [collectSetupRequestData, collected]

theorem isTemporary_ranName {node : GlobalE2nodeId} (accepted : Accepted node) :
    isTemporary (ranName node) = false := by
  rcases accepted_written accepted with ⟨kind, data, gnb, -, -, name⟩
  have short : (kindText kind).toList.length ≤ 7 := by
    rcases gnb with rfl | rfl <;> decide
  rcases writtenName_eq short data node.octets with ⟨mncWritten, -, -, parts⟩
  rw [name, parts]
  rcases gnb with rfl | rfl <;> simp [isTemporary, kindText, List.isPrefixOf]

/-- What every event keeps, as long as setup requests name their peer once. -/
structure Sound (state : Termination) : Prop where
  named : KeysNamed state
  filled : ∀ peer peerInfo, state.peers peer = some peerInfo → Written peerInfo.enodbName 36

def SetupFits (state : Termination) : Event → Prop
  | .setupRequest peer ies =>
      ∀ peerInfo, state.peers peer = some peerInfo → NameFits peerInfo ies
  | _ => True

theorem sound_initial : Sound Termination.initial where
  named := by
    intro key peer found
    simp [Termination.initial] at found
  filled := by
    intro peer peerInfo is
    cases is

theorem Sound.store {state : Termination} (sound : Sound state) (peer : PeerId)
    {peerInfo : ConnectedCU} (written : Written peerInfo.enodbName 36) :
    Sound (state.store peer peerInfo) where
  named := sound.named
  filled := by
    intro other found is
    by_cases same : other = peer
    · subst same
      rw [Termination.store_same, Option.some.injEq] at is
      rw [← is]
      exact written
    · rw [Termination.store_other _ same] at is
      exact sound.filled other found is

inductive SetupEffect (state : Termination) (peer : PeerId) (peerInfo : ConnectedCU)
    (ies : List SetupIe) : Int × Termination → Prop where
  | unnamed (absent : nodeIds ies = []) :
      SetupEffect state peer peerInfo ies
        (0, state.store peer { peerInfo with enodbName := zeroed MAX_ENODB_NAME_SIZE })
  | rejected (node : GlobalE2nodeId) (rest : List GlobalE2nodeId)
      (first : nodeIds ies = node :: rest) (rejected : ¬ Accepted node) :
      SetupEffect state peer peerInfo ies
        (-1, state.store peer
          { peerInfo with enodbName := (buildRanName (zeroed MAX_ENODB_NAME_SIZE) node).2 })
  | accepted (node : GlobalE2nodeId) (only : nodeIds ies = [node]) (accepted : Accepted node) :
      SetupEffect state peer peerInfo ies
        (0,
          { sctpMap := state.sctpMap.setkey (ranName node) peer
            peers := Function.update state.peers peer (some
              { peerInfo with enodbName := padded MAX_ENODB_NAME_SIZE (ranName node) }) })

theorem setup_effect {state : Termination} {peer : PeerId} {peerInfo : ConnectedCU}
    {ies : List SetupIe} (filled : Written peerInfo.enodbName 36)
    (fits : NameFits peerInfo ies) :
    SetupEffect state peer peerInfo ies (collectSetupRequestData state peer peerInfo ies) := by
  cases ids : nodeIds ies with
  | nil =>
      rw [setup_unnamed ids]
      exact .unnamed ids
  | cons node rest =>
      by_cases accepted : Accepted node
      · have once : rest = [] ∧ (string peerInfo.enodbName).length ≤ (ranName node).length := by
          simp only [NameFits, ids] at fits
          exact fits accepted
        have only : nodeIds ies = [node] := by rw [ids, once.1]
        rw [setup_accepted only accepted filled once.2]
        exact .accepted node only accepted
      · rw [setup_rejected ids accepted]
        exact .rejected node rest ids accepted

theorem freeNamed_peers (sctpMap : SctpMap) (keys : List (List Char)) (cleared : Termination)
    {peer : PeerId} {peerInfo : ConnectedCU}
    (is : (keys.foldl
      (fun cleared key =>
        if isTemporary key then cleared else
        match sctpMap.find key with
        | none => cleared
        | some peer => cleared.free peer)
      cleared).peers peer = some peerInfo) :
    cleared.peers peer = some peerInfo ∧
      ∀ key ∈ keys, isTemporary key = false → sctpMap.find key ≠ some peer := by
  induction keys generalizing cleared with
  | nil =>
      exact ⟨is, by
        intro key member
        cases member⟩
  | cons key keys ih =>
      rcases ih _ is with ⟨still, others⟩
      cases temporary : isTemporary key with
      | true =>
          simp only [temporary, if_true] at still
          refine ⟨still, fun other member plain => ?_⟩
          rcases List.mem_cons.mp member with rfl | member
          · rw [temporary] at plain
            cases plain
          · exact others other member plain
      | false =>
          cases found : sctpMap.find key with
          | none =>
              simp only [temporary, found, Bool.false_eq_true, if_false] at still
              refine ⟨still, fun other member plain => ?_⟩
              rcases List.mem_cons.mp member with rfl | member
              · rw [found]
                exact nofun
              · exact others other member plain
          | some freed =>
              simp only [temporary, found, Bool.false_eq_true, if_false, Termination.free] at still
              have differ : peer ≠ freed := by
                rintro rfl
                simp at still
              rw [Function.update_of_ne differ] at still
              refine ⟨still, fun other member plain => ?_⟩
              rcases List.mem_cons.mp member with rfl | member
              · rw [found]
                exact fun same => differ (Option.some.inj same).symm
              · exact others other member plain

theorem clearAll_peers {state : Termination} {peer : PeerId} {peerInfo : ConnectedCU}
    (is : (clearAll state).peers peer = some peerInfo) :
    state.peers peer = some peerInfo ∧
      ∀ key, isTemporary key = false → state.sctpMap.find key ≠ some peer := by
  rcases freeNamed_peers state.sctpMap _ state is with ⟨still, others⟩
  refine ⟨still, fun key plain found => ?_⟩
  exact others key ((SctpMap.mem_getKeys _ _).mpr ⟨peer, found⟩) plain found

@[simp] theorem clearAll_find (state : Termination) (key : List Char) :
    (clearAll state).sctpMap.find key = none := by
  simp [clearAll]

theorem TornDown.sound {state after : Termination} {peer : PeerId} (sound : Sound state)
    (torn : TornDown state peer after) : Sound after where
  named := by
    intro key other found
    rcases torn.opened with ⟨peerInfo, is⟩
    rw [torn.find peerInfo is] at found
    split at found
    · cases found
    · exact sound.named key other found
  filled := by
    intro other peerInfo is
    rw [torn.peers] at is
    by_cases same : other = peer
    · subst same
      simp at is
    · rw [Function.update_of_ne same] at is
      exact sound.filled other peerInfo is

theorem SetupEffect.sound {state : Termination} {peer : PeerId} {peerInfo : ConnectedCU}
    {ies : List SetupIe} {result : Int × Termination} (sound : Sound state)
    (effect : SetupEffect state peer peerInfo ies result) : Sound result.2 := by
  cases effect with
  | unnamed absent => exact sound.store peer (written_zeroed 36)
  | rejected node rest first rejected => exact sound.store peer (buildRanName_written node)
  | accepted node only accepted =>
      rcases written_string (buildRanName_written node) with ⟨-, plain, short⟩
      have stored := sound.store peer
        (show Written { peerInfo with
            enodbName := padded MAX_ENODB_NAME_SIZE (ranName node) }.enodbName 36 from
          ⟨ranName node, plain, short, rfl⟩)
      refine ⟨?_, stored.filled⟩
      intro key other found
      rw [SctpMap.find_setkey] at found
      split at found
      · next same => rw [same, isTemporary_ranName accepted]
      · exact sound.named key other found

theorem sound_step (state : Termination) (event : Event) (sound : Sound state)
    (fits : SetupFits state event) : Sound (step state event) := by
  have effect := step_effect sound.named event
  revert effect
  generalize step state event = after
  intro effect
  cases effect with
  | unchanged event stays closed => exact sound
  | accepted peer hostName portNumber unused => exact sound.store peer (written_zeroed 36)
  | setup peer peerInfo ies is =>
      exact (setup_effect (sound.filled peer peerInfo is) (fits peerInfo is)).sound sound
  | connected peer peerInfo is => exact sound.store peer (sound.filled peer peerInfo is)
  | tornDown event peer after torn effect => exact effect.sound sound
  | cleared =>
      refine ⟨fun key peer found => ?_, fun peer peerInfo is => ?_⟩
      · simp at found
      · exact sound.filled peer peerInfo (clearAll_peers is).1

end NearRtRic.E2T
