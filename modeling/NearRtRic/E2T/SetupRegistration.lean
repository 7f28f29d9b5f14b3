import Mathlib.Tactic
import NearRtRic.E2T.Connections

/-! Which names an E2 setup request leaves: in the map, in the message and in the peer. -/

namespace NearRtRic.E2T

open Buffer

/-- The result of the loop over the IEs, the keys it sets, in this order, and what it leaves in
`message.enodbName` and in `peerInfo->enodbName`. -/
structure Collected where
  result : Int
  keys : List (List Char)
  messageName : List Char
  enodbName : List Char

def Collected.setkey (key : List Char) (later : Collected) : Collected :=
  { later with keys := key :: later.keys }

def collectNames : List SetupIe → List Char → List Char → Collected
  | [], messageName, enodbName =>
      { result := 0, keys := [], messageName := messageName, enodbName := enodbName }
  | .other :: ies, messageName, enodbName => collectNames ies messageName enodbName
  | .globalE2nodeId node :: ies, messageName, enodbName =>
      let built := buildRanName enodbName node
      if built.1 < 0 then
        { result := -1, keys := [], messageName := messageName, enodbName := built.2 }
      else
        let copied := memcpy messageName (string built.2)
        (collectNames ies copied built.2).setkey (string copied)

/-- The arrays start as `receiveDataFromSctp` and the `memset` leave them. -/
def setupNames (peerInfo : ConnectedCU) (ies : List SetupIe) : Collected :=
  collectNames ies peerInfo.enodbName (zeroed MAX_ENODB_NAME_SIZE)

def registerAll (peer : PeerId) (sctpMap : SctpMap) (keys : List (List Char)) : SctpMap :=
  keys.foldl (fun sctpMap key => sctpMap.setkey key peer) sctpMap

theorem find_registerAll (peer : PeerId) (sctpMap : SctpMap) (keys : List (List Char))
    (key : List Char) :
    (registerAll peer sctpMap keys).find key =
      if key ∈ keys then some peer else sctpMap.find key := by
  induction keys generalizing sctpMap with
  | nil => simp [registerAll]
  | cons first keys ih =>
      have later : (registerAll peer sctpMap (first :: keys)).find key =
          if key ∈ keys then some peer else (sctpMap.setkey first peer).find key :=
        ih (sctpMap.setkey first peer)
      rw [later, SctpMap.find_setkey]
      by_cases member : key ∈ keys
      · simp [member]
      · by_cases same : key = first
        · simp [same]
        · simp [member, same]

theorem collectIes_eq (peer : PeerId) (ies : List SetupIe) (sctpMap : SctpMap)
    (messageName enodbName : List Char) :
    collectIes peer ies sctpMap messageName enodbName =
      ((collectNames ies messageName enodbName).result,
        registerAll peer sctpMap (collectNames ies messageName enodbName).keys,
        (collectNames ies messageName enodbName).enodbName) := by
  induction ies generalizing sctpMap messageName enodbName with
  | nil => rfl
  | cons ie ies ih =>
      cases ie with
      | other => exact ih sctpMap messageName enodbName
      | globalE2nodeId node =>
          by_cases rejected : (buildRanName enodbName node).1 < 0
          · simp only [collectIes, collectNames, if_pos rejected]
            rfl
          · simp only [collectIes, collectNames, if_neg rejected, ih]
            rfl

theorem collectSetupRequestData_eq (state : Termination) (peer : PeerId)
    (peerInfo : ConnectedCU) (ies : List SetupIe) :
    collectSetupRequestData state peer peerInfo ies =
      ((setupNames peerInfo ies).result,
        { sctpMap := registerAll peer state.sctpMap (setupNames peerInfo ies).keys
          peers := Function.update state.peers peer
            (some { peerInfo with enodbName := (setupNames peerInfo ies).enodbName }) }) := by
  rw [collectSetupRequestData, collectIes_eq]
  rfl

/-- Whether a node id is accepted does not depend on what the array holds. -/
theorem buildRanName_rejects_iff (ranName : List Char) (node : GlobalE2nodeId) :
    (buildRanName ranName node).1 < 0 ↔ ¬ Accepted node := by
  have rejects := buildEnbName_rejects
  rw [← buildRanName_result]
  cases node with
  | nothing => rfl
  | gNB plmnId gnbId => cases is : gnbId.present <;> simp [buildRanName, is]
  | enGNB plmnIdentity gnbId => cases is : gnbId.present <;> simp [buildRanName, is]
  | ngENB plmnId enbId => simp [buildRanName, rejects]
  | eNB plmnIdentity enbId => simp [buildRanName, rejects]

def acceptedBefore (ies : List SetupIe) : List GlobalE2nodeId :=
  (nodeIds ies).takeWhile fun node => decide (Accepted node)

def firstRejected (ies : List SetupIe) : Option GlobalE2nodeId :=
  (nodeIds ies).find? fun node => decide (¬ Accepted node)

def writtenOver (enodbName : List Char) (nodes : List GlobalE2nodeId) : List Char :=
  nodes.foldl (fun enodbName node => (buildRanName enodbName node).2) enodbName

/-- The keys of accepted node ids: each name is copied over what the message held. -/
def registeredKeys : List Char → List Char → List GlobalE2nodeId → List (List Char)
  | _, _, [] => []
  | messageName, enodbName, node :: nodes =>
      let built := (buildRanName enodbName node).2
      let copied := memcpy messageName (string built)
      string copied :: registeredKeys copied built nodes

/-- A rejected request is without effect: the peer is as before, and so is every entry. -/
def RejectedUnchanged (state : Termination) (peer : PeerId) (peerInfo : ConnectedCU)
    (ies : List SetupIe) : Prop :=
  (collectSetupRequestData state peer peerInfo ies).1 = -1 →
    (collectSetupRequestData state peer peerInfo ies).2.peers peer = some peerInfo ∧
      ∀ key, (collectSetupRequestData state peer peerInfo ies).2.sctpMap.find key =
        state.sctpMap.find key

/-- The peer has the name already that is written until a node id is rejected, and the names of
the accepted ones before it are its own. -/
def NothingNew (state : Termination) (peer : PeerId) (peerInfo : ConnectedCU)
    (ies : List SetupIe) : Prop :=
  ∀ bad, firstRejected ies = some bad →
    writtenOver (zeroed MAX_ENODB_NAME_SIZE) (acceptedBefore ies ++ [bad]) =
        peerInfo.enodbName ∧
      ∀ key ∈ registeredKeys peerInfo.enodbName (zeroed MAX_ENODB_NAME_SIZE)
          (acceptedBefore ies),
        state.sctpMap.find key = some peer

theorem nodeIds_cons_node (node : GlobalE2nodeId) (ies : List SetupIe) :
    nodeIds (.globalE2nodeId node :: ies) = node :: nodeIds ies := rfl

theorem collectNames_accepted (ies : List SetupIe) (messageName enodbName : List Char)
    (none_rejected : firstRejected ies = none) :
    (collectNames ies messageName enodbName).result = 0 := by
  induction ies generalizing messageName enodbName with
  | nil => rfl
  | cons ie ies ih =>
      cases ie with
      | other => exact ih messageName enodbName none_rejected
      | globalE2nodeId node =>
          rw [firstRejected, nodeIds_cons_node, List.find?_cons] at none_rejected
          split at none_rejected
          · cases none_rejected
          · next accepted =>
              have fits : ¬ (buildRanName enodbName node).1 < 0 := by
                simpa [buildRanName_rejects_iff] using accepted
              simp only [collectNames, if_neg fits]
              exact ih _ _ none_rejected

theorem collectNames_rejected (ies : List SetupIe) (messageName enodbName : List Char)
    (bad : GlobalE2nodeId) (rejected : firstRejected ies = some bad) :
    (collectNames ies messageName enodbName).result = -1 ∧
      (collectNames ies messageName enodbName).keys =
        registeredKeys messageName enodbName (acceptedBefore ies) ∧
      (collectNames ies messageName enodbName).enodbName =
        writtenOver enodbName (acceptedBefore ies ++ [bad]) := by
  induction ies generalizing messageName enodbName with
  | nil => cases rejected
  | cons ie ies ih =>
      cases ie with
      | other => exact ih messageName enodbName rejected
      | globalE2nodeId node =>
          rw [firstRejected, nodeIds_cons_node, List.find?_cons] at rejected
          split at rejected
          · next here =>
              have same : node = bad := Option.some.inj rejected
              subst same
              have notAccepted : ¬ Accepted node := of_decide_eq_true here
              have fails := (buildRanName_rejects_iff enodbName node).mpr notAccepted
              have before : acceptedBefore (.globalE2nodeId node :: ies) = [] := by
                simp [acceptedBefore, nodeIds_cons_node, notAccepted]
              simp only [collectNames, if_pos fails, before]
              exact ⟨trivial, rfl, rfl⟩
          · next accepted =>
              have isAccepted : Accepted node := by simpa using accepted
              have fits : ¬ (buildRanName enodbName node).1 < 0 := by
                rw [buildRanName_rejects_iff]
                exact not_not.mpr isAccepted
              have before : acceptedBefore (.globalE2nodeId node :: ies) =
                  node :: acceptedBefore ies := by
                simp [acceptedBefore, nodeIds_cons_node, isAccepted]
              have ⟨result, keys, name⟩ := ih
                (memcpy messageName (string (buildRanName enodbName node).2))
                (buildRanName enodbName node).2 rejected
              simp only [collectNames, if_neg fits, before]
              exact ⟨result, congrArg _ keys, name⟩

theorem rejected_setup_unchanged_iff (state : Termination) (peer : PeerId)
    (peerInfo : ConnectedCU) (ies : List SetupIe) :
    RejectedUnchanged state peer peerInfo ies ↔ NothingNew state peer peerInfo ies := by
  rw [RejectedUnchanged, collectSetupRequestData_eq]
  cases rejected : firstRejected ies with
  | none =>
      have accepts : (setupNames peerInfo ies).result = 0 :=
        collectNames_accepted ies _ _ rejected
      simp [NothingNew, accepts, rejected]
  | some bad =>
      have ⟨result, keys, name⟩ := collectNames_rejected ies peerInfo.enodbName
        (zeroed MAX_ENODB_NAME_SIZE) bad rejected
      simp only [NothingNew, setupNames, result, keys, name, rejected, Option.some.injEq,
        forall_eq', forall_const, Function.update_self, find_registerAll]
      refine and_congr ?_ (forall_congr' fun key => ?_)
      · constructor
        · intro same
          exact congrArg ConnectedCU.enodbName same
        · intro same
          rw [same]
      · by_cases member : key ∈ registeredKeys peerInfo.enodbName
            (zeroed MAX_ENODB_NAME_SIZE) (acceptedBefore ies)
        · simp [member, eq_comm]
        · simp [member]

/-! A registered connection never keeps its name through a rejected request. -/

theorem prefix_overwritten {text : List Char} {type : String} (starts : text <+: type.toList)
    (short : text.length ≤ 19) (name : List Char) (plmnId : PlmnIdentity)
    (octets : List UInt8) : text <+: overwritten name type plmnId octets := by
  have whole : text <+: plmnText type plmnId := by
    rw [plmnText, List.append_assoc]
    exact starts.trans (List.prefix_append _ _)
  have cut : text <+: (plmnText type plmnId).take 19 :=
    List.prefix_take_iff.mpr ⟨whole, short⟩
  rw [overwritten, List.append_assoc]
  exact cut.trans (List.prefix_append _ _)

/-- The array holds the name of an eNB. -/
def NamesEnb (memory : List Char) : Prop :=
  ∃ name, "enB".toList <+: name ∧ Plain name ∧ memory = padded MAX_ENODB_NAME_SIZE name

theorem writeName_namesEnb {memory : List Char} (written : Written memory 28) {type : String}
    (plain : Plain type.toList) (starts : "enB".toList <+: type.toList) (plmnId : PlmnIdentity)
    {data : BitString} (octets : data.buf.length ≤ 4) :
    NamesEnb (writeName memory type plmnId data) := by
  have ⟨name, plainName, length, array⟩ := written
  have longest := overwritten_length_le length (by decide) type plmnId data.buf
  have size : MAX_ENODB_NAME_SIZE = 64 := rfl
  have plainWritten := plain_overwritten plainName plain plmnId data.buf
  refine ⟨overwritten name type plmnId data.buf, ?_, plainWritten, ?_⟩
  · exact prefix_overwritten starts (by decide) name plmnId _
  · rw [array]
    exact writeName_padded plainName plain plmnId (by omega) (by omega)

theorem buildEnbName_namesEnb {memory : List Char} (written : Written memory 28)
    (plmnIdentity : PlmnIdentity) {present : EnbIdPr} {choice : BitString}
    (isPresent : present ≠ .nothing) (octets : choice.buf.length ≤ 4) :
    NamesEnb (buildEnbName memory plmnIdentity present choice).2 := by
  cases present with
  | nothing => exact absurd rfl isPresent
  | macroEnbId => exact writeName_namesEnb written (by decide) (by decide) plmnIdentity octets
  | homeEnbId => exact writeName_namesEnb written (by decide) (by decide) plmnIdentity octets
  | shortMacroEnbId =>
      exact writeName_namesEnb written (by decide) (by decide) plmnIdentity octets
  | longMacroEnbId =>
      exact writeName_namesEnb written (by decide) (by decide) plmnIdentity octets

theorem rejected_leaves {node : GlobalE2nodeId} (rejected : ¬ Accepted node) :
    (buildRanName (zeroed MAX_ENODB_NAME_SIZE) node).2 = zeroed MAX_ENODB_NAME_SIZE ∨
      NamesEnb (buildRanName (zeroed MAX_ENODB_NAME_SIZE) node).2 := by
  cases node with
  | nothing => exact .inl rfl
  | gNB plmnId gnbId => exact absurd (by rw [Accepted, buildRanName_gNB]) rejected
  | enGNB plmnIdentity gnbId => exact absurd (by rw [Accepted, buildRanName_enGNB]) rejected
  | ngENB plmnId enbId =>
      have few : enbId.present.size.isSome → enbId.choice.buf.length ≤ 4 := fun isSome =>
        NodeId.inner_octets EnbIdChoicePr.size_le (NodeId.inner_eq_some.mpr ⟨isSome, rfl⟩)
      have zeros := written_zeroed 20
      by_cases isNothing : enbId.present = .nothing
      · exact .inl (by simp [buildRanName, isNothing, EnbIdChoicePr.asEnbIdPr, buildEnbName])
      · have octets := few (by cases is : enbId.present <;> simp_all [EnbIdChoicePr.size])
        have overlaid : enbId.present.asEnbIdPr ≠ .nothing := by
          cases is : enbId.present <;> simp_all [EnbIdChoicePr.asEnbIdPr]
        right
        apply buildEnbName_namesEnb _ plmnId overlaid octets
        cases is : enbId.present with
        | nothing => exact absurd is isNothing
        | enbIdMacro =>
            exact writeName_written zeros (by decide) plmnId octets (by decide) (by decide)
        | enbIdShortMacro =>
            exact writeName_written zeros (by decide) plmnId octets (by decide) (by decide)
        | enbIdLongMacro =>
            exact writeName_written zeros (by decide) plmnId octets (by decide) (by decide)
  | eNB plmnIdentity enbId =>
      have few : enbId.present.size.isSome → enbId.choice.buf.length ≤ 4 := fun isSome =>
        NodeId.inner_octets EnbIdPr.size_le (NodeId.inner_eq_some.mpr ⟨isSome, rfl⟩)
      by_cases isNothing : enbId.present = .nothing
      · exact .inl (by simp [buildRanName, isNothing, buildEnbName])
      · have octets := few (by cases is : enbId.present <;> simp_all [EnbIdPr.size])
        exact .inr (buildEnbName_namesEnb (written_zeroed 28) plmnIdentity isNothing octets)

theorem accepted_not_namesEnb {node : GlobalE2nodeId} (accepted : Accepted node) :
    ranName node ≠ [] ∧ ¬ "enB".toList <+: ranName node := by
  have ⟨kind, data, gnb, _, _, name⟩ := accepted_written accepted
  have short : (kindText kind).toList.length ≤ 7 := by
    rcases gnb with rfl | rfl <;> decide
  have ⟨_, _, _, parts⟩ := writtenName_eq short data node.octets
  rw [name, parts]
  rcases gnb with rfl | rfl <;> simp [kindText]

/-- A connection that has the name of an accepted node id loses it to a request whose first
node id is rejected. -/
theorem rejected_setup_renames (state : Termination) (peer : PeerId) (peerInfo : ConnectedCU)
    (ies : List SetupIe) {node bad : GlobalE2nodeId} {rest : List GlobalE2nodeId}
    (accepted : Accepted node)
    (named : peerInfo.enodbName = padded MAX_ENODB_NAME_SIZE (ranName node))
    (first : nodeIds ies = bad :: rest) (rejected : ¬ Accepted bad) :
    ¬ RejectedUnchanged state peer peerInfo ies := by
  intro unchanged
  have result : collectSetupRequestData state peer peerInfo ies = (-1, _) :=
    setup_rejected first rejected
  have kept := (unchanged (by rw [result])).1
  rw [result, Termination.store_same, Option.some.injEq] at kept
  have same : (buildRanName (zeroed MAX_ENODB_NAME_SIZE) bad).2 =
      padded MAX_ENODB_NAME_SIZE (ranName node) :=
    (congrArg ConnectedCU.enodbName kept).trans named
  have plain : Plain (ranName node) := (written_string (buildRanName_written node)).2.1
  have apart := accepted_not_namesEnb accepted
  have read : string (buildRanName (zeroed MAX_ENODB_NAME_SIZE) bad).2 = ranName node := by
    rw [same, string_padded plain]
  rcases rejected_leaves rejected with empty | ⟨name, starts, plainName, array⟩
  · rw [empty, ← padded_nil, string_padded (by decide)] at read
    exact apart.1 read.symm
  · rw [array, string_padded plainName] at read
    rw [read] at starts
    exact apart.2 starts

def registered : ConnectedCU where
  hostName := []
  portNumber := []
  enodbName := padded MAX_ENODB_NAME_SIZE (ranName shortGnb)
  isConnected := false

/-- The next request of a registered gNB carries the id of a macro eNB, and its name is lost. -/
theorem rejected_eNB_renames :
    ¬ ∀ state peer peerInfo ies, Termination.peers state peer = some peerInfo →
        RejectedUnchanged state peer peerInfo ies := by
  intro claim
  have kept := claim (Termination.initial.store 1 registered) 1 registered
    [.globalE2nodeId (.eNB plmnExample enbExample)] (Termination.store_same _ _ _)
  have name := congrArg (Option.map ConnectedCU.enodbName) (kept (by decide)).1
  exact absurd name (by decide)

theorem collectNames_of_none (ies : List SetupIe) (absent : nodeIds ies = [])
    (messageName enodbName : List Char) :
    collectNames ies messageName enodbName =
      { result := 0, keys := [], messageName := messageName, enodbName := enodbName } := by
  induction ies with
  | nil => rfl
  | cons ie ies ih =>
      cases ie with
      | globalE2nodeId node => cases absent
      | other => exact ih absent

theorem collectNames_only (ies : List SetupIe) (node : GlobalE2nodeId)
    (only : nodeIds ies = [node]) (accepted : Accepted node) (messageName : List Char) :
    collectNames ies messageName (zeroed MAX_ENODB_NAME_SIZE) =
      { result := 0
        keys := [string (memcpy messageName (ranName node))]
        messageName := memcpy messageName (ranName node)
        enodbName := (buildRanName (zeroed MAX_ENODB_NAME_SIZE) node).2 } := by
  induction ies with
  | nil => cases only
  | cons ie ies ih =>
      cases ie with
      | other => exact ih only
      | globalE2nodeId other =>
          have ⟨same, none_left⟩ : other = node ∧ nodeIds ies = [] := List.cons.inj only
          subst same
          have fits : ¬ (buildRanName (zeroed MAX_ENODB_NAME_SIZE) other).1 < 0 := by
            rw [buildRanName_rejects_iff]
            exact not_not.mpr accepted
          simp only [collectNames, if_neg fits, collectNames_of_none ies none_left]
          rfl

/-- The request names its connection in one way: the key of the map, the name of the message
and that of the peer are what `buildRanName` writes. -/
def OneName (peerInfo : ConnectedCU) (ies : List SetupIe) (node : GlobalE2nodeId) : Prop :=
  (setupNames peerInfo ies).keys = [ranName node] ∧
    Holds (setupNames peerInfo ies).messageName (ranName node) ∧
    Holds (setupNames peerInfo ies).enodbName (ranName node)

theorem oneName_iff (peerInfo : ConnectedCU) (ies : List SetupIe) (node : GlobalE2nodeId)
    (only : nodeIds ies = [node]) (accepted : Accepted node) :
    OneName peerInfo ies node ↔
      Holds (memcpy peerInfo.enodbName (ranName node)) (ranName node) := by
  have ⟨array, plain, short⟩ := written_string (buildRanName_written node)
  have named : Holds (buildRanName (zeroed MAX_ENODB_NAME_SIZE) node).2 (ranName node) := by
    rw [array]
    exact holds_padded (lt_of_le_of_lt short (by decide))
  rw [OneName, setupNames, collectNames_only ies node only accepted]
  constructor
  · intro alike
    exact alike.2.1
  · intro ended
    exact ⟨congrArg (fun key => [key]) (string_of_holds plain ended), ended, named⟩

/-- On an array that is zero behind its name: when that is not longer than the new one. -/
theorem setup_names_fit_iff {peerInfo : ConnectedCU} (filled : Written peerInfo.enodbName 36)
    (node : GlobalE2nodeId) :
    peerInfo.enodbName[(ranName node).length]? = some NUL ↔
      (string peerInfo.enodbName).length ≤ (ranName node).length := by
  have ⟨array, plain, _⟩ := written_string filled
  have short : (ranName node).length ≤ 36 := (written_string (buildRanName_written node)).2.2
  conv_lhs => rw [array]
  exact padded_getElem?_iff plain (lt_of_le_of_lt short (by decide))

/-- They agree just when the name that was there before leaves a NUL behind the new one. -/
theorem setup_names_alike_iff (state : Termination) (peer : PeerId) (peerInfo : ConnectedCU)
    (ies : List SetupIe) (node : GlobalE2nodeId) (only : nodeIds ies = [node])
    (returns : (collectSetupRequestData state peer peerInfo ies).1 = 0) :
    (OneName peerInfo ies node ↔ peerInfo.enodbName[(ranName node).length]? = some NUL) ∧
      (Written peerInfo.enodbName 36 →
        (OneName peerInfo ies node ↔
          (string peerInfo.enodbName).length ≤ (ranName node).length)) := by
  have accepted : Accepted node := by
    by_contra notAccepted
    have rejected : firstRejected ies = some node := by
      simp [firstRejected, only, notAccepted]
    have result := (collectNames_rejected ies peerInfo.enodbName
      (zeroed MAX_ENODB_NAME_SIZE) node rejected).1
    rw [collectSetupRequestData_eq, setupNames, result] at returns
    cases returns
  have alike : OneName peerInfo ies node ↔ peerInfo.enodbName[(ranName node).length]? = some NUL := by
    rw [oneName_iff peerInfo ies node only accepted, holds_memcpy_iff]
  exact ⟨alike, fun filled => alike.trans (setup_names_fit_iff filled node)⟩

theorem setup_names_alike_first :
    OneName { registered with enodbName := zeroed MAX_ENODB_NAME_SIZE }
      [.other, .globalE2nodeId shortGnb] shortGnb :=
  (setup_names_alike_iff Termination.initial 1
    { registered with enodbName := zeroed MAX_ENODB_NAME_SIZE }
    [.other, .globalE2nodeId shortGnb] shortGnb rfl (by decide)).1.mpr (by decide)

/-- A connection that registered with a node id of 29 bits takes one of 22 bits. -/
theorem shorter_name_keeps_tail :
    ¬ ∀ state peer peerInfo ies node, nodeIds ies = [node] →
        (collectSetupRequestData state peer peerInfo ies).1 = 0 →
        OneName peerInfo ies node := by
  intro claim
  have alike := claim Termination.initial 1
    { registered with
      enodbName := padded MAX_ENODB_NAME_SIZE (ranName (.gNB plmnExample gnbExample)) }
    [.globalE2nodeId shortGnb] shortGnb rfl (by decide)
  exact absurd alike.1 (by decide)

/-! No name that is registered, in any run, is a key of a temporary entry. -/

def StartsGnb (text : List Char) : Prop :=
  text.head? = some 'g' ∨ text.head? = some 'e'

theorem startsGnb_append {text : List Char} (starts : StartsGnb text) (rest : List Char) :
    StartsGnb (text ++ rest) := by
  cases text with
  | nil => rcases starts with first | first <;> cases first
  | cons char text => exact starts

theorem startsGnb_take {text : List Char} (starts : StartsGnb text) {count : Nat}
    (positive : 0 < count) : StartsGnb (text.take count) := by
  have same : (text.take count).head? = text.head? := by
    rw [List.head?_take, if_neg positive.ne']
  rw [StartsGnb, same]
  exact starts

theorem startsGnb_string {memory : List Char} (starts : StartsGnb memory) :
    StartsGnb (string memory) := by
  cases memory with
  | nil => exact starts
  | cons char memory =>
      rcases starts with first | first
      · obtain rfl : char = 'g' := Option.some.inj first
        exact .inl (by simp [string, NUL])
      · obtain rfl : char = 'e' := Option.some.inj first
        exact .inr (by simp [string, NUL])

theorem isTemporary_of_startsGnb {key : List Char} (starts : StartsGnb key) :
    isTemporary key = false := by
  cases key with
  | nil => rcases starts with first | first <;> cases first
  | cons char key =>
      rcases starts with first | first
      · obtain rfl : char = 'g' := Option.some.inj first
        simp [isTemporary, List.isPrefixOf]
      · obtain rfl : char = 'e' := Option.some.inj first
        simp [isTemporary, List.isPrefixOf]

theorem startsGnb_printBehind {memory : List Char} (starts : StartsGnb memory)
    (text : List Char) : StartsGnb (printBehind memory text).1 := by
  have printed : StartsGnb (string memory ++ text) :=
    startsGnb_append (startsGnb_string starts) text
  have positive : 0 < (string memory ++ text).length := by
    cases empty : string memory ++ text with
    | nil =>
        rw [empty] at printed
        rcases printed with first | first <;> cases first
    | cons char rest => exact Nat.succ_pos _
  have buffer : StartsGnb (snprintf (zeroed 256) 256 (string memory ++ text)) :=
    startsGnb_append (startsGnb_append (startsGnb_take printed (by decide)) _) _
  exact startsGnb_append (startsGnb_take buffer positive) _

theorem startsGnb_translateBitStringToChar {memory : List Char} (starts : StartsGnb memory)
    (data : BitString) : StartsGnb (translateBitStringToChar memory data).1 := by
  suffices loop : ∀ (octets : List UInt8) (state : List Char × Nat), StartsGnb state.1 →
      StartsGnb (octets.foldl
        (fun state octet =>
          printBehind (printBehind state.1 (hexadecimal (high octet))).1
            (hexadecimal (low octet)))
        state).1 from
    loop data.buf _ (startsGnb_printBehind starts _)
  intro octets
  induction octets with
  | nil =>
      intro state still
      exact still
  | cons octet octets ih =>
      intro state still
      exact ih _ (startsGnb_printBehind (startsGnb_printBehind still _) _)

theorem startsGnb_translatePlmnId (memory : List Char) (data : PlmnIdentity) {type : String}
    (starts : StartsGnb type.toList) : StartsGnb (translatePlmnId memory data type).1 := by
  rw [translatePlmnId_eq]
  refine startsGnb_append (startsGnb_append (startsGnb_take ?_ (by decide)) _) _
  exact startsGnb_append (startsGnb_append starts _) _

theorem startsGnb_buildRanName (memory : List Char) {node : GlobalE2nodeId}
    (accepted : ¬ (buildRanName memory node).1 < 0) :
    StartsGnb (buildRanName memory node).2 := by
  have rejects := buildEnbName_rejects
  cases node with
  | nothing => exact absurd (by decide : (-1 : Int) < 0) accepted
  | gNB plmnId gnbId =>
      have plmn := startsGnb_translatePlmnId memory plmnId (.inl rfl : StartsGnb "gnb_".toList)
      cases is : gnbId.present with
      | nothing => simpa [buildRanName, is] using plmn
      | gnbId =>
          simpa [buildRanName, is] using startsGnb_translateBitStringToChar plmn gnbId.choice
  | enGNB plmnIdentity gnbId =>
      have plmn := startsGnb_translatePlmnId memory plmnIdentity
        (.inr rfl : StartsGnb "en_gnb_".toList)
      cases is : gnbId.present with
      | nothing => simpa [buildRanName, is] using plmn
      | gnbId =>
          simpa [buildRanName, is] using startsGnb_translateBitStringToChar plmn gnbId.choice
  | ngENB plmnId enbId => simp [buildRanName, rejects] at accepted
  | eNB plmnIdentity enbId => simp [buildRanName, rejects] at accepted

theorem collectNames_startsGnb (ies : List SetupIe) (messageName enodbName : List Char) :
    ∀ key ∈ (collectNames ies messageName enodbName).keys, StartsGnb key := by
  induction ies generalizing messageName enodbName with
  | nil =>
      intro key member
      cases member
  | cons ie ies ih =>
      cases ie with
      | other => exact ih messageName enodbName
      | globalE2nodeId node =>
          by_cases rejected : (buildRanName enodbName node).1 < 0
          · simp only [collectNames, if_pos rejected]
            intro key member
            cases member
          · have built := startsGnb_string (startsGnb_buildRanName enodbName rejected)
            simp only [collectNames, if_neg rejected, Collected.setkey, List.forall_mem_cons]
            exact ⟨startsGnb_string (startsGnb_append built _), ih _ _⟩

theorem keysNamed_step (state : Termination) (event : Event) (named : KeysNamed state) :
    KeysNamed (step state event) := by
  have effect := step_effect named event
  revert effect
  generalize step state event = after
  intro effect
  cases effect with
  | unchanged event stays closed => exact named
  | accepted peer hostName portNumber unused => exact named
  | setup peer peerInfo ies is =>
      intro key other found
      rw [collectSetupRequestData_eq, find_registerAll] at found
      split at found
      · next member =>
          exact isTemporary_of_startsGnb (collectNames_startsGnb ies _ _ key member)
      · exact named key other found
  | connected peer peerInfo is => exact named
  | tornDown event peer after torn effect =>
      intro key other found
      rcases effect.opened with ⟨peerInfo, is⟩
      rw [effect.find peerInfo is] at found
      split at found
      · cases found
      · exact named key other found
  | cleared =>
      intro key peer found
      simp at found

theorem keysNamed_run (events : List Event) : KeysNamed (run Termination.initial events) :=
  Runs.run_invariant KeysNamed (fun state event named _ => keysNamed_step state event named)
    Termination.initial events sound_initial.named (Runs.along_true _ events)

end NearRtRic.E2T
