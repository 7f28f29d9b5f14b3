import Mathlib.Tactic
import NearRtRic.E2T.Dispatch
import NearRtRic.Library.AccessLog

/-! The events that one `epoll_wait` returns: what the handlers do with the peers, and when none
of them uses a peer that has been freed before. -/

namespace NearRtRic.E2T.EventBatch

open Buffer AccessLog

inductive BatchEvent
  /-- An RMR message with this RAN name in its meid; `converted` and `sent` are whether
  `PER_FromXML` and `send` succeed. -/
  | rmr (meid : List Char) (mtype : RmrType) (converted sent : Bool)
  /-- The PDUs that `receiveDataFromSctp` decodes; `closed` is whether `read` then finds the
  connection closed, or fails. -/
  | data (peer : PeerId) (pdus : List E2apPdu) (closed : Bool)
  /-- `socketError` is what `getsockopt` reports, `modified` whether `epoll_ctl` succeeds. -/
  | epollOut (peer : PeerId) (socketError modified sent : Bool)
  | epollError (peer : PeerId)

/-! What the handlers do with a `ConnectedCU_t`, in this order. -/

/-- The host name and the port, then the name, are read. -/
def cleanHashEntryLog (peer : PeerId) : List (Access PeerId) :=
  [.read peer, .read peer, .free peer]

/-- The entry under a temporary key is freed as well. -/
def freeFound (sctpMap : SctpMap) (key : List Char) : List (Access PeerId) :=
  match sctpMap.find key with
  | none => []
  | some tmp => [.free tmp]

def sendSctpMsgLog (state : Termination) (peer : PeerId) (peerInfo : ConnectedCU)
    (messageName : List Char) (messageType : Int) (sent : Bool) : List (Access PeerId) :=
  -- the descriptor
  .read peer ::
    if sent then []
    -- isConnected
    else .read peer ::
      if !peerInfo.isConnected then []
      else
        cleanHashEntryLog peer ++
          freeFound (cleanHashEntry state peer peerInfo).sctpMap (msgKey messageName messageType)

def handlepollErrorLog (peer : PeerId) : List (Access PeerId) :=
  -- the name in the reports, the descriptor, the key
  [.read peer, .read peer, .read peer] ++ cleanHashEntryLog peer

def modifyToEpollFailsLog (state : Termination) (peer : PeerId) (peerInfo : ConnectedCU) :
    List (Access PeerId) :=
  .read peer :: cleanHashEntryLog peer ++
    -- the key is printed from peerInfo->enodbName
    .read peer ::
      freeFound (cleanHashEntry state peer peerInfo).sctpMap (msgKey (string peerInfo.enodbName) 0)

def handleEinprogressMessagesLog (state : Termination) (peer : PeerId) (peerInfo : ConnectedCU)
    (socketError modified sent : Bool) : List (Access PeerId) :=
  -- the name and the descriptor
  [.read peer, .read peer] ++
    if socketError then [.read peer, .write peer]
    else
      let connected := { peerInfo with isConnected := true }
      let state := state.store peer connected
      -- isConnected, and the descriptor for epoll_ctl
      [.write peer, .read peer] ++
        if !modified then modifyToEpollFailsLog state peer connected
        else
          -- the delayed message and the name
          .read peer ::
            sendSctpMsgLog state peer connected (string connected.enodbName) 0 sent ++
              if sent then [.write peer] else []

/-- One turn of the loop of `receiveDataFromSctp`: the descriptor and the name are read, then
the handler reads the counters, or writes the name. -/
def receiveLog (peer : PeerId) : E2apPdu → List (Access PeerId)
  | .initiatingMessage (.E2setup _) => [.read peer, .read peer, .write peer, .read peer]
  | _ => [.read peer, .read peer, .read peer]

def receiveDataFromSctpLog (peer : PeerId) (pdus : List E2apPdu) (closed : Bool) :
    List (Access PeerId) :=
  pdus.flatMap (receiveLog peer) ++
    -- the last turn finds nothing to read
    .read peer :: .read peer ::
      if closed then .read peer :: .read peer :: cleanHashEntryLog peer else []

def registeredPeers (sctpMap : SctpMap) : List PeerId :=
  sctpMap.getKeys.filterMap fun key => if isTemporary key then none else sctpMap.find key

def receiveXappMessagesLog (state : Termination) (meid : List Char) (mtype : RmrType)
    (messageType : Int) (converted sent : Bool) : List (Access PeerId) :=
  if mtype = .RIC_SCTP_CLEAR_ALL then drops (registeredPeers state.sctpMap)
  else if .sendSctpMsg ∈ receiveXappMessages converted mtype then
    match state.sctpMap.find meid with
    | none => []
    | some peer =>
        -- the counters
        .read peer ::
          match state.peers peer with
          | none => []
          | some peerInfo => sendSctpMsgLog state peer peerInfo meid messageType sent
  else []

variable (typeNumber : RmrType → Int)

/-- What a handler does with the peers. Of a peer that is gone already only the first use is
listed: what is read there is not modelled. -/
def log (state : Termination) : BatchEvent → List (Access PeerId)
  | .rmr meid mtype converted sent =>
      receiveXappMessagesLog state meid mtype (typeNumber mtype) converted sent
  | .data peer pdus closed =>
      match state.peers peer with
      | none => [.read peer]
      | some _ => receiveDataFromSctpLog peer pdus closed
  | .epollOut peer socketError modified sent =>
      match state.peers peer with
      | none => [.read peer]
      | some peerInfo =>
          handleEinprogressMessagesLog state peer peerInfo socketError modified sent
  | .epollError peer =>
      match state.peers peer with
      | none => [.read peer]
      | some _ => handlepollErrorLog peer

def receive (peer : PeerId) (state : Termination) : E2apPdu → Termination
  | .initiatingMessage (.E2setup ies) => E2T.step state (.setupRequest peer ies)
  | _ => state

def step (state : Termination) : BatchEvent → Termination
  | .rmr meid mtype converted sent =>
      if mtype = .RIC_SCTP_CLEAR_ALL then E2T.step state .sctpClearAll
      else if .sendSctpMsg ∈ receiveXappMessages converted mtype ∧ sent = false then
        E2T.step state (.sendFailure meid (typeNumber mtype))
      else state
  | .data peer pdus closed =>
      let received := pdus.foldl (receive peer) state
      if closed then E2T.step received (.disconnect peer) else received
  | .epollOut peer socketError modified sent =>
      if socketError then state else E2T.step state (.epollOut peer modified sent)
  | .epollError peer => E2T.step state (.epollError peer)

def batchLog : Termination → List BatchEvent → List (Access PeerId)
  | _, [] => []
  | state, event :: events =>
      log typeNumber state event ++ batchLog (step typeNumber state event) events

/-- The termination, and the peers that the events of the batch so far have freed. -/
structure Batch where
  state : Termination
  freed : List PeerId

def batchStep (batch : Batch) (event : BatchEvent) : Batch where
  state := step typeNumber batch.state event
  freed := freedAfter batch.freed (log typeNumber batch.state event)

/-- No message is stored for the peer under a temporary key, unless with another peer that is
not freed. -/
def StoredApart (batch : Batch) (peer : PeerId) (peerInfo : ConnectedCU)
    (messageName : List Char) (messageType : Int) : Prop :=
  ∀ tmp, (cleanHashEntry batch.state peer peerInfo).sctpMap.find
      (msgKey messageName messageType) = some tmp →
    tmp ≠ peer ∧ tmp ∉ batch.freed

/-- The peer an event is for, or that a message is sent to, has not been freed by an earlier
event; `epoll_ctl` does not fail; and where all peers are closed, no two names lead to the same
one, or to one that has been freed. -/
def Orderly (batch : Batch) : BatchEvent → Prop
  | .data peer _ _ => peer ∉ batch.freed
  | .epollError peer => peer ∉ batch.freed
  | .epollOut peer socketError modified sent =>
      peer ∉ batch.freed ∧
        ∀ peerInfo, batch.state.peers peer = some peerInfo → socketError = false →
          modified = true ∧
            (sent = false → StoredApart batch peer peerInfo (string peerInfo.enodbName) 0)
  | .rmr meid mtype converted sent =>
      if mtype = .RIC_SCTP_CLEAR_ALL then
        (registeredPeers batch.state.sctpMap).Nodup ∧
          ∀ peer ∈ registeredPeers batch.state.sctpMap, peer ∉ batch.freed
      else if .sendSctpMsg ∈ receiveXappMessages converted mtype then
        ∀ peer, batch.state.sctpMap.find meid = some peer →
          peer ∉ batch.freed ∧
            ∀ peerInfo, batch.state.peers peer = some peerInfo → sent = false →
              peerInfo.isConnected = true →
              StoredApart batch peer peerInfo meid (typeNumber mtype)
      else True

variable {typeNumber}

theorem cleanHashEntryLog_free (freed : List PeerId) (peer : PeerId) (sctpMap : SctpMap)
    (key : List Char) :
    Safe freed (cleanHashEntryLog peer ++ freeFound sctpMap key) ↔
      peer ∉ freed ∧ ∀ tmp, sctpMap.find key = some tmp → tmp ≠ peer ∧ tmp ∉ freed := by
  rw [safe_append]
  cases found : sctpMap.find key with
  | none => simp [cleanHashEntryLog, freeFound, found]
  | some tmp => simp [cleanHashEntryLog, freeFound, found]

theorem sendSctpMsgLog_safe_iff (batch : Batch) (peer : PeerId) (peerInfo : ConnectedCU)
    (messageName : List Char) (messageType : Int) (sent : Bool) :
    Safe batch.freed
        (sendSctpMsgLog batch.state peer peerInfo messageName messageType sent) ↔
      peer ∉ batch.freed ∧
        (sent = false → peerInfo.isConnected = true →
          StoredApart batch peer peerInfo messageName messageType) := by
  cases sent with
  | true => simp [sendSctpMsgLog]
  | false =>
      cases connected : peerInfo.isConnected with
      | false => simp [sendSctpMsgLog, connected]
      | true =>
          simp only [sendSctpMsgLog, connected, safe_read, StoredApart, forall_const,
            Bool.false_eq_true, ↓reduceIte, Bool.not_true, cleanHashEntryLog_free]
          tauto

theorem receiveLog_usesOnly (peer : PeerId) (pdus : List E2apPdu) :
    UsesOnly peer (pdus.flatMap (receiveLog peer)) := by
  intro access member
  have ⟨pdu, _, inside⟩ := List.mem_flatMap.mp member
  unfold receiveLog at inside
  split at inside <;> simp only [List.mem_cons, List.not_mem_nil, or_false] at inside <;> tauto

theorem receiveDataFromSctpLog_safe_iff (freed : List PeerId) (peer : PeerId)
    (pdus : List E2apPdu) (closed : Bool) :
    Safe freed (receiveDataFromSctpLog peer pdus closed) ↔ peer ∉ freed := by
  have uses := receiveLog_usesOnly peer pdus
  rw [receiveDataFromSctpLog, safe_append, uses.freedAfter]
  constructor
  · intro safe
    exact safe.2.1
  · intro present
    refine ⟨uses.safe present, present, present, ?_⟩
    cases closed with
    | false => trivial
    | true => exact ⟨present, present, present, present, present, trivial⟩

theorem modifyToEpollFails_unsafe (freed : List PeerId) (state : Termination) (peer : PeerId)
    (peerInfo : ConnectedCU) : ¬ Safe freed (modifyToEpollFailsLog state peer peerInfo) := by
  simp [modifyToEpollFailsLog, cleanHashEntryLog]

theorem handleEinprogressMessagesLog_safe_iff (batch : Batch) (peer : PeerId)
    (peerInfo : ConnectedCU) (socketError modified sent : Bool) :
    Safe batch.freed
        (handleEinprogressMessagesLog batch.state peer peerInfo socketError modified sent) ↔
      peer ∉ batch.freed ∧
        (socketError = false →
          modified = true ∧
            (sent = false → StoredApart batch peer peerInfo (string peerInfo.enodbName) 0)) := by
  cases socketError with
  | true => simp [handleEinprogressMessagesLog]
  | false =>
      cases modified with
      | false =>
          simp [handleEinprogressMessagesLog, modifyToEpollFails_unsafe]
      | true =>
          cases sent with
          | true => simp [handleEinprogressMessagesLog, sendSctpMsgLog]
          | false =>
              -- the map is not changed when the peer is marked as connected
              have sends : Safe batch.freed (sendSctpMsgLog
                  (batch.state.store peer { peerInfo with isConnected := true }) peer
                  { peerInfo with isConnected := true } (string peerInfo.enodbName) 0 false) ↔
                  peer ∉ batch.freed ∧ (false = false → true = true →
                    StoredApart batch peer peerInfo (string peerInfo.enodbName) 0) :=
                sendSctpMsgLog_safe_iff
                  { batch with
                    state := batch.state.store peer { peerInfo with isConnected := true } }
                  peer { peerInfo with isConnected := true } (string peerInfo.enodbName) 0 false
              simp only [handleEinprogressMessagesLog, Bool.false_eq_true, ↓reduceIte,
                Bool.not_true, List.append_nil, List.cons_append, List.nil_append, safe_read,
                safe_write, sends, forall_const, true_and]
              tauto

/-- A handler uses no peer that is gone, and frees none twice, just when it meets the
condition. -/
theorem log_safe_iff (batch : Batch) (event : BatchEvent) :
    Safe batch.freed (log typeNumber batch.state event) ↔ Orderly typeNumber batch event := by
  cases event with
  | data peer pdus closed =>
      cases is : batch.state.peers peer with
      | none => simp [log, Orderly, is]
      | some peerInfo => simp [log, Orderly, is, receiveDataFromSctpLog_safe_iff]
  | epollError peer =>
      cases is : batch.state.peers peer with
      | none => simp [log, Orderly, is]
      | some peerInfo => simp [log, Orderly, is, handlepollErrorLog, cleanHashEntryLog]
  | epollOut peer socketError modified sent =>
      cases is : batch.state.peers peer with
      | none => simp [log, Orderly, is]
      | some peerInfo =>
          simp [log, Orderly, is, handleEinprogressMessagesLog_safe_iff]
  | rmr meid mtype converted sent =>
      simp only [log, Orderly, receiveXappMessagesLog]
      split_ifs with clears sends
      · exact safe_drops_iff batch.freed (registeredPeers batch.state.sctpMap)
      · cases found : batch.state.sctpMap.find meid with
        | none => simp
        | some peer =>
            cases is : batch.state.peers peer with
            | none => simp [is]
            | some peerInfo => simp [is, sendSctpMsgLog_safe_iff]
      · simp

theorem batchLog_safe_iff (batch : Batch) (events : List BatchEvent) :
    Safe batch.freed (batchLog typeNumber batch.state events) ↔
      Runs.Along (batchStep typeNumber) (Orderly typeNumber) batch events := by
  induction events generalizing batch with
  | nil => simp [batchLog]
  | cons event events ih =>
      rw [batchLog, safe_append, log_safe_iff, Runs.along_cons, ← ih]
      rfl

/-! The peers that a handler frees are those that are gone afterwards. -/

theorem cleanHashEntry_peers (state : Termination) (peer : PeerId) (val : ConnectedCU)
    (other : PeerId) :
    (cleanHashEntry state peer val).peers other = none ↔
      state.peers other = none ∨ other = peer := by
  by_cases same : other = peer
  · subst same
    simp [cleanHashEntry, Termination.free]
  · simp [cleanHashEntry, Termination.free, Termination.erase, same]

theorem free_mem_freeFound_iff (sctpMap : SctpMap) (key : List Char) (other : PeerId) :
    .free other ∈ freeFound sctpMap key ↔ sctpMap.find key = some other := by
  cases found : sctpMap.find key with
  | none => simp [freeFound, found]
  | some tmp => simp [freeFound, found, eq_comm]

def freeStored (state : Termination) (key : List Char) : Termination :=
  match state.sctpMap.find key with
  | none => state.erase key
  | some tmp => (state.free tmp).erase key

theorem cleaned_peers (state : Termination) (peer : PeerId) (val : ConnectedCU)
    (key : List Char) (other : PeerId) :
    (freeStored (cleanHashEntry state peer val) key).peers other = none ↔
      state.peers other = none ∨
        .free other ∈ cleanHashEntryLog peer ++
          freeFound (cleanHashEntry state peer val).sctpMap key := by
  have cleaned := cleanHashEntry_peers state peer val other
  rw [List.mem_append, free_mem_freeFound_iff]
  cases found : (cleanHashEntry state peer val).sctpMap.find key with
  | none => simp [freeStored, found, Termination.erase, cleaned, cleanHashEntryLog]
  | some tmp =>
      by_cases same : other = tmp
      · subst same
        simp [freeStored, found, Termination.erase, Termination.free]
      · simp [freeStored, found, Termination.erase, Termination.free, same, Ne.symm same,
          cleaned, cleanHashEntryLog]

theorem sendSctpMsgFails_peers (state : Termination) (peer : PeerId) (peerInfo : ConnectedCU)
    (messageName : List Char) (messageType : Int) (other : PeerId) :
    (sendSctpMsgFails state peer peerInfo messageName messageType).peers other = none ↔
      state.peers other = none ∨
        .free other ∈ sendSctpMsgLog state peer peerInfo messageName messageType false := by
  cases connected : peerInfo.isConnected with
  | false => simp [sendSctpMsgFails, sendSctpMsgLog, connected]
  | true =>
      simp only [sendSctpMsgFails, sendSctpMsgLog, connected, Bool.not_true, Bool.false_eq_true,
        ↓reduceIte, List.mem_cons, reduceCtorEq, false_or]
      change (freeStored _ _).peers other = none ↔ _
      exact cleaned_peers state peer peerInfo (msgKey messageName messageType) other

theorem receive_peers (peer : PeerId) (state : Termination) (pdus : List E2apPdu)
    (other : PeerId) :
    (pdus.foldl (receive peer) state).peers other = none ↔ state.peers other = none := by
  induction pdus generalizing state with
  | nil => exact Iff.rfl
  | cons pdu pdus ih =>
      rw [List.foldl_cons, ih]
      unfold receive
      split
      · next ies =>
          cases is : state.peers peer with
          | none => simp [E2T.step, is]
          | some peerInfo =>
              by_cases same : other = peer
              · subst same
                simp [E2T.step, is, collectSetupRequestData]
              · simp [E2T.step, is, collectSetupRequestData, same]
      · exact Iff.rfl

theorem clearAll_peers_iff (state : Termination) (other : PeerId) :
    (clearAll state).peers other = none ↔
      state.peers other = none ∨ other ∈ registeredPeers state.sctpMap := by
  suffices loop : ∀ (keys : List (List Char)) (cleared : Termination),
      (keys.foldl
        (fun cleared key =>
          if isTemporary key then cleared else
          match state.sctpMap.find key with
          | none => cleared
          | some peer => cleared.free peer)
        cleared).peers other = none ↔
        cleared.peers other = none ∨
          other ∈ keys.filterMap fun key =>
            if isTemporary key then none else state.sctpMap.find key from
    loop _ state
  intro keys cleared
  induction keys generalizing cleared with
  | nil => simp
  | cons key keys ih =>
      rw [List.foldl_cons, ih]
      cases temporary : isTemporary key with
      | true => simp [temporary]
      | false =>
          cases found : state.sctpMap.find key with
          | none => simp [temporary, found]
          | some peer =>
              by_cases same : other = peer
              · subst same
                simp [temporary, found, Termination.free]
              · simp [temporary, found, Termination.free, same]

theorem disconnect_peers (state : Termination) (peer other : PeerId) :
    (E2T.step state (.disconnect peer)).peers other = none ↔
      state.peers other = none ∨ (state.peers peer).isSome ∧ other = peer := by
  cases is : state.peers peer with
  | none => simp [E2T.step, is]
  | some peerInfo => simp [E2T.step, is, cleanHashEntry_peers]

theorem handleEinprogressMessages_peers (state : Termination) (peer : PeerId)
    (peerInfo : ConnectedCU) (is : state.peers peer = some peerInfo) (modified sent : Bool)
    (other : PeerId) :
    (handleEinprogressMessages state peer peerInfo modified sent).peers other = none ↔
      state.peers other = none ∨
        .free other ∈ handleEinprogressMessagesLog state peer peerInfo false modified sent := by
  have stored : (state.store peer { peerInfo with isConnected := true }).peers other = none ↔
      state.peers other = none := by
    by_cases same : other = peer
    · subst same
      simp [is]
    · rw [Termination.store_other state same]
  cases modified with
  | false =>
      have cleaned := cleaned_peers (state.store peer { peerInfo with isConnected := true }) peer
        { peerInfo with isConnected := true } (msgKey (string peerInfo.enodbName) 0) other
      rw [stored] at cleaned
      have listed :
          .free other ∈ handleEinprogressMessagesLog state peer peerInfo false false sent ↔
            .free other ∈ cleanHashEntryLog peer ++ freeFound
              (cleanHashEntry (state.store peer { peerInfo with isConnected := true }) peer
                { peerInfo with isConnected := true }).sctpMap
              (msgKey (string peerInfo.enodbName) 0) := by
        simp [handleEinprogressMessagesLog, modifyToEpollFailsLog]
      rw [listed]
      exact cleaned
  | true =>
      cases sent with
      | true => simpa [handleEinprogressMessages, handleEinprogressMessagesLog, sendSctpMsgLog]
          using stored
      | false =>
          have sends := sendSctpMsgFails_peers
            (state.store peer { peerInfo with isConnected := true }) peer
            { peerInfo with isConnected := true } (string peerInfo.enodbName) 0 other
          rw [stored] at sends
          simpa [handleEinprogressMessages, handleEinprogressMessagesLog] using sends

theorem step_peers (state : Termination) (event : BatchEvent) (other : PeerId) :
    (step typeNumber state event).peers other = none ↔
      state.peers other = none ∨ .free other ∈ log typeNumber state event := by
  cases event with
  | data peer pdus closed =>
      have unfreed : .free other ∉ pdus.flatMap (receiveLog peer) := by
        intro member
        rcases receiveLog_usesOnly peer pdus _ member with same | same <;> cases same
      have still := receive_peers peer state pdus other
      cases closed with
      | false =>
          cases is : state.peers peer with
          | none => simp [step, log, is, still]
          | some peerInfo => simp [step, log, is, still, receiveDataFromSctpLog, unfreed]
      | true =>
          have opened := receive_peers peer state pdus peer
          have torn := disconnect_peers (pdus.foldl (receive peer) state) peer other
          cases is : state.peers peer with
          | none =>
              have gone := opened.mpr is
              simp [step, log, is, torn, still, gone]
          | some peerInfo =>
              have present : ((pdus.foldl (receive peer) state).peers peer).isSome := by
                rw [← Option.ne_none_iff_isSome, Ne, opened, is]
                simp
              simp [step, log, is, torn, still, present, receiveDataFromSctpLog, unfreed,
                cleanHashEntryLog]
  | epollError peer =>
      cases is : state.peers peer with
      | none => simp [step, log, E2T.step, is]
      | some peerInfo =>
          simp [step, log, E2T.step, is, handlepollError, handlepollErrorLog, cleanHashEntryLog,
            cleanHashEntry_peers, Termination.erase]
  | epollOut peer socketError modified sent =>
      cases is : state.peers peer with
      | none => simp [step, log, E2T.step, is]
      | some peerInfo =>
          cases socketError with
          | true => simp [step, log, is, handleEinprogressMessagesLog]
          | false =>
              simpa [step, log, E2T.step, is] using
                handleEinprogressMessages_peers state peer peerInfo is modified sent other
  | rmr meid mtype converted sent =>
      by_cases clears : mtype = .RIC_SCTP_CLEAR_ALL
      · simp only [step, log, receiveXappMessagesLog, if_pos clears]
        rw [free_mem_drops_iff]
        exact clearAll_peers_iff state other
      · by_cases sends : .sendSctpMsg ∈ receiveXappMessages converted mtype
        · cases found : state.sctpMap.find meid with
          | none => cases sent <;> simp [step, log, receiveXappMessagesLog, clears, sends, found,
              E2T.step]
          | some peer =>
              cases is : state.peers peer with
              | none => cases sent <;> simp [step, log, receiveXappMessagesLog, clears, sends,
                  found, is, E2T.step]
              | some peerInfo =>
                  cases sent with
                  | true => simp [step, log, receiveXappMessagesLog, clears, sends, found, is,
                      sendSctpMsgLog]
                  | false =>
                      simpa [step, log, receiveXappMessagesLog, clears, sends, found, is, E2T.step]
                        using sendSctpMsgFails_peers state peer peerInfo meid (typeNumber mtype)
                          other
        · simp [step, log, receiveXappMessagesLog, clears, sends]

theorem freed_gone (state : Termination) (events : List BatchEvent) :
    let batch := Runs.run (batchStep typeNumber) { state := state, freed := [] } events
    ∀ peer ∈ batch.freed, batch.state.peers peer = none := by
  refine Runs.run_invariant (fun batch : Batch => ∀ peer ∈ batch.freed,
    batch.state.peers peer = none) ?_ _ events ?_ (Runs.along_true _ events)
  · intro batch event gone _ peer member
    refine (step_peers batch.state event peer).mpr ?_
    rcases (mem_freedAfter_iff batch.freed _ peer).mp member with before | now
    · exact .inl (gone peer before)
    · exact .inr now
  · intro peer member
    cases member

/-- In a batch, from any state: no peer is used or freed that an earlier event, or an earlier
step of the same handler, has freed, just when every event is orderly. -/
theorem peers_not_used_freed_iff (typeNumber : RmrType → Int) (state : Termination)
    (events : List BatchEvent) :
    Safe [] (batchLog typeNumber state events) ↔
      Runs.Along (batchStep typeNumber) (Orderly typeNumber) { state := state, freed := [] }
        events :=
  batchLog_safe_iff { state := state, freed := [] } events

/-- All peers are closed, and the data of one of them is read next. -/
theorem cleared_peer_read :
    ¬ ∀ (typeNumber : RmrType → Int) (state : Termination) (events : List BatchEvent),
        Safe [] (batchLog typeNumber state events) := by
  intro safe
  have orderly := (batchLog_safe_iff
    { state := E2T.run Termination.initial
        [.accept 1 [] [], .setupRequest 1 [.globalE2nodeId shortGnb]]
      freed := [] }
    [.rmr [] .RIC_SCTP_CLEAR_ALL false false, .data 1 [] false]).mp (safe (fun _ => 0) _ _)
  exact orderly.2.1 (by decide)

end NearRtRic.E2T.EventBatch
