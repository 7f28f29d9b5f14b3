import Mathlib.Tactic
import NearRtRic.E2T.ConnectionMap
import NearRtRic.E2T.Dispatch
import NearRtRic.E2T.SetupRegistration

/-! What `RIC_SCTP_CLEAR_ALL` does with the connections: the loop goes through the names. -/

namespace NearRtRic.E2T.ClearAll

open Buffer

def RIC_SCTP_CONNECTION_FAILURE : RmrType := .other 10080

/-- What the loop does, in this order. -/
inductive Action
  | close (peer : PeerId)
  | sendRequestToXapp (requestId : RmrType) (enodbName payload : List Char)
  | free (peer : PeerId)
  deriving DecidableEq, Repr

/-- `left` is what is found in the memory of a peer that has been freed before. -/
def readName (left : PeerId → List Char) (cleared : Termination) (peer : PeerId) : List Char :=
  match cleared.peers peer with
  | none => left peer
  | some peerInfo => peerInfo.enodbName

def payload (enodbName : List Char) : List Char :=
  (string enodbName ++ "|RIC_SCTP_CLEAR_ALL".toList).take 255

def closePeer (peer : PeerId) (enodbName : List Char) : List Action :=
  [.close peer,
    .sendRequestToXapp RIC_SCTP_CONNECTION_FAILURE (string enodbName) (payload enodbName),
    .free peer]

/-- The loop over the keys; the map is cleared behind it. -/
def loop (left : PeerId → List Char) (sctpMap : SctpMap) :
    List (List Char) → Termination → List Action × Termination
  | [], cleared => ([], cleared)
  | iter :: v, cleared =>
      if isTemporary iter then loop left sctpMap v cleared
      else
        match sctpMap.find iter with
        | none => loop left sctpMap v cleared
        | some peer =>
            let later := loop left sctpMap v (cleared.free peer)
            (closePeer peer (readName left cleared peer) ++ later.1, later.2)

def actions (left : PeerId → List Char) (state : Termination) : List Action :=
  (loop left state.sctpMap state.sctpMap.getKeys state).1

theorem loop_clearAll (left : PeerId → List Char) (state : Termination) :
    clearAll state =
      { (loop left state.sctpMap state.sctpMap.getKeys state).2 with sctpMap := ∅ } := by
  suffices same : ∀ (v : List (List Char)) (cleared : Termination),
      v.foldl
        (fun cleared key =>
          if isTemporary key then cleared else
          match state.sctpMap.find key with
          | none => cleared
          | some peer => cleared.free peer)
        cleared = (loop left state.sctpMap v cleared).2 from
    congrArg (fun cleared : Termination => { cleared with sctpMap := ∅ }) (same _ state)
  intro v
  induction v with
  | nil =>
      intro cleared
      rfl
  | cons iter v ih =>
      intro cleared
      rw [List.foldl_cons, ih, loop]
      cases isTemporary iter with
      | true => rfl
      | false =>
          cases state.sctpMap.find iter with
          | none => rfl
          | some peer => rfl

def closed (actions : List Action) : List PeerId :=
  actions.filterMap fun action => match action with
    | .close peer => some peer
    | _ => none

def freed (actions : List Action) : List PeerId :=
  actions.filterMap fun action => match action with
    | .free peer => some peer
    | _ => none

def reported (actions : List Action) : List (RmrType × List Char) :=
  actions.filterMap fun action => match action with
    | .sendRequestToXapp requestId enodbName _ => some (requestId, enodbName)
    | _ => none

def failureOf (state : Termination) (peer : PeerId) : Option (RmrType × List Char) :=
  (state.peers peer).map fun peerInfo =>
    (RIC_SCTP_CONNECTION_FAILURE, string peerInfo.enodbName)

/-- Each registered peer, and no other one, is closed, reported under its name and freed, once;
the map is empty afterwards. -/
def TornDownOnce (left : PeerId → List Char) (state : Termination) : Prop :=
  (∃ peers : List PeerId, peers.Nodup ∧
    (∀ peer, peer ∈ peers ↔ Registered state peer) ∧
    closed (actions left state) = peers ∧ freed (actions left state) = peers ∧
    (reported (actions left state)).map some = peers.map (failureOf state)) ∧
  (clearAll state).sctpMap.getKeys = []

/-- Every name leads to an open peer, and no two names to the same one. -/
structure OneNameEach (state : Termination) : Prop where
  opened : ∀ key peer, state.sctpMap.find key = some peer → (state.peers peer).isSome
  apart : ∀ key other peer, state.sctpMap.find key = some peer →
    state.sctpMap.find other = some peer → key = other

@[simp] theorem closed_closePeer (peer : PeerId) (enodbName : List Char)
    (later : List Action) :
    closed (closePeer peer enodbName ++ later) = peer :: closed later := rfl

@[simp] theorem freed_closePeer (peer : PeerId) (enodbName : List Char) (later : List Action) :
    freed (closePeer peer enodbName ++ later) = peer :: freed later := rfl

@[simp] theorem reported_closePeer (peer : PeerId) (enodbName : List Char)
    (later : List Action) :
    reported (closePeer peer enodbName ++ later) =
      (RIC_SCTP_CONNECTION_FAILURE, string enodbName) :: reported later := rfl

def met (sctpMap : SctpMap) (v : List (List Char)) : List PeerId :=
  v.filterMap fun key => if isTemporary key then none else sctpMap.find key

theorem loop_closed (left : PeerId → List Char) (sctpMap : SctpMap) (v : List (List Char))
    (cleared : Termination) :
    closed (loop left sctpMap v cleared).1 = met sctpMap v ∧
      freed (loop left sctpMap v cleared).1 = met sctpMap v := by
  induction v generalizing cleared with
  | nil => exact ⟨rfl, rfl⟩
  | cons iter v ih =>
      rw [loop, met, List.filterMap_cons]
      cases isTemporary iter with
      | true => exact ih cleared
      | false =>
          cases sctpMap.find iter with
          | none => exact ih cleared
          | some peer =>
              have ⟨closes, frees⟩ := ih (cleared.free peer)
              exact ⟨congrArg (peer :: ·) closes, congrArg (peer :: ·) frees⟩

/-- As long as no peer is met again, the names are read before their memory is freed. -/
theorem loop_reported {left : PeerId → List Char} {state : Termination} (v : List (List Char))
    (cleared : Termination) (once : (met state.sctpMap v).Nodup)
    (opened : ∀ peer ∈ met state.sctpMap v, (state.peers peer).isSome)
    (unfreed : ∀ peer ∈ met state.sctpMap v, cleared.peers peer = state.peers peer) :
    (reported (loop left state.sctpMap v cleared).1).map some =
      (met state.sctpMap v).map (failureOf state) := by
  induction v generalizing cleared with
  | nil => rfl
  | cons iter v ih =>
      rw [met, List.filterMap_cons] at once opened unfreed ⊢
      rw [loop]
      cases temporary : isTemporary iter with
      | true =>
          rw [temporary] at once opened unfreed
          exact ih cleared once opened unfreed
      | false =>
          rw [temporary] at once opened unfreed
          cases found : state.sctpMap.find iter with
          | none =>
              rw [found] at once opened unfreed
              exact ih cleared once opened unfreed
          | some peer =>
              rw [found] at once opened unfreed
              have ⟨fresh, onceLater⟩ := List.nodup_cons.mp once
              have ⟨openHere, openLater⟩ := List.forall_mem_cons.mp opened
              have ⟨readHere, unfreedLater⟩ := List.forall_mem_cons.mp unfreed
              have later := ih (cleared.free peer) onceLater openLater fun other member => by
                have differ : other ≠ peer := fun same => fresh (same ▸ member)
                calc
                  (cleared.free peer).peers other = cleared.peers other :=
                    Function.update_of_ne differ _ _
                  _ = state.peers other := unfreedLater other member
              have ⟨peerInfo, is⟩ := Option.isSome_iff_exists.mp openHere
              have name : some (RIC_SCTP_CONNECTION_FAILURE, string (readName left cleared peer)) =
                  failureOf state peer := by
                rw [readName, readHere, failureOf, is]
                rfl
              exact congrArg₂ List.cons name later

theorem mem_met_getKeys {state : Termination} (named : KeysNamed state) (peer : PeerId) :
    peer ∈ met state.sctpMap state.sctpMap.getKeys ↔ Registered state peer := by
  rw [met, List.mem_filterMap]
  constructor
  · rintro ⟨key, _, found⟩
    split at found
    · cases found
    · exact ⟨key, found⟩
  · rintro ⟨key, found⟩
    refine ⟨key, (SctpMap.mem_getKeys _ _).mpr ⟨peer, found⟩, ?_⟩
    rw [named key peer found]
    exact found

/-- No peer is met twice just when no two names lead to it. -/
theorem met_nodup_iff {state : Termination} (named : KeysNamed state) :
    (met state.sctpMap state.sctpMap.getKeys).Nodup ↔
      ∀ key other peer, state.sctpMap.find key = some peer →
        state.sctpMap.find other = some peer → key = other := by
  have keys : state.sctpMap.getKeys.Nodup := state.sctpMap.keys_nodup
  have finds : ∀ key peer, (if isTemporary key then none else state.sctpMap.find key) =
      some peer ↔ state.sctpMap.find key = some peer := by
    intro key peer
    constructor
    · intro found
      split at found
      · cases found
      · exact found
    · intro found
      rw [named key peer found]
      exact found
  constructor
  · intro once key other peer first second
    by_contra differ
    have both : peer ∈ met state.sctpMap (state.sctpMap.getKeys.erase key) := by
      rw [met, List.mem_filterMap]
      refine ⟨other, ?_, (finds other peer).mpr second⟩
      rw [List.Nodup.mem_erase_iff keys]
      exact ⟨Ne.symm differ, (SctpMap.mem_getKeys _ _).mpr ⟨peer, second⟩⟩
    have member : key ∈ state.sctpMap.getKeys := (SctpMap.mem_getKeys _ _).mpr ⟨peer, first⟩
    have moved := (List.perm_cons_erase member).filterMap
      (fun key => if isTemporary key then none else state.sctpMap.find key)
    rw [List.filterMap_cons, (finds key peer).mpr first] at moved
    exact (List.nodup_cons.mp (moved.nodup_iff.mp once)).1 both
  · intro apart
    rw [met]
    refine List.Nodup.filterMap ?_ keys
    intro key other peer first second
    exact apart key other peer ((finds key peer).mp first) ((finds other peer).mp second)

theorem tornDownOnce_iff (left : PeerId → List Char) {state : Termination}
    (named : KeysNamed state) : TornDownOnce left state ↔ OneNameEach state := by
  have ⟨closes, frees⟩ := loop_closed left state.sctpMap state.sctpMap.getKeys state
  have registered := mem_met_getKeys named
  have once := met_nodup_iff named
  constructor
  · rintro ⟨⟨peers, nodup, _, closesThese, _, reports⟩, _⟩
    have these : met state.sctpMap state.sctpMap.getKeys = peers := closes.symm.trans closesThese
    refine ⟨fun key peer found => ?_, ?_⟩
    · have member : peer ∈ peers := by
        rw [← these]
        exact (registered peer).mpr ⟨key, found⟩
      have failure : failureOf state peer ∈ peers.map (failureOf state) :=
        List.mem_map_of_mem member
      rw [← reports] at failure
      rcases List.mem_map.mp failure with ⟨report, _, same⟩
      cases is : state.peers peer with
      | none =>
          rw [failureOf, is] at same
          cases same
      | some peerInfo => rfl
    · rw [← once, these]
      exact nodup
  · rintro ⟨opened, apart⟩
    have nodup := once.mpr apart
    refine ⟨⟨met state.sctpMap state.sctpMap.getKeys, nodup, registered, closes, frees, ?_⟩, rfl⟩
    refine loop_reported _ state nodup (fun peer member => ?_) (fun peer _ => rfl)
    rcases (registered peer).mp member with ⟨key, found⟩
    exact opened key peer found

theorem Routed.oneNameEach {state : Termination} (routed : Routed state) : OneNameEach state where
  opened := by
    intro key peer found
    rcases routed key peer found with ⟨peerInfo, is, -⟩
    rw [is]
    rfl
  apart := by
    intro key other peer first second
    rcases routed key peer first with ⟨peerInfo, is, name⟩
    rcases routed other peer second with ⟨again, isAgain, nameAgain⟩
    obtain rfl : peerInfo = again := Option.some.inj (is.symm.trans isAgain)
    rw [← name, nameAgain]

/-- In every state that a run reaches all peers are torn down once just when each is registered
under one name; this is so wherever the requests of the run keep the name of a registered
peer. -/
theorem all_torn_down_once_iff (left : PeerId → List Char) (events : List Event) :
    (TornDownOnce left (run Termination.initial events) ↔
        OneNameEach (run Termination.initial events)) ∧
      (Runs.Along step SetupKeeps Termination.initial events →
        TornDownOnce left (run Termination.initial events)) := by
  have exact := tornDownOnce_iff left (keysNamed_run events)
  refine ⟨exact, fun keeps => exact.mpr ?_⟩
  exact Routed.oneNameEach (run_routed events keeps events [] (List.append_nil _).symm)

/-- A connection that has set up under two ids is closed and freed twice. -/
theorem renamed_peer_freed_twice :
    ¬ ∀ left events, TornDownOnce left (run Termination.initial events) := by
  intro claim
  have ⟨peers, nodup, _, _, frees, _⟩ := (claim (fun _ => []) secondSetup).1
  have twice : freed (actions (fun _ => []) (run Termination.initial secondSetup)) = [1, 1] := by
    decide
  rw [← frees, twice] at nodup
  exact absurd nodup (by decide)

end NearRtRic.E2T.ClearAll
