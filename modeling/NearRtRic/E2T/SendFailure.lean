import Mathlib.Tactic
import NearRtRic.E2T.ConnectionMap
import NearRtRic.E2T.SetupRegistration

/-! A `send` that fails: when `sendSctpMsg` closes the peer and erases its entry. -/

namespace NearRtRic.E2T.SendFailure

open Buffer

/-- The peer of a call of `sendSctpMsg` in which `send` fails, with another error than
`EINTR`. -/
def failedSend (state : Termination) : Event → Option PeerId
  | .sendFailure meid _ => state.sctpMap.find meid
  | .epollOut peer modified sent => if modified && !sent then some peer else none
  | _ => none

structure Fails (state : Termination) (event : Event) (peer : PeerId)
    (peerInfo : ConnectedCU) : Prop where
  send : failedSend state event = some peer
  opened : state.peers peer = some peerInfo
  registered : Registered state peer

/-- The peer is closed, and a message for a name that led to it finds no entry. -/
def Unregisters (state : Termination) (event : Event) : Prop :=
  ∀ peer peerInfo, Fails state event peer peerInfo →
    (step state event).peers peer = none ∧
      ∀ ranName, state.sctpMap.find ranName = some peer →
        (step state event).sctpMap.find ranName = none

/-- `isConnected` where `sendSctpMsg` reads it: `handleEinprogressMessages` has set it. -/
def isConnectedAt (peerInfo : ConnectedCU) : Event → Bool
  | .epollOut _ _ _ => true
  | _ => peerInfo.isConnected

/-- The peer is marked as connected, and registered under the name that it has. -/
def SendsConnected (state : Termination) (event : Event) : Prop :=
  ∀ peer peerInfo, Fails state event peer peerInfo →
    isConnectedAt peerInfo event = true ∧
      ∀ ranName, state.sctpMap.find ranName = some peer → ranName = string peerInfo.enodbName

theorem Fails.tornDown {state : Termination} {event : Event} {peer : PeerId}
    {peerInfo : ConnectedCU} (fails : Fails state event peer peerInfo) :
    tornDown state event = if isConnectedAt peerInfo event then some peer else none := by
  have ⟨send, opened, _⟩ := fails
  cases event with
  | sendFailure meid messageType =>
      have found : state.sctpMap.find meid = some peer := send
      cases connected : peerInfo.isConnected <;>
        simp [E2T.tornDown, isConnectedAt, found, opened, connected]
  | epollOut other modified sent =>
      rw [failedSend] at send
      split at send
      · next fell =>
          obtain rfl : other = peer := Option.some.inj send
          have unsent : (modified && sent) = false := by
            cases modified <;> cases sent <;> simp_all
          simp [E2T.tornDown, isConnectedAt, unsent, opened]
      · cases send
  | _ => cases send

theorem Fails.unregisters_iff {state : Termination} (named : KeysNamed state) {event : Event}
    {peer : PeerId} {peerInfo : ConnectedCU} (fails : Fails state event peer peerInfo) :
    ((step state event).peers peer = none ∧
        ∀ ranName, state.sctpMap.find ranName = some peer →
          (step state event).sctpMap.find ranName = none) ↔
      isConnectedAt peerInfo event = true ∧
        ∀ ranName, state.sctpMap.find ranName = some peer →
          ranName = string peerInfo.enodbName := by
  have torn := fails.tornDown
  have effect := step_effect named event
  revert effect
  generalize step state event = after
  intro effect
  cases connected : isConnectedAt peerInfo event with
  | false =>
      rw [connected] at torn
      have kept : after.peers peer ≠ none := by
        cases effect with
        | unchanged event stays closed => simp [fails.opened]
        | accepted other hostName portNumber unused => cases fails.send
        | setup other otherInfo ies is => cases fails.send
        | connected other otherInfo is => cases fails.send
        | tornDown event other after tears effect => simp [tears] at torn
        | cleared => cases fails.send
      simp [kept]
  | true =>
      rw [connected, if_pos rfl] at torn
      cases effect with
      | unchanged event stays closed => simp [stays] at torn
      | accepted other hostName portNumber unused => cases fails.send
      | setup other otherInfo ies is => cases fails.send
      | connected other otherInfo is => cases fails.send
      | cleared => cases fails.send
      | tornDown event other after tears effect =>
          obtain rfl : other = peer := Option.some.inj (tears.symm.trans torn)
          have gone : after.peers other = none := by
            rw [effect.peers, Function.update_self]
          simp only [gone, true_and]
          refine forall_congr' fun ranName => forall_congr' fun found => ?_
          rw [effect.find peerInfo fails.opened, found]
          split
          · next same => simp [same]
          · next differ => simp [differ]

inductive EpollFlag
  | EPOLLIN
  | EPOLLOUT
  | EPOLLET
  deriving DecidableEq, Repr

/-- The termination, and the flags with which each descriptor was put into the epoll set. -/
structure Polled where
  state : Termination
  flags : PeerId → List EpollFlag

def Polled.initial : Polled where
  state := Termination.initial
  flags := fun _ => []

/-- `addToEpoll` where a connection is accepted, `modifyToEpoll` where it is ready for output. -/
def registerFlags (flags : PeerId → List EpollFlag) : Event → PeerId → List EpollFlag
  | .accept peer _ _ => Function.update flags peer [.EPOLLIN, .EPOLLET]
  | .epollOut peer true _ => Function.update flags peer [.EPOLLIN, .EPOLLET]
  | _ => flags

def pollStep (polled : Polled) (event : Event) : Polled where
  state := step polled.state event
  flags := registerFlags polled.flags event

/-- Readiness for output is reported only where it was asked for; errors always are. -/
def Reported (polled : Polled) : Event → Prop
  | .epollOut peer _ _ => .EPOLLOUT ∈ polled.flags peer
  | _ => True

structure Unconnected (polled : Polled) : Prop where
  named : KeysNamed polled.state
  flags : ∀ peer, .EPOLLOUT ∉ polled.flags peer
  peers : ∀ peer peerInfo, polled.state.peers peer = some peerInfo →
    peerInfo.isConnected = false

theorem unconnected_initial : Unconnected Polled.initial where
  named := sound_initial.named
  flags := fun peer member => by cases member
  peers := fun peer peerInfo is => by cases is

theorem Unconnected.flags_step {polled : Polled} (unconnected : Unconnected polled)
    (event : Event) (peer : PeerId) : .EPOLLOUT ∉ (pollStep polled event).flags peer := by
  have updated : ∀ other : PeerId, .EPOLLOUT ∉
      Function.update polled.flags other [.EPOLLIN, .EPOLLET] peer := by
    intro other
    by_cases same : peer = other
    · subst same
      rw [Function.update_self]
      decide
    · rw [Function.update_of_ne same]
      exact unconnected.flags peer
  cases event with
  | accept other hostName portNumber => exact updated other
  | epollOut other modified sent =>
      cases modified with
      | true => exact updated other
      | false => exact unconnected.flags peer
  | _ => exact unconnected.flags peer

theorem unconnected_step (polled : Polled) (event : Event) (unconnected : Unconnected polled)
    (reported : Reported polled event) : Unconnected (pollStep polled event) := by
  refine ⟨keysNamed_step _ event unconnected.named, unconnected.flags_step event, ?_⟩
  intro peer peerInfo is
  have effect := step_effect unconnected.named event
  have stored : (step polled.state event).peers peer = some peerInfo := is
  revert effect stored
  generalize step polled.state event = after
  intro effect stored
  cases effect with
  | unchanged event stays closed => exact unconnected.peers peer peerInfo stored
  | accepted other hostName portNumber unused =>
      by_cases same : peer = other
      · subst same
        rw [Termination.store_same, Option.some.injEq] at stored
        rw [← stored]
      · rw [Termination.store_other _ same] at stored
        exact unconnected.peers peer peerInfo stored
  | setup other otherInfo ies isOther =>
      change Function.update polled.state.peers other (some _) peer = some peerInfo at stored
      by_cases same : peer = other
      · subst same
        rw [Function.update_self, Option.some.injEq] at stored
        rw [← stored]
        exact unconnected.peers peer otherInfo isOther
      · rw [Function.update_of_ne same] at stored
        exact unconnected.peers peer peerInfo stored
  | connected other otherInfo isOther => exact absurd reported (unconnected.flags other)
  | tornDown event other after torn effect =>
      rw [effect.peers] at stored
      by_cases same : peer = other
      · subst same
        simp at stored
      · rw [Function.update_of_ne same] at stored
        exact unconnected.peers peer peerInfo stored
  | cleared => exact unconnected.peers peer peerInfo (clearAll_peers stored).1

def NoFailedSend (state : Termination) (event : Event) : Prop :=
  ∀ peer peerInfo, ¬ Fails state event peer peerInfo

theorem Unconnected.not_isConnectedAt {polled : Polled} (unconnected : Unconnected polled)
    {event : Event} (reported : Reported polled event) {peer : PeerId}
    {peerInfo : ConnectedCU} (fails : Fails polled.state event peer peerInfo) :
    isConnectedAt peerInfo event = false := by
  cases event with
  | epollOut other modified sent => exact absurd reported (unconnected.flags other)
  | sendFailure meid messageType => exact unconnected.peers peer peerInfo fails.opened
  | _ => cases fails.send

theorem unregisters_iff {state : Termination} (named : KeysNamed state) (event : Event) :
    Unregisters state event ↔ SendsConnected state event :=
  forall_congr' fun _ => forall_congr' fun _ => forall_congr' fun fails =>
    fails.unregisters_iff named

theorem along_unregisters_iff (events : List Event) :
    Runs.Along step Unregisters Termination.initial events ↔
      Runs.Along step SendsConnected Termination.initial events := by
  have kept : ∀ (allowed : Termination → Event → Prop) (state : Termination) (event : Event),
      KeysNamed state → allowed state event → KeysNamed (step state event) :=
    fun _ state event named _ => keysNamed_step state event named
  constructor
  · intro along
    exact Runs.along_strengthen KeysNamed (kept _)
      (fun _ event named unregisters => (unregisters_iff named event).mp unregisters)
      _ events sound_initial.named along
  · intro along
    exact Runs.along_strengthen KeysNamed (kept _)
      (fun _ event named connected => (unregisters_iff named event).mpr connected)
      _ events sound_initial.named along

/-- Where nobody is connected, a failed send leaves its peer registered. -/
theorem along_noFailedSend {polled : Polled} (unconnected : Unconnected polled)
    (events : List Event) (reported : Runs.Along pollStep Reported polled events) :
    Runs.Along step Unregisters polled.state events ↔
      Runs.Along step NoFailedSend polled.state events := by
  induction events generalizing polled with
  | nil => exact Iff.rfl
  | cons event events ih =>
      have ⟨here, later⟩ := reported
      rw [Runs.along_cons, Runs.along_cons]
      refine and_congr ?_ (ih (unconnected_step polled event unconnected here) later)
      rw [unregisters_iff unconnected.named]
      constructor
      · intro connected peer peerInfo fails
        have marked := (connected peer peerInfo fails).1
        rw [unconnected.not_isConnectedAt here fails] at marked
        cases marked
      · intro none_fails peer peerInfo fails
        exact absurd fails (none_fails peer peerInfo)

/-- In a run of any events: a failed send unregisters its peer just when the peer is marked as
connected and registered under the name that it has. Since no peer is registered for
`EPOLLOUT`, this is never so where epoll reports only what it was asked for. -/
theorem failed_send_unregisters_iff (events : List Event) :
    (Runs.Along step Unregisters Termination.initial events ↔
        Runs.Along step SendsConnected Termination.initial events) ∧
      (Runs.Along pollStep Reported Polled.initial events →
        (Runs.Along step Unregisters Termination.initial events ↔
          Runs.Along step NoFailedSend Termination.initial events)) :=
  ⟨along_unregisters_iff events, along_noFailedSend unconnected_initial events⟩

def brokenAssociation : List Event :=
  [.accept 1 [] [], .setupRequest 1 [.globalE2nodeId firstGnb],
    .sendFailure (ranName firstGnb) 12040]

theorem failed_send_keeps_entry :
    ¬ ∀ events, Runs.Along pollStep Reported Polled.initial events →
        Runs.Along step Unregisters Termination.initial events := by
  intro claim
  have along := claim brokenAssociation ⟨trivial, trivial, trivial, trivial⟩
  have unregisters := along.2.2.1
  have found : (run Termination.initial
      [.accept 1 [] [], .setupRequest 1 [.globalE2nodeId firstGnb]]).sctpMap.find
        (ranName firstGnb) = some 1 := by
    decide
  have stays : (run Termination.initial brokenAssociation).sctpMap.find (ranName firstGnb) =
      some 1 := by
    decide
  have gone := (unregisters 1 _ ⟨found, rfl, ⟨_, found⟩⟩).2 _ found
  have both : some 1 = (none : Option PeerId) := stays.symm.trans gone
  cases both

end NearRtRic.E2T.SendFailure
