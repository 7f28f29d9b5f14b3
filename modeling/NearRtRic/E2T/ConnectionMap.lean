import Mathlib.Tactic
import NearRtRic.E2T.Connections

/-! When every entry of the connection map refers to an open peer of that name. -/

namespace NearRtRic.E2T

open Buffer

/-- RMR traffic for a name goes to an open peer that has this name. -/
def Routed (state : Termination) : Prop :=
  ∀ key peer, state.sctpMap.find key = some peer →
    ∃ peerInfo, state.peers peer = some peerInfo ∧ string peerInfo.enodbName = key

def Registered (state : Termination) (peer : PeerId) : Prop :=
  ∃ key, state.sctpMap.find key = some peer

/-- A peer that is registered only repeats its setup under the name it has. -/
def KeepsName (state : Termination) : Event → Prop
  | .setupRequest peer ies =>
      ∀ peerInfo, state.peers peer = some peerInfo → Registered state peer →
        ∃ node, nodeIds ies = [node] ∧ Accepted node ∧
          ranName node = string peerInfo.enodbName
  | _ => True

/-- The condition on an event: what `NameFits` asks of a request, and the name is kept. -/
def SetupKeeps (state : Termination) (event : Event) : Prop :=
  SetupFits state event ∧ KeepsName state event

theorem routed_initial : Routed Termination.initial := by
  intro key peer found
  simp [Termination.initial] at found

theorem Routed.store_unregistered {state : Termination} (routed : Routed state) {peer : PeerId}
    (unregistered : ¬ Registered state peer) (peerInfo : ConnectedCU) :
    Routed (state.store peer peerInfo) := by
  intro key other found
  have differ : other ≠ peer := by
    rintro rfl
    exact unregistered ⟨key, found⟩
  rcases routed key other found with ⟨otherInfo, is, name⟩
  exact ⟨otherInfo, by rw [Termination.store_other _ differ, is], name⟩

theorem Routed.store_renamed {state : Termination} (routed : Routed state) {peer : PeerId}
    {peerInfo renewed : ConnectedCU} (is : state.peers peer = some peerInfo)
    (sameName : renewed.enodbName = peerInfo.enodbName) :
    Routed (state.store peer renewed) := by
  intro key other found
  rcases routed key other found with ⟨otherInfo, isOther, name⟩
  by_cases same : other = peer
  · subst same
    obtain rfl : peerInfo = otherInfo := Option.some.inj (is.symm.trans isOther)
    exact ⟨renewed, Termination.store_same _ _ _, by rw [sameName, name]⟩
  · exact ⟨otherInfo, by rw [Termination.store_other _ same, isOther], name⟩

/-- Every teardown erases the entry of the peer it frees: the peer has that name. -/
theorem TornDown.routed {state after : Termination} {peer : PeerId} (routed : Routed state)
    (torn : TornDown state peer after) : Routed after := by
  intro key other found
  rcases torn.opened with ⟨peerInfo, is⟩
  rw [torn.find peerInfo is] at found
  split at found
  · cases found
  next otherKey =>
    rcases routed key other found with ⟨otherInfo, isOther, name⟩
    have differ : other ≠ peer := by
      rintro rfl
      obtain rfl : peerInfo = otherInfo := Option.some.inj (is.symm.trans isOther)
      exact otherKey name.symm
    exact ⟨otherInfo, by rw [torn.peers, Function.update_of_ne differ, isOther], name⟩

theorem SetupEffect.routed {state : Termination} {peer : PeerId} {peerInfo : ConnectedCU}
    {ies : List SetupIe} {result : Int × Termination} (routed : Routed state)
    (is : state.peers peer = some peerInfo)
    (keeps : Registered state peer → ∃ node, nodeIds ies = [node] ∧ Accepted node ∧
      ranName node = string peerInfo.enodbName)
    (effect : SetupEffect state peer peerInfo ies result) : Routed result.2 := by
  cases effect with
  | unnamed absent =>
      apply routed.store_unregistered
      intro registered
      rcases keeps registered with ⟨node, only, -⟩
      rw [absent] at only
      cases only
  | rejected node rest first rejected =>
      apply routed.store_unregistered
      intro registered
      rcases keeps registered with ⟨other, only, accepted, -⟩
      rw [first] at only
      obtain rfl : node = other := (List.cons.inj only).1
      exact rejected accepted
  | accepted node only accepted =>
      rcases written_string (buildRanName_written node) with ⟨-, plain, -⟩
      have named : string (padded MAX_ENODB_NAME_SIZE (ranName node)) = ranName node :=
        string_padded plain
      intro key other found
      simp only [SctpMap.find_setkey] at found
      split at found
      · next same =>
        obtain rfl : peer = other := Option.some.inj found
        exact ⟨_, Function.update_self _ _ _, by rw [named, same]⟩
      · next differ =>
        rcases routed key other found with ⟨otherInfo, isOther, name⟩
        have apart : other ≠ peer := by
          rintro rfl
          rcases keeps ⟨key, found⟩ with ⟨again, onlyAgain, -, sameName⟩
          rw [only] at onlyAgain
          obtain rfl : node = again := (List.cons.inj onlyAgain).1
          obtain rfl : peerInfo = otherInfo := Option.some.inj (is.symm.trans isOther)
          exact differ (by rw [sameName, name])
        exact ⟨otherInfo, (Function.update_of_ne apart _ _).trans isOther, name⟩

theorem routed_step (state : Termination) (event : Event) (sound : Sound state)
    (routed : Routed state) (keeps : SetupKeeps state event) : Routed (step state event) := by
  have effect := step_effect sound.named event
  revert effect
  generalize step state event = after
  intro effect
  cases effect with
  | unchanged event stays closed => exact routed
  | accepted peer hostName portNumber unused =>
      apply routed.store_unregistered
      rintro ⟨key, found⟩
      rcases routed key peer found with ⟨peerInfo, is, -⟩
      rw [unused] at is
      cases is
  | setup peer peerInfo ies is =>
      exact (setup_effect (sound.filled peer peerInfo is) (keeps.1 peerInfo is)).routed routed is
        (keeps.2 peerInfo is)
  | connected peer peerInfo is => exact routed.store_renamed is rfl
  | tornDown event peer after torn effect => exact effect.routed routed
  | cleared =>
      intro key peer found
      simp at found

/-- In every run whose setup requests keep the name of a registered peer, every state is
routed. -/
theorem run_routed (events : List Event)
    (keeps : Runs.Along step SetupKeeps Termination.initial events) :
    ∀ before after, events = before ++ after → Routed (run Termination.initial before) := by
  rintro before after rfl
  have along := ((Runs.along_append _ _ _).mp keeps).1
  have both := Runs.run_invariant (fun state => Sound state ∧ Routed state)
    (fun state event holds fits =>
      ⟨sound_step state event holds.1 fits.1, routed_step state event holds.1 holds.2 fits⟩)
    Termination.initial before ⟨sound_initial, routed_initial⟩ along
  exact both.2

def firstGnb : GlobalE2nodeId := shortGnb
def secondGnb : GlobalE2nodeId := .gNB plmnExample (gnbOfSize [0x98, 0x76, 0x54] 2 (by decide))

def oneSetup : List Event :=
  [.accept 1 [] [], .setupRequest 1 [.other, .globalE2nodeId firstGnb], .disconnect 1]

theorem run_routed_oneSetup : Routed (run Termination.initial oneSetup) := by
  have keeps : Runs.Along step SetupKeeps Termination.initial oneSetup := by
    refine ⟨⟨trivial, trivial⟩, ⟨fun peerInfo is => ?_, fun peerInfo is registered => ?_⟩,
      ⟨trivial, trivial⟩, trivial⟩
    · obtain rfl := Option.some.inj is
      exact fun _ => ⟨rfl, by decide⟩
    · rcases registered with ⟨key, found⟩
      simp [step, Termination.initial, Termination.store] at found
  exact run_routed oneSetup keeps oneSetup [] (List.append_nil _).symm

/-- A connection sets up under a second id: the entry of the first one remains. -/
def secondSetup : List Event :=
  [.accept 1 [] [], .setupRequest 1 [.globalE2nodeId firstGnb],
    .setupRequest 1 [.globalE2nodeId secondGnb]]

theorem secondSetup_not_routed : ¬ ∀ events, Routed (run Termination.initial events) := by
  intro claim
  have found : (run Termination.initial secondSetup).sctpMap.find (ranName firstGnb) = some 1 := by
    decide
  have name : ((run Termination.initial secondSetup).peers 1).map
      (fun peerInfo => string peerInfo.enodbName) = some (ranName secondGnb) := by
    decide
  rcases claim secondSetup _ _ found with ⟨peerInfo, is, same⟩
  rw [is, Option.map_some, same, Option.some.injEq] at name
  exact absurd name (by decide)

end NearRtRic.E2T
