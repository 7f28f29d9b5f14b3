import Mathlib.Tactic
import NearRtRic.E2T.ConnectionMap

/-! When the teardown of one connection leaves the entries of the others alone. -/

namespace NearRtRic.E2T

open Buffer

/-- What is remembered of a run: whether the last setup of a connection succeeded, and the
connection that registered a name last. -/
structure History where
  succeeded : PeerId → Bool
  registrant : List Char → Option PeerId

namespace History

def empty : History where
  succeeded := fun _ => false
  registrant := fun _ => none

def record (history : History) (state : Termination) : Event → History
  | .accept peer _ _ =>
      { history with succeeded := Function.update history.succeeded peer false }
  | .setupRequest peer ies =>
      match state.peers peer with
      | none => history
      | some peerInfo =>
          let collected := collectSetupRequestData state peer peerInfo ies
          if collected.1 ≠ 0 then
            { history with succeeded := Function.update history.succeeded peer false }
          else
            let name := (collected.2.peers peer).map fun named => string named.enodbName
            { succeeded := Function.update history.succeeded peer true
              registrant := Function.update history.registrant (name.getD []) (some peer) }
  | _ => history

end History

structure Traced where
  state : Termination
  history : History

def Traced.initial : Traced where
  state := Termination.initial
  history := History.empty

def traceStep (traced : Traced) (event : Event) : Traced where
  state := step traced.state event
  history := traced.history.record traced.state event

/-- A teardown removes no entry that refers to another open connection. -/
def Local (traced : Traced) (event : Event) : Prop :=
  ∀ peer, tornDown traced.state event = some peer →
    ∀ key other, traced.state.sctpMap.find key = some other → other ≠ peer →
      (traced.state.peers other).isSome →
      (traceStep traced event).state.sctpMap.find key = some other

/-- A connection whose last setup succeeded, and whose name no other connection registered
since, is found under its name. -/
def Found (traced : Traced) : Prop :=
  ∀ peer peerInfo, traced.state.peers peer = some peerInfo →
    traced.history.succeeded peer = true →
    traced.history.registrant (string peerInfo.enodbName) = some peer →
    traced.state.sctpMap.find (string peerInfo.enodbName) = some peer

/-- The name of a connection that is torn down is not registered to another open one. -/
def TeardownOwn (state : Termination) (event : Event) : Prop :=
  ∀ peer peerInfo, tornDown state event = some peer → state.peers peer = some peerInfo →
    ∀ other, state.sctpMap.find (string peerInfo.enodbName) = some other → other ≠ peer →
      state.peers other = none

/-- Every setup request names its connection. -/
def SetupNames : Event → Prop
  | .setupRequest _ ies => nodeIds ies ≠ []
  | _ => True

def Orderly (traced : Traced) (event : Event) : Prop :=
  SetupFits traced.state event ∧ SetupNames event ∧ TeardownOwn traced.state event

theorem record_of_tornDown {history : History} {state : Termination} {event : Event}
    {peer : PeerId} (torn : tornDown state event = some peer) :
    history.record state event = history := by
  cases event <;> first | rfl | exact absurd torn nofun

theorem local_of_orderly (traced : Traced) (event : Event) (sound : Sound traced.state)
    (orderly : Orderly traced event) : Local traced event := by
  intro peer torn key other found differ isOpen
  have effect := step_effect sound.named event
  revert effect
  change StepEffect traced.state event (traceStep traced event).state → _
  generalize (traceStep traced event).state = after
  intro effect
  cases effect with
  | unchanged event stays closed => exact found
  | accepted peer hostName portNumber unused => exact found
  | setup peer peerInfo ies is => exact absurd torn nofun
  | connected peer peerInfo is => exact found
  | tornDown event freed after freeing effect =>
      obtain rfl : peer = freed := Option.some.inj (torn.symm.trans freeing)
      rcases effect.opened with ⟨peerInfo, is⟩
      rw [effect.find peerInfo is]
      split
      · next same =>
        rw [same] at found
        rw [orderly.2.2 peer peerInfo torn is other found differ] at isOpen
        cases isOpen
      · exact found
  | cleared => exact absurd torn nofun

theorem found_initial : Found Traced.initial := by
  intro peer peerInfo is
  cases is

theorem SetupEffect.found {traced : Traced} {peer : PeerId} {peerInfo : ConnectedCU}
    {ies : List SetupIe} (found : Found traced) (is : traced.state.peers peer = some peerInfo)
    (names : nodeIds ies ≠ [])
    (effect : SetupEffect traced.state peer peerInfo ies
      (collectSetupRequestData traced.state peer peerInfo ies)) :
    Found
      { state := (collectSetupRequestData traced.state peer peerInfo ies).2
        history := traced.history.record traced.state (.setupRequest peer ies) } := by
  simp only [History.record, is]
  revert effect
  generalize collectSetupRequestData traced.state peer peerInfo ies = collected
  intro effect
  cases effect with
  | unnamed absent => exact absurd absent names
  | rejected node rest first rejected =>
      intro other otherInfo isOther succeeded registered
      simp only [ne_eq, reduceCtorEq, not_false_eq_true, if_true] at succeeded registered
      have differ : other ≠ peer := by
        rintro rfl
        simp at succeeded
      rw [Function.update_of_ne differ] at succeeded
      rw [Termination.store_other _ differ] at isOther
      exact found other otherInfo isOther succeeded registered
  | accepted node only accepted =>
      rcases written_string (buildRanName_written node) with ⟨-, plain, -⟩
      have named : string (padded MAX_ENODB_NAME_SIZE (ranName node)) = ranName node :=
        string_padded plain
      intro other otherInfo isOther succeeded registered
      simp only [ne_eq, not_true_eq_false, if_false, Function.update_self, Option.map_some,
        Option.getD_some, named] at succeeded registered
      rw [SctpMap.find_setkey]
      by_cases same : other = peer
      · subst same
        simp only [Function.update_self, Option.some.injEq] at isOther
        rw [← isOther, named, if_pos rfl]
      · simp only [Function.update_of_ne same] at isOther succeeded
        have differ : string otherInfo.enodbName ≠ ranName node := by
          intro taken
          rw [taken, Function.update_self, Option.some.injEq] at registered
          exact same registered.symm
        rw [Function.update_of_ne differ] at registered
        rw [if_neg differ]
        exact found other otherInfo isOther succeeded registered

theorem TornDown.found {traced : Traced} {peer : PeerId} {after : Termination}
    (found : Found traced) (torn : TornDown traced.state peer after)
    (own : ∀ peerInfo, traced.state.peers peer = some peerInfo →
      ∀ other, traced.state.sctpMap.find (string peerInfo.enodbName) = some other →
        other ≠ peer → traced.state.peers other = none) :
    Found { state := after, history := traced.history } := by
  intro other otherInfo isOther succeeded registered
  rcases torn.opened with ⟨peerInfo, is⟩
  have differ : other ≠ peer := by
    rintro rfl
    simp [torn.peers] at isOther
  simp only [torn.peers, Function.update_of_ne differ] at isOther
  have before := found other otherInfo isOther succeeded registered
  rw [torn.find peerInfo is]
  split
  · next same =>
    rw [same] at before
    rw [own peerInfo is other before differ] at isOther
    cases isOther
  · exact before

theorem found_of_kept {traced : Traced} {event : Event} (found : Found traced)
    (closed : ∀ peer ies, event = .setupRequest peer ies → traced.state.peers peer = none) :
    Found
      { state := traced.state
        history := traced.history.record traced.state event } := by
  intro peer peerInfo is succeeded registered
  cases event with
  | accept other hostName portNumber =>
      by_cases same : peer = other
      · subst same
        simp [History.record] at succeeded
      · simp only [History.record, Function.update_of_ne same] at succeeded
        exact found peer peerInfo is succeeded registered
  | setupRequest other ies =>
      simp only [History.record, closed other ies rfl] at succeeded registered
      exact found peer peerInfo is succeeded registered
  | disconnect other => exact found peer peerInfo is succeeded registered
  | epollError other => exact found peer peerInfo is succeeded registered
  | epollOut other modified sent => exact found peer peerInfo is succeeded registered
  | sendFailure meid messageType => exact found peer peerInfo is succeeded registered
  | sctpClearAll => exact found peer peerInfo is succeeded registered

theorem found_step (traced : Traced) (event : Event) (sound : Sound traced.state)
    (found : Found traced) (orderly : Orderly traced event) :
    Found (traceStep traced event) := by
  have effect := step_effect sound.named event
  rw [traceStep]
  revert effect
  generalize step traced.state event = after
  intro effect
  cases effect with
  | unchanged event stays closed => exact found_of_kept found closed
  | accepted peer hostName portNumber unused =>
      intro other otherInfo isOther succeeded registered
      have differ : other ≠ peer := by
        rintro rfl
        simp [History.record] at succeeded
      rw [Termination.store_other _ differ] at isOther
      simp only [History.record, Function.update_of_ne differ] at succeeded
      exact found other otherInfo isOther succeeded registered
  | setup peer peerInfo ies is =>
      exact (setup_effect (sound.filled peer peerInfo is)
        (orderly.1 peerInfo is)).found found is orderly.2.1
  | connected peer peerInfo is =>
      intro other otherInfo isOther succeeded registered
      by_cases same : other = peer
      · subst same
        rw [Termination.store_same, Option.some.injEq] at isOther
        rw [← isOther] at registered ⊢
        exact found other peerInfo is succeeded registered
      · rw [Termination.store_other _ same] at isOther
        exact found other otherInfo isOther succeeded registered
  | tornDown event peer after torn effect =>
      rw [record_of_tornDown torn]
      exact effect.found found (fun peerInfo is => orderly.2.2 peer peerInfo torn is)
  | cleared =>
      intro other otherInfo isOther succeeded registered
      rcases clearAll_peers isOther with ⟨is, unfound⟩
      have before := found other otherInfo is succeeded registered
      exact absurd before (unfound _ (sound.named _ _ before))

/-- In every run whose setup requests name their connection once, by a name not shorter than
the one before, and in which no connection is torn down while its name is registered to
another open one: every teardown is local, and the connections are found under their names. -/
theorem teardown_local (events : List Event)
    (orderly : Runs.Along traceStep Orderly Traced.initial events) :
    Runs.Along traceStep Local Traced.initial events ∧
      Found (Runs.run traceStep Traced.initial events) := by
  have preserved : ∀ traced event, Sound traced.state ∧ Found traced → Orderly traced event →
      Sound (traceStep traced event).state ∧ Found (traceStep traced event) :=
    fun traced event holds allowed =>
      ⟨sound_step traced.state event holds.1 allowed.1,
        found_step traced event holds.1 holds.2 allowed⟩
  have start : Sound Traced.initial.state ∧ Found Traced.initial :=
    ⟨sound_initial, found_initial⟩
  constructor
  · exact Runs.along_strengthen (fun traced => Sound traced.state ∧ Found traced) preserved
      (fun traced event holds allowed => local_of_orderly traced event holds.1 allowed)
      Traced.initial events start orderly
  · exact (Runs.run_invariant (fun traced => Sound traced.state ∧ Found traced) preserved
      Traced.initial events start orderly).2

def twoNames : List Event :=
  [.accept 1 [] [], .setupRequest 1 [.globalE2nodeId firstGnb],
    .accept 2 [] [], .setupRequest 2 [.globalE2nodeId secondGnb], .disconnect 1]

theorem teardown_local_twoNames :
    Runs.Along traceStep Local Traced.initial twoNames ∧
      Found (Runs.run traceStep Traced.initial twoNames) := by
  refine teardown_local twoNames ⟨⟨trivial, trivial, nofun⟩, ⟨fun peerInfo is => ?_, ?_, nofun⟩,
    ⟨trivial, trivial, nofun⟩, ⟨fun peerInfo is => ?_, ?_, nofun⟩,
    ⟨trivial, trivial, fun peer peerInfo torn is other found => ?_⟩, trivial⟩
  · obtain rfl := Option.some.inj is
    exact fun _ => ⟨rfl, by decide⟩
  · exact nofun
  · obtain rfl := Option.some.inj is
    exact fun _ => ⟨rfl, by decide⟩
  · exact nofun
  · obtain rfl : 1 = peer := Option.some.inj torn
    obtain rfl := Option.some.inj is
    exact fun differ => absurd (Option.some.inj (found.symm.trans (by decide))) differ

/-- A RAN reconnects under the same name, then the end of its old association is seen. -/
def reconnect : List Event :=
  [.accept 1 [] [], .setupRequest 1 [.globalE2nodeId firstGnb],
    .accept 2 [] [], .setupRequest 2 [.globalE2nodeId firstGnb], .disconnect 1]

theorem reconnect_not_local :
    ¬ ∀ events, Runs.Along traceStep Local Traced.initial events ∧
      Found (Runs.run traceStep Traced.initial events) := by
  intro claim
  rcases (claim reconnect).1 with ⟨-, -, -, -, teardown, -⟩
  have kept := teardown 1 rfl (ranName firstGnb) 2 (by decide) (by decide) rfl
  exact absurd kept (by decide)

end NearRtRic.E2T
