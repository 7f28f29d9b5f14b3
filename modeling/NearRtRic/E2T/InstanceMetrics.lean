import Mathlib.Tactic
import NearRtRic.E2T.Counters
import NearRtRic.Library.Ledger

/-! Whether the counters of the instance are the sums of those of the RANs. -/

namespace NearRtRic.E2T.InstanceMetrics

open Ledger

abbrev CounterKey := Direction × CounterClass × ProcedureCode

/-- The values of the counters: of each RAN, by its name, and of the instance. -/
abbrev Metrics := Books (List Char) CounterKey

/-- A message of a RAN that is set up, or one for it. -/
inductive Traffic
  /-- `collected` is what `collectSetupRequestData` returns, for an E2setupRequest. -/
  | received (ranName : List Char) (pdu : E2apPdu) (collected : Int) (converted : Bool)
      (asnLength : Nat)
  | sent (ranName : List Char) (mtype : RmrType) (converted : Bool) (len : Nat)

namespace Traffic

def ranName : Traffic → List Char
  | received ranName _ _ _ _ => ranName
  | sent ranName _ _ _ => ranName

def length : Traffic → Nat
  | received _ _ _ _ asnLength => asnLength
  | sent _ _ _ len => len

def effects : Traffic → List Effect
  | received _ pdu collected converted _ => receiveDataFromSctp collected converted pdu
  | sent _ mtype converted _ => receiveXappMessages converted mtype

end Traffic

def amount (length : Nat) : CounterClass → Nat
  | .MSG_COUNTER => 1
  | .BYTES_COUNTER => length

/-- The counters that exist once a RAN of this name is set up. -/
def table (ranName : List Char) : CounterScope → CounterTable
  | .peer => buildPrometheusList ranName CounterTable.empty
  | .e2t => buildE2TPrometheusCounters CounterTable.empty

/-- `Increment` of a counter that exists; a null pointer is dereferenced otherwise. -/
def perform (ranName : List Char) (length : Nat) (metrics : Metrics) : Effect → Option Metrics
  | .increment scope direction counter procedure =>
      if (table ranName scope direction counter procedure).isSome then
        let key := (direction, counter, procedure)
        match scope with
        | .peer =>
            let value := metrics.account ranName key + amount length counter
            some { metrics with
              account := Function.update metrics.account ranName
                (Function.update (metrics.account ranName) key value) }
        | .e2t =>
            some { metrics with
              total := Function.update metrics.total key
                (metrics.total key + amount length counter) }
      else none
  -- the counters of a name that had some before are found again
  | .buildPrometheusList => some metrics
  | .sendRmrMessage _ _ | .sendSctpMsg => some metrics

def step (metrics : Metrics) (traffic : Traffic) : Option Metrics :=
  traffic.effects.foldlM (perform traffic.ranName traffic.length) metrics

def labelled (metered : Metered) (peer : PeerId) : List Char :=
  ((metered.state.peers peer).map fun peerInfo => Buffer.string peerInfo.enodbName).getD []

/-- The message that an event of the termination handles. -/
def trafficOf (metered : Metered) (length : Nat) : MessageEvent → Option Traffic
  | .pdu peer pdu converted =>
      (metered.state.peers peer).map fun _ =>
        let collected := metered.collect peer pdu
        .received (labelled collected.2 peer) pdu collected.1 converted length
  | .rmr meid mtype converted _ =>
      (metered.state.sctpMap.find meid).map fun peer =>
        .sent (labelled metered peer) mtype converted length
  | _ => none

theorem trafficOf_effects (metered : Metered) (length : Nat) (event : MessageEvent) :
    (trafficOf metered length event).map Traffic.effects =
      (metered.handling event).map fun handled => handled.2.1 := by
  cases event with
  | pdu peer pdu converted =>
      cases is : metered.state.peers peer with
      | none => simp [trafficOf, Metered.handling, is]
      | some peerInfo => simp [trafficOf, Metered.handling, is, Traffic.effects]
  | rmr meid mtype converted sent =>
      cases found : metered.state.sctpMap.find meid with
      | none => simp [trafficOf, Metered.handling, found]
      | some peer => simp [trafficOf, Metered.handling, found, Traffic.effects]
  | accept peer hostName portNumber => rfl
  | disconnect peer => rfl
  | epollError peer => rfl
  | epollOut peer modified sent => rfl

def credit (length : Nat) (scope : CounterScope) (key : CounterKey) : Effect → Nat
  | .increment other direction counter procedure =>
      if other = scope ∧ (direction, counter, procedure) = key then amount length counter else 0
  | _ => 0

def gain (length : Nat) (scope : CounterScope) (effects : List Effect) (key : CounterKey) : Nat :=
  (effects.map (credit length scope key)).sum

def Traffic.posting (traffic : Traffic) : Posting (List Char) CounterKey where
  account := traffic.ranName
  own := gain traffic.length .peer traffic.effects
  overall := gain traffic.length .e2t traffic.effects

/-- The counter that an effect increments exists. -/
def Listed : Effect → Prop
  | .increment .peer direction _ procedure => hasEntry peerEntries direction procedure
  | .increment .e2t direction _ procedure => hasEntry e2tEntries direction procedure
  | .buildPrometheusList | .sendRmrMessage _ _ | .sendSctpMsg => True

theorem table_peer (ranName : List Char) (direction : Direction) (counter : CounterClass)
    (procedure : ProcedureCode) :
    (table ranName .peer direction counter procedure).isSome ↔
      hasEntry peerEntries direction procedure := by
  simp [table, buildPrometheusList, fill_isSome, CounterTable.empty]

theorem table_e2t (ranName : List Char) (direction : Direction) (counter : CounterClass)
    (procedure : ProcedureCode) :
    (table ranName .e2t direction counter procedure).isSome ↔
      hasEntry e2tEntries direction procedure := by
  simp [table, buildE2TPrometheusCounters, fill_isSome, CounterTable.empty]

def effectPosting (ranName : List Char) (length : Nat) (effect : Effect) :
    Posting (List Char) CounterKey where
  account := ranName
  own := fun key => credit length .peer key effect
  overall := fun key => credit length .e2t key effect

theorem perform_listed (ranName : List Char) (length : Nat) (metrics : Metrics) (effect : Effect)
    (listed : Listed effect) :
    perform ranName length metrics effect =
      some (post metrics (effectPosting ranName length effect)) := by
  cases effect with
  | increment scope direction counter procedure =>
      cases scope with
      | peer =>
          simp only [perform, if_pos ((table_peer ranName _ counter _).mpr listed), post,
            effectPosting, credit]
          congr 2
          · congr 1
            funext key
            by_cases same : (direction, counter, procedure) = key
            · subst same
              simp
            · simp [same, Ne.symm same]
      | e2t =>
          simp only [perform, if_pos ((table_e2t ranName _ counter _).mpr listed), post,
            effectPosting, credit]
          congr 2
          · simp
          · funext key
            by_cases same : (direction, counter, procedure) = key
            · subst same
              simp
            · simp [same, Ne.symm same]
  | buildPrometheusList => exact congrArg some (post_nothing metrics ranName).symm
  | sendRmrMessage mtype subId => exact congrArg some (post_nothing metrics ranName).symm
  | sendSctpMsg => exact congrArg some (post_nothing metrics ranName).symm

theorem perform_unlisted (ranName : List Char) (length : Nat) (metrics : Metrics)
    (effect : Effect) (unlisted : ¬ Listed effect) :
    perform ranName length metrics effect = none := by
  cases effect with
  | increment scope direction counter procedure =>
      cases scope with
      | peer => exact if_neg fun isSome => unlisted ((table_peer ranName _ counter _).mp isSome)
      | e2t => exact if_neg fun isSome => unlisted ((table_e2t ranName _ counter _).mp isSome)
  | buildPrometheusList => exact absurd trivial unlisted
  | sendRmrMessage mtype subId => exact absurd trivial unlisted
  | sendSctpMsg => exact absurd trivial unlisted

theorem run_effects (ranName : List Char) (length : Nat) (effects : List Effect)
    (metrics : Metrics) :
    Runs.run post metrics (effects.map (effectPosting ranName length)) =
      post metrics
        { account := ranName
          own := gain length .peer effects
          overall := gain length .e2t effects } := by
  induction effects generalizing metrics with
  | nil => exact (post_nothing metrics ranName).symm
  | cons effect effects ih =>
      rw [List.map_cons, Runs.run_cons, ih, effectPosting, post_again]
      rfl

def Complete (traffic : Traffic) : Prop :=
  ∀ effect ∈ traffic.effects, Listed effect

theorem step_complete (metrics : Metrics) (traffic : Traffic) (complete : Complete traffic) :
    step metrics traffic = some (post metrics traffic.posting) := by
  rw [step, Runs.foldlM_of_goes_on (perform_listed traffic.ranName traffic.length) metrics
    traffic.effects complete, Traffic.posting, ← run_effects]
  simp only [Runs.run, List.foldl_map]

theorem step_incomplete (metrics : Metrics) (traffic : Traffic)
    (incomplete : ¬ Complete traffic) : step metrics traffic = none := by
  rw [Complete] at incomplete
  push Not at incomplete
  exact Runs.foldlM_of_fault (perform_listed traffic.ranName traffic.length)
    (perform_unlisted traffic.ranName traffic.length) metrics traffic.effects incomplete

theorem run_complete (metrics : Metrics) (run : List Traffic)
    (complete : ∀ traffic ∈ run, Complete traffic) :
    run.foldlM step metrics = some (Runs.run post metrics (run.map Traffic.posting)) := by
  rw [Runs.foldlM_of_goes_on step_complete metrics run complete]
  simp only [Runs.run, List.foldl_map]

theorem run_incomplete (metrics : Metrics) (run : List Traffic)
    (incomplete : ∃ traffic ∈ run, ¬ Complete traffic) : run.foldlM step metrics = none :=
  Runs.foldlM_of_fault step_complete step_incomplete metrics run incomplete

/-- The instance has no counters for the outcome of a Reset. -/
def Uncreated : Traffic → Prop
  | .received _ pdu _ _ _ => isResetOutcome pdu = true
  | .sent _ _ _ _ => False

def ready : Metered where
  state := { Termination.initial with
    peers := fun _ => some
      { hostName := [], portNumber := [], enodbName := [], isConnected := false } }
  counters := fun _ => buildPrometheusList [] CounterTable.empty
  e2tCounters := buildE2TPrometheusCounters CounterTable.empty
  established := fun _ => true

theorem ready_sound : ready.Sound where
  peer := by simp [ready, buildPrometheusList, fill_isSome, CounterTable.empty]
  e2t := by simp [ready, buildE2TPrometheusCounters, fill_isSome, CounterTable.empty]

theorem ready_ready (peer : PeerId) : ready.Ready peer := ⟨rfl, rfl⟩

theorem listed_iff (peer : PeerId) (effect : Effect) :
    Listed effect ↔ ready.Created peer effect := by
  cases effect with
  | increment scope direction counter procedure =>
      cases scope with
      | peer =>
          simp only [Listed, Metered.Created, ready_sound.peer]
          simp [ready]
      | e2t => simp [Listed, Metered.Created, ready_sound.e2t]
  | buildPrometheusList => exact Iff.rfl
  | sendRmrMessage mtype subId => exact Iff.rfl
  | sendSctpMsg => exact Iff.rfl

theorem listed_setup (collected : Int) (converted : Bool) (ies : List SetupIe) :
    ∀ effect ∈ asnInitiatingRequest collected converted (.E2setup ies), Listed effect := by
  rw [asnInitiatingRequest]
  split
  · simp
  · rw [List.cons_append, List.forall_mem_cons]
    refine ⟨trivial, ?_⟩
    simp only [listed_iff 0]
    rw [ready_sound.created_count 0 _ _ (by cases converted <;> simp [Metered.Uncounted])]
    exact ⟨ready_ready 0, by decide, by decide⟩

theorem complete_iff (traffic : Traffic) : Complete traffic ↔ ¬ Uncreated traffic := by
  cases traffic with
  | received ranName pdu collected converted asnLength =>
      simp only [Complete, Traffic.effects, Uncreated]
      cases noSetup : Metered.isSetup pdu with
      | false =>
          simp only [listed_iff 0]
          rw [ready_sound.created_pdu 0 collected converted noSetup]
          simp [ready_ready 0]
      | true =>
          cases pdu with
          | initiatingMessage message =>
              cases message with
              | E2setup ies =>
                  exact iff_of_true (listed_setup collected converted ies) nofun
              | _ => cases noSetup
          | successfulOutcome message => cases noSetup
          | unsuccessfulOutcome message => cases noSetup
  | sent ranName mtype converted len =>
      refine iff_of_true ?_ not_false
      simp only [Complete, Traffic.effects, listed_iff 0]
      exact (ready_sound.created_rmr 0 converted mtype).mpr fun _ => ready_ready 0

/-- A message that is counted for the instance under another direction than for the RAN. -/
def Misdirected : Traffic → Prop
  | .sent _ .RIC_ERROR_INDICATION _ _ => True
  | .sent _ .RIC_E2_RESET_REQ converted _ => converted = true
  | _ => False

theorem gain_append (length : Nat) (scope : CounterScope) (first second : List Effect)
    (key : CounterKey) :
    gain length scope (first ++ second) key =
      gain length scope first key + gain length scope second key := by
  simp [gain]

theorem gain_uncounted {effects : List Effect} (uncounted : Metered.Uncounted effects)
    (length : Nat) (scope : CounterScope) (key : CounterKey) :
    gain length scope effects key = 0 := by
  rw [gain, List.sum_eq_zero]
  intro added member
  have ⟨effect, inside, is⟩ := List.mem_map.mp member
  have none := uncounted effect inside
  cases effect with
  | increment other direction counter procedure => exact none.elim
  | buildPrometheusList => exact is.symm
  | sendRmrMessage mtype subId => exact is.symm
  | sendSctpMsg => exact is.symm

/-- As much is added for the instance as for the RAN. -/
def Balanced (effects : List Effect) : Prop :=
  ∀ length key, gain length .peer effects key = gain length .e2t effects key

theorem Balanced.append {first second : List Effect} (balanced : Balanced first)
    (later : Balanced second) : Balanced (first ++ second) := by
  intro length key
  rw [gain_append, gain_append, balanced, later]

theorem balanced_uncounted {effects : List Effect} (uncounted : Metered.Uncounted effects) :
    Balanced effects := by
  intro length key
  rw [gain_uncounted uncounted, gain_uncounted uncounted]

theorem balanced_count (direction : Direction) (procedure : ProcedureCode) :
    Balanced (count direction procedure) := by
  intro length key
  simp [gain, count, increments, credit]

theorem balanced_request (direction : Direction) (procedure : ProcedureCode) (mtype : RmrType)
    (ies : List RequestIe) : Balanced (requestLoop direction procedure mtype ies) := by
  induction ies with
  | nil =>
      intro length key
      rfl
  | cons ie ies ih =>
      cases ie with
      | ricRequestID ricInstanceID =>
          exact (balanced_count direction procedure).append
            (balanced_uncounted (by simp [Metered.Uncounted]))
      | illegal => exact ih
      | other => exact ih

theorem balanced_then (direction : Direction) (procedure : ProcedureCode) {rest : List Effect}
    (uncounted : Metered.Uncounted rest) : Balanced (count direction procedure ++ rest) :=
  (balanced_count direction procedure).append (balanced_uncounted uncounted)

theorem balanced_pdu (pdu : E2apPdu) (collected : Int) (converted : Bool) :
    Balanced (receiveDataFromSctp collected converted pdu) := by
  have nothing : Balanced [] := balanced_uncounted (by simp [Metered.Uncounted])
  cases pdu with
  | initiatingMessage message =>
      cases message with
      | E2setup ies =>
          simp only [receiveDataFromSctp, asnInitiatingRequest]
          split
          · exact nothing
          · have built : Balanced [.buildPrometheusList] :=
              balanced_uncounted (by simp [Metered.Uncounted])
            exact built.append
              (balanced_then _ _ (by cases converted <;> simp [Metered.Uncounted]))
      | RICserviceUpdate =>
          exact balanced_then _ _ (by cases converted <;> simp [Metered.Uncounted])
      | ErrorIndication =>
          exact balanced_then _ _ (by simp [Metered.Uncounted, sendRequestToXapp])
      | Reset =>
          exact balanced_then _ _
            (by cases converted <;> simp [Metered.Uncounted, sendRequestToXapp])
      | RICindication ies => exact balanced_request _ _ _ ies
      | other procedureCode => exact nothing
  | successfulOutcome message =>
      cases message with
      | Reset =>
          exact balanced_then _ _
            (by cases converted <;> simp [Metered.Uncounted, sendRequestToXapp])
      | RICcontrol ies => exact balanced_request _ _ _ ies
      | RICsubscription =>
          exact balanced_then _ _ (by simp [Metered.Uncounted, sendRequestToXapp])
      | RICsubscriptionDelete =>
          exact balanced_then _ _ (by simp [Metered.Uncounted, sendRequestToXapp])
      | other procedureCode => exact nothing
  | unsuccessfulOutcome message =>
      cases message with
      | RICcontrol ies => exact balanced_request _ _ _ ies
      | RICsubscription =>
          exact balanced_then _ _ (by simp [Metered.Uncounted, sendRequestToXapp])
      | RICsubscriptionDelete =>
          exact balanced_then _ _ (by simp [Metered.Uncounted, sendRequestToXapp])
      | other procedureCode => exact nothing

theorem balanced_forward (direction : Direction) (procedure : ProcedureCode) :
    Balanced (count direction procedure ++ [.sendSctpMsg]) :=
  balanced_then _ _ (by simp [Metered.Uncounted])

theorem balanced_rmr (ranName : List Char) (mtype : RmrType) (converted : Bool) (len : Nat)
    (directed : ¬ Misdirected (.sent ranName mtype converted len)) :
    Balanced (receiveXappMessages converted mtype) := by
  have nothing : Balanced [] := balanced_uncounted (by simp [Metered.Uncounted])
  have afterConversion : ∀ direction procedure,
      Balanced (if converted then count direction procedure ++ [.sendSctpMsg] else []) := by
    intro direction procedure
    cases converted with
    | false => exact nothing
    | true => exact balanced_forward direction procedure
  cases mtype with
  | RIC_ERROR_INDICATION => exact absurd trivial directed
  | RIC_E2_RESET_REQ =>
      cases converted with
      | false => exact nothing
      | true => exact absurd rfl directed
  | RIC_SUB_REQ => exact balanced_forward _ _
  | RIC_SUB_DEL_REQ => exact balanced_forward _ _
  | RIC_CONTROL_REQ => exact balanced_forward _ _
  | RIC_E2_SETUP_RESP => exact afterConversion _ _
  | RIC_E2_SETUP_FAILURE => exact afterConversion _ _
  | RIC_SERVICE_QUERY => exact afterConversion _ _
  | RIC_SERVICE_UPDATE_ACK => exact afterConversion _ _
  | RIC_SERVICE_UPDATE_FAILURE => exact afterConversion _ _
  | RIC_E2_RESET_RESP => exact afterConversion _ _
  | _ => exact nothing

theorem balanced_traffic (traffic : Traffic) (directed : ¬ Misdirected traffic) :
    Balanced traffic.effects := by
  cases traffic with
  | received ranName pdu collected converted asnLength =>
      exact balanced_pdu pdu collected converted
  | sent ranName mtype converted len => exact balanced_rmr ranName mtype converted len directed

/-- A misdirected message is counted for the RAN as outgoing, and for the instance it is not. -/
theorem misdirected_gains (traffic : Traffic) (misdirected : Misdirected traffic) :
    (∀ procedure, gain traffic.length .e2t traffic.effects
      (.OUT_INITI, .MSG_COUNTER, procedure) = 0) ∧
    ∃ procedure, gain traffic.length .peer traffic.effects
      (.OUT_INITI, .MSG_COUNTER, procedure) = 1 := by
  cases traffic with
  | received ranName pdu collected converted asnLength => exact misdirected.elim
  | sent ranName mtype converted len =>
      cases mtype with
      | RIC_ERROR_INDICATION =>
          constructor
          · intro procedure
            simp [Traffic.effects, receiveXappMessages, gain, increments, credit]
          · exact ⟨.ErrorIndication, by simp [Traffic.effects, receiveXappMessages, gain,
              increments, credit, amount]⟩
      | RIC_E2_RESET_REQ =>
          have isConverted : converted = true := misdirected
          constructor
          · intro procedure
            simp [isConverted, Traffic.effects, receiveXappMessages, gain, increments, credit]
          · exact ⟨.Reset, by simp [isConverted, Traffic.effects, receiveXappMessages, gain,
              increments, credit, amount]⟩
      | _ => exact misdirected.elim

theorem misdirected_short (traffic : Traffic) (misdirected : Misdirected traffic) :
    ∃ procedure, gain traffic.length .e2t traffic.effects (.OUT_INITI, .MSG_COUNTER, procedure) <
      gain traffic.length .peer traffic.effects (.OUT_INITI, .MSG_COUNTER, procedure) := by
  have ⟨absent, procedure, counted⟩ := misdirected_gains traffic misdirected
  refine ⟨procedure, ?_⟩
  rw [absent, counted]
  exact Nat.zero_lt_one

theorem outgoing_atMost (traffic : Traffic) (procedure : ProcedureCode) :
    gain traffic.length .e2t traffic.effects (.OUT_INITI, .MSG_COUNTER, procedure) ≤
      gain traffic.length .peer traffic.effects (.OUT_INITI, .MSG_COUNTER, procedure) := by
  by_cases misdirected : Misdirected traffic
  · rw [(misdirected_gains traffic misdirected).1]
    exact Nat.zero_le _
  · exact (balanced_traffic traffic misdirected _ _).ge

def rans (run : List Traffic) : Finset (List Char) :=
  (run.map Traffic.ranName).toFinset

/-- Each counter of the instance is the sum of those of the RANs, over a run with these. -/
def SumsAgree (run : List Traffic) (metrics : Metrics) : Prop :=
  Agree (rans run) metrics

theorem postings_within (run first : List Traffic) (within : first <+: run) :
    ∀ posting ∈ first.map Traffic.posting, posting.account ∈ rans run := by
  intro posting member
  have ⟨traffic, inside, is⟩ := List.mem_map.mp member
  rw [← is]
  exact List.mem_toFinset.mpr (List.mem_map.mpr ⟨traffic, within.subset inside, rfl⟩)

/-- A run comes to its end, and in every state the instance counts what the RANs count, just when
no message of it is misdirected and none meets a counter that was not created. -/
theorem sums_agree_iff (run : List Traffic) :
    (∀ first, first <+: run →
        ∃ metrics, first.foldlM step empty = some metrics ∧ SumsAgree run metrics) ↔
      ∀ traffic ∈ run, ¬ Misdirected traffic ∧ ¬ Uncreated traffic := by
  constructor
  · intro agree
    have ⟨metrics, goesOn, whole⟩ := agree run (List.prefix_refl run)
    have complete : ∀ traffic ∈ run, Complete traffic := by
      by_contra incomplete
      push Not at incomplete
      rw [run_incomplete empty run incomplete] at goesOn
      cases goesOn
    rw [run_complete empty run complete] at goesOn
    obtain rfl := Option.some.inj goesOn
    intro traffic member
    refine ⟨fun misdirected => ?_, (complete_iff traffic).mp (complete traffic member)⟩
    have ⟨procedure, short⟩ := misdirected_short traffic misdirected
    refine not_agree_of_short _ _ (postings_within run run (List.prefix_refl run))
      (.OUT_INITI, .MSG_COUNTER, procedure) ?_ ?_ whole
    · intro posting inside
      have ⟨other, _, is⟩ := List.mem_map.mp inside
      rw [← is]
      exact outgoing_atMost other procedure
    · exact ⟨traffic.posting, List.mem_map.mpr ⟨traffic, member, rfl⟩, short⟩
  · intro regular first within
    have complete : ∀ traffic ∈ first, Complete traffic := fun traffic member =>
      (complete_iff traffic).mpr (regular traffic (within.subset member)).2
    refine ⟨_, run_complete empty first complete, ?_⟩
    rw [SumsAgree, agree_run_iff _ _ (postings_within run first within)]
    intro key
    refine congrArg List.sum (List.map_congr_left fun posting inside => ?_)
    have ⟨traffic, member, is⟩ := List.mem_map.mp inside
    rw [← is]
    exact (balanced_traffic traffic (regular traffic (within.subset member)).1 _ key).symm

/-- One ErrorIndication for a RAN is counted in two directions, and the outcome of a Reset ends
the run. -/
theorem error_indication_misdirected :
    (¬ ∀ run first, first <+: run →
      ∃ metrics, first.foldlM step empty = some metrics ∧ SumsAgree run metrics) ∧
    step empty (.received "gnb_310_410_123454".toList (.successfulOutcome .Reset) 0 true 10) =
      none := by
  constructor
  · intro agree
    have ⟨metrics, goesOn, sum⟩ :=
      agree [.sent "gnb_310_410_123454".toList .RIC_ERROR_INDICATION false 10] _
        (List.prefix_refl _)
    rw [run_complete empty _ (by simp [complete_iff, Uncreated])] at goesOn
    obtain rfl := Option.some.inj goesOn
    exact absurd (sum (.OUT_INITI, .MSG_COUNTER, .ErrorIndication)) (by decide)
  · exact step_incomplete empty _ fun complete => (complete_iff _).mp complete rfl

end NearRtRic.E2T.InstanceMetrics
