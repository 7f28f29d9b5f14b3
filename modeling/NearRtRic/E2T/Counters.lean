import Mathlib.Tactic
import NearRtRic.E2T.Dispatch

/-! When every counter that the E2 termination increments has been created. -/

namespace NearRtRic.E2T

/-- The labels of a Prometheus counter; a null pointer is `none`. -/
abbrev Labels := List (List Char × List Char)

abbrev CounterTable := Direction → CounterClass → ProcedureCode → Option Labels

namespace CounterTable

def empty : CounterTable := fun _ _ _ => none

def set (table : CounterTable) (direction : Direction) (counter : CounterClass)
    (procedure : ProcedureCode) (labels : Labels) : CounterTable :=
  fun d c p => if d = direction ∧ c = counter ∧ p = procedure then some labels else table d c p

def fill (labels : Direction → CounterClass → List Char → Labels) (table : CounterTable)
    (entries : List (Direction × ProcedureCode × String)) : CounterTable :=
  entries.foldl
    (fun table entry =>
      (table.set entry.1 .MSG_COUNTER entry.2.1
        (labels entry.1 .MSG_COUNTER entry.2.2.toList)).set entry.1 .BYTES_COUNTER entry.2.1
        (labels entry.1 .BYTES_COUNTER entry.2.2.toList))
    table

end CounterTable

def e2tEntries : List (Direction × ProcedureCode × String) :=
  [(.IN_INITI, .E2setup, "SetupRequest"),
    (.OUT_SUCC, .E2setup, "SetupResponse"),
    (.OUT_UN_SUCC, .E2setup, "SetupRequestFailure"),
    (.IN_INITI, .ErrorIndication, "ErrorIndication"),
    (.IN_INITI, .Reset, "ResetRequest"),
    (.OUT_SUCC, .Reset, "ResetAck"),
    (.IN_INITI, .RICserviceUpdate, "RICServiceUpdate"),
    (.OUT_SUCC, .RICserviceUpdate, "RICServiceUpdateResp"),
    (.OUT_UN_SUCC, .RICserviceUpdate, "RICServiceUpdateFailure"),
    (.OUT_INITI, .RICcontrol, "RICControl"),
    (.IN_SUCC, .RICcontrol, "RICControlAck"),
    (.IN_UN_SUCC, .RICcontrol, "RICControlFailure"),
    (.OUT_INITI, .RICsubscription, "RICSubscription"),
    (.IN_SUCC, .RICsubscription, "RICSubscriptionAck"),
    (.IN_UN_SUCC, .RICsubscription, "RICSubscriptionFailure"),
    (.OUT_INITI, .RICsubscriptionDelete, "RICSubscriptionDelete"),
    (.IN_SUCC, .RICsubscriptionDelete, "RICSubscriptionDeleteAck"),
    (.IN_UN_SUCC, .RICsubscriptionDelete, "RICSubscriptionDeleteFail"),
    (.IN_INITI, .RICindication, "RICIndication"),
    (.OUT_INITI, .RICserviceQuery, "RICServiceQuery")]

def e2tLabels (_ : Direction) (counter : CounterClass) (name : List Char) : Labels :=
  [("counter".toList, name ++ match counter with
    | .MSG_COUNTER => "Msgs".toList
    | .BYTES_COUNTER => "Bytes".toList)]

def buildE2TPrometheusCounters (e2tCounters : CounterTable) : CounterTable :=
  e2tCounters.fill e2tLabels e2tEntries

def peerEntries : List (Direction × ProcedureCode × String) :=
  [(.IN_INITI, .E2setup, "SetupRequest"),
    (.IN_INITI, .ErrorIndication, "ErrorIndication"),
    (.IN_INITI, .RICindication, "RICindication"),
    (.IN_INITI, .Reset, "ResetRequest"),
    (.IN_INITI, .RICserviceUpdate, "RICserviceUpdate"),
    (.IN_SUCC, .Reset, "ResetACK"),
    (.IN_SUCC, .RICcontrol, "RICcontrolACK"),
    (.IN_SUCC, .RICsubscription, "RICsubscriptionACK"),
    (.IN_SUCC, .RICsubscriptionDelete, "RICsubscriptionDeleteACK"),
    (.IN_UN_SUCC, .RICcontrol, "RICcontrolFailure"),
    (.IN_UN_SUCC, .RICsubscription, "RICsubscriptionFailure"),
    (.IN_UN_SUCC, .RICsubscriptionDelete, "RICsubscriptionDeleteFailure"),
    (.OUT_INITI, .ErrorIndication, "ErrorIndication"),
    (.OUT_INITI, .Reset, "ResetRequest"),
    (.OUT_INITI, .RICcontrol, "RICcontrol"),
    (.OUT_INITI, .RICserviceQuery, "RICserviceQuery"),
    (.OUT_INITI, .RICsubscription, "RICsubscription"),
    (.OUT_INITI, .RICsubscriptionDelete, "RICsubscriptionDelete"),
    (.OUT_SUCC, .E2setup, "SetupResponse"),
    (.OUT_SUCC, .Reset, "ResetACK"),
    (.OUT_SUCC, .RICserviceUpdate, "RICserviceUpdateResponse"),
    (.OUT_UN_SUCC, .E2setup, "SetupRequestFailure"),
    (.OUT_UN_SUCC, .RICserviceUpdate, "RICserviceUpdateFailure")]

def peerLabels (enodbName : List Char) (direction : Direction) (counter : CounterClass)
    (name : List Char) : Labels :=
  [(enodbName, match direction with
    | .IN_INITI | .IN_SUCC | .IN_UN_SUCC => "IN".toList
    | .OUT_INITI | .OUT_SUCC | .OUT_UN_SUCC => "OUT".toList),
    (name, match counter with
    | .MSG_COUNTER => "Messages".toList
    | .BYTES_COUNTER => "Bytes".toList)]

def buildPrometheusList (enodbName : List Char) (counters : CounterTable) : CounterTable :=
  counters.fill (peerLabels enodbName) peerEntries

/-- The termination with its counter tables. `established` remembers the connections on which
an E2setupRequest has been accepted. -/
structure Metered where
  state : Termination
  counters : PeerId → CounterTable
  e2tCounters : CounterTable
  established : PeerId → Bool

namespace Metered

def initial : Metered where
  state := Termination.initial
  counters := fun _ => CounterTable.empty
  e2tCounters := buildE2TPrometheusCounters CounterTable.empty
  established := fun _ => false

/-- One effect of a message of a peer, or for it. -/
def perform (peer : PeerId) (metered : Metered) : Effect → Metered
  | .buildPrometheusList =>
      let enodbName := ((metered.state.peers peer).map ConnectedCU.enodbName).getD []
      { metered with
        counters := Function.update metered.counters peer
          (buildPrometheusList (Buffer.string enodbName) (metered.counters peer))
        established := Function.update metered.established peer true }
  | .increment _ _ _ _ | .sendRmrMessage _ _ | .sendSctpMsg => metered

/-- The counter that an effect increments is there. The counters of a freed peer are gone. -/
def Created (peer : PeerId) (metered : Metered) : Effect → Prop
  | .increment .peer direction counter procedure =>
      (metered.state.peers peer).isSome ∧
        (metered.counters peer direction counter procedure).isSome
  | .increment .e2t direction counter procedure =>
      (metered.e2tCounters direction counter procedure).isSome
  | .buildPrometheusList | .sendRmrMessage _ _ | .sendSctpMsg => True

end Metered

inductive MessageEvent where
  | accept (peer : PeerId) (hostName portNumber : List Char)
  | disconnect (peer : PeerId)
  | epollError (peer : PeerId)
  | epollOut (peer : PeerId) (modified sent : Bool)
  | pdu (peer : PeerId) (pdu : E2apPdu) (converted : Bool)
  /-- `sent` is whether the message is sent to the RAN, where it comes to that. -/
  | rmr (meid : List Char) (mtype : RmrType) (converted sent : Bool)

namespace Metered

def collect (metered : Metered) (peer : PeerId) : E2apPdu → Int × Metered
  | .initiatingMessage (.E2setup ies) =>
      match metered.state.peers peer with
      | none => (0, metered)
      | some peerInfo =>
          let collected := collectSetupRequestData metered.state peer peerInfo ies
          (collected.1, { metered with state := collected.2 })
  | _ => (0, metered)

/-- The peer whose counters an event is about, the effects, and where they start. -/
def handling (metered : Metered) : MessageEvent → Option (PeerId × List Effect × Metered)
  | .pdu peer pdu converted =>
      match metered.state.peers peer with
      | none => none
      | some _ =>
          let collected := metered.collect peer pdu
          some (peer, receiveDataFromSctp collected.1 converted pdu, collected.2)
  | .rmr meid mtype converted _ =>
      (metered.state.sctpMap.find meid).map fun peer =>
        (peer, receiveXappMessages converted mtype, metered)
  | _ => none

/-- `calloc` clears the counters of a new connection. -/
def connect (metered : Metered) (peer : PeerId) (hostName portNumber : List Char) : Metered :=
  match metered.state.peers peer with
  | none =>
      { metered with
        state := step metered.state (.accept peer hostName portNumber)
        counters := Function.update metered.counters peer CounterTable.empty
        established := Function.update metered.established peer false }
  | some _ => metered

def step (typeNumber : RmrType → Int) (metered : Metered) (event : MessageEvent) : Metered :=
  let handled := match metered.handling event with
    | none => metered
    | some (peer, effects, start) => Runs.run (perform peer) start effects
  match event with
  | .accept peer hostName portNumber => metered.connect peer hostName portNumber
  | .disconnect peer => { metered with state := E2T.step metered.state (.disconnect peer) }
  | .epollError peer => { metered with state := E2T.step metered.state (.epollError peer) }
  | .epollOut peer modified sent =>
      { metered with state := E2T.step metered.state (.epollOut peer modified sent) }
  | .pdu _ _ _ => handled
  | .rmr meid mtype converted sent =>
      if mtype = .RIC_SCTP_CLEAR_ALL then
        { handled with state := E2T.step handled.state .sctpClearAll }
      else if .sendSctpMsg ∈ receiveXappMessages converted mtype ∧ !sent then
        { handled with
          state := E2T.step handled.state (.sendFailure meid (typeNumber mtype)) }
      else handled

def Counted (metered : Metered) (event : MessageEvent) : Prop :=
  ∀ peer effects start, metered.handling event = some (peer, effects, start) →
    Runs.Along (perform peer) (Created peer) start effects

end Metered

def namesRequest (ies : List RequestIe) : Bool :=
  ies.any fun ie => match ie with
    | .ricRequestID _ => true
    | .illegal | .other => false

/-- The PDUs beside the E2setupRequest that are counted. -/
def isCounted : E2apPdu → Bool
  | .initiatingMessage message => match message with
      | .RICserviceUpdate | .ErrorIndication | .Reset => true
      | .RICindication ies => namesRequest ies
      | .E2setup _ | .other _ => false
  | .successfulOutcome message => match message with
      | .Reset | .RICsubscription | .RICsubscriptionDelete => true
      | .RICcontrol ies => namesRequest ies
      | .other _ => false
  | .unsuccessfulOutcome message => match message with
      | .RICsubscription | .RICsubscriptionDelete => true
      | .RICcontrol ies => namesRequest ies
      | .other _ => false

def isResetOutcome : E2apPdu → Bool
  | .successfulOutcome .Reset => true
  | _ => false

/-- No outcome of a Reset, and no message of a RAN, or for one, before an E2setupRequest has
been accepted on its connection. -/
def Metered.SetUp (metered : Metered) : MessageEvent → Prop
  | .pdu peer pdu _ => (metered.state.peers peer).isSome →
      isResetOutcome pdu = false ∧ (isCounted pdu → metered.established peer)
  | .rmr meid mtype converted _ => ∀ peer, metered.state.sctpMap.find meid = some peer →
      .sendSctpMsg ∈ receiveXappMessages converted mtype →
        (metered.state.peers peer).isSome ∧ metered.established peer
  | _ => True

def hasEntry (entries : List (Direction × ProcedureCode × String)) (direction : Direction)
    (procedure : ProcedureCode) : Bool :=
  entries.any fun entry => entry.1 = direction && entry.2.1 = procedure

theorem fill_isSome (labels : Direction → CounterClass → List Char → Labels)
    (entries : List (Direction × ProcedureCode × String)) (table : CounterTable)
    (direction : Direction) (counter : CounterClass) (procedure : ProcedureCode) :
    (table.fill labels entries direction counter procedure).isSome ↔
      hasEntry entries direction procedure ∨ (table direction counter procedure).isSome := by
  induction entries generalizing table with
  | nil => simp [CounterTable.fill, hasEntry]
  | cons entry entries ih =>
      have rest := ih ((table.set entry.1 .MSG_COUNTER entry.2.1
        (labels entry.1 .MSG_COUNTER entry.2.2.toList)).set entry.1 .BYTES_COUNTER entry.2.1
        (labels entry.1 .BYTES_COUNTER entry.2.2.toList))
      rw [CounterTable.fill, List.foldl_cons]
      rw [CounterTable.fill] at rest
      rw [rest]
      by_cases same : direction = entry.1 ∧ procedure = entry.2.1
      · obtain ⟨rfl, rfl⟩ := same
        cases counter <;> simp [hasEntry, CounterTable.set]
      · have differ : ¬ (entry.1 = direction ∧ entry.2.1 = procedure) :=
          fun both => same ⟨both.1.symm, both.2.symm⟩
        have unset : ∀ (table : CounterTable) other labels,
            table.set entry.1 other entry.2.1 labels direction counter procedure =
              table direction counter procedure := by
          intro table other labels
          exact if_neg fun both => same ⟨both.1, both.2.2⟩
        simp [hasEntry, unset, differ]

namespace Metered

/-- The counters of a connection are there just when a setup was accepted on it. -/
structure Sound (metered : Metered) : Prop where
  peer : ∀ peer direction counter procedure,
    (metered.counters peer direction counter procedure).isSome ↔
      metered.established peer ∧ hasEntry peerEntries direction procedure
  e2t : ∀ direction counter procedure,
    (metered.e2tCounters direction counter procedure).isSome ↔
      hasEntry e2tEntries direction procedure

variable {metered : Metered}

theorem sound_initial : initial.Sound where
  peer := by simp [initial, CounterTable.empty]
  e2t := by
    intro direction counter procedure
    simp [initial, buildE2TPrometheusCounters, fill_isSome, CounterTable.empty]

theorem Sound.withState (sound : metered.Sound) (state : Termination) :
    Sound { metered with state := state } :=
  ⟨sound.peer, sound.e2t⟩

theorem Sound.perform (sound : metered.Sound) (peer : PeerId) (effect : Effect) :
    (metered.perform peer effect).Sound := by
  cases effect with
  | buildPrometheusList =>
      refine ⟨?_, sound.e2t⟩
      intro other direction counter procedure
      by_cases same : other = peer
      · subst same
        simp only [Metered.perform, Function.update_self, buildPrometheusList, fill_isSome,
          sound.peer, true_and]
        tauto
      · simp only [Metered.perform, Function.update_of_ne same]
        exact sound.peer other direction counter procedure
  | increment scope direction counter procedure => exact sound
  | sendRmrMessage mtype subId => exact sound
  | sendSctpMsg => exact sound

theorem Sound.performs (sound : metered.Sound) (peer : PeerId) (effects : List Effect) :
    (Runs.run (Metered.perform peer) metered effects).Sound :=
  Runs.run_invariant Sound (fun _ effect holds _ => holds.perform peer effect) metered effects
    sound (Runs.along_true metered effects)

theorem Sound.collect (sound : metered.Sound) (peer : PeerId) (pdu : E2apPdu) :
    (metered.collect peer pdu).2.Sound := by
  simp only [Metered.collect]
  split
  · split
    · exact sound
    · exact sound.withState _
  · exact sound

theorem Sound.connect (sound : metered.Sound) (peer : PeerId) (hostName portNumber : List Char) :
    (metered.connect peer hostName portNumber).Sound := by
  simp only [Metered.connect]
  split
  · refine ⟨?_, sound.e2t⟩
    intro other direction counter procedure
    by_cases same : other = peer
    · subst same
      simp [CounterTable.empty]
    · simp only [Function.update_of_ne same]
      exact sound.peer other direction counter procedure
  · exact sound

theorem Sound.handled (sound : metered.Sound) (event : MessageEvent) {peer : PeerId}
    {effects : List Effect} {start : Metered}
    (handles : metered.handling event = some (peer, effects, start)) : start.Sound := by
  cases event with
  | pdu sender pdu converted =>
      simp only [handling] at handles
      split at handles
      · cases handles
      · simp only [Option.some.injEq, Prod.mk.injEq] at handles
        rw [← handles.2.2]
        exact sound.collect sender pdu
  | rmr meid mtype converted sent =>
      obtain ⟨found, -, is⟩ := Option.map_eq_some_iff.mp handles
      simp only [Prod.mk.injEq] at is
      rw [← is.2.2]
      exact sound
  | accept peer hostName portNumber => cases handles
  | disconnect peer => cases handles
  | epollError peer => cases handles
  | epollOut peer modified sent => cases handles

theorem sound_step (typeNumber : RmrType → Int) (metered : Metered) (event : MessageEvent)
    (sound : metered.Sound) : (metered.step typeNumber event).Sound := by
  have handled : (match metered.handling event with
      | none => metered
      | some (peer, effects, start) => Runs.run (Metered.perform peer) start effects).Sound := by
    split
    · exact sound
    · next peer effects start handles => exact (sound.handled event handles).performs peer effects
  cases event with
  | accept peer hostName portNumber => exact sound.connect peer hostName portNumber
  | disconnect peer => exact sound.withState _
  | epollError peer => exact sound.withState _
  | epollOut peer modified sent => exact sound.withState _
  | pdu peer pdu converted => exact handled
  | rmr meid mtype converted sent =>
      simp only [step]
      split_ifs
      · exact handled.withState _
      · exact handled.withState _
      · exact handled

theorem along_created {peer : PeerId} {effects : List Effect}
    (steady : .buildPrometheusList ∉ effects) :
    Runs.Along (perform peer) (Created peer) metered effects ↔
      ∀ effect ∈ effects, metered.Created peer effect := by
  induction effects with
  | nil => simp
  | cons effect effects ih =>
      rw [List.mem_cons, not_or] at steady
      have unchanged : metered.perform peer effect = metered := by
        cases effect with
        | buildPrometheusList => exact absurd rfl steady.1
        | increment scope direction counter procedure => rfl
        | sendRmrMessage mtype subId => rfl
        | sendSctpMsg => rfl
      rw [Runs.along_cons, unchanged, ih steady.2, List.forall_mem_cons]

def Ready (metered : Metered) (peer : PeerId) : Prop :=
  (metered.state.peers peer).isSome ∧ metered.established peer

theorem Sound.created_peer (sound : metered.Sound) (peer : PeerId) (direction : Direction)
    (procedure : ProcedureCode) :
    (∀ effect ∈ increments .peer direction procedure, metered.Created peer effect) ↔
      metered.Ready peer ∧ hasEntry peerEntries direction procedure := by
  simp only [increments, List.forall_mem_cons, List.not_mem_nil, false_imp_iff, implies_true,
    and_true, Created, sound.peer, and_self, Ready, and_assoc]

theorem Sound.created_e2t (sound : metered.Sound) (peer : PeerId) (direction : Direction)
    (procedure : ProcedureCode) :
    (∀ effect ∈ increments .e2t direction procedure, metered.Created peer effect) ↔
      hasEntry e2tEntries direction procedure := by
  simp only [increments, List.forall_mem_cons, List.not_mem_nil, false_imp_iff, implies_true,
    and_true, Created, sound.e2t, and_self]

def Uncounted (effects : List Effect) : Prop :=
  ∀ effect ∈ effects, match effect with
    | .increment _ _ _ _ => False
    | .buildPrometheusList | .sendRmrMessage _ _ | .sendSctpMsg => True

theorem created_uncounted {effects : List Effect} (uncounted : Uncounted effects)
    (peer : PeerId) : ∀ effect ∈ effects, metered.Created peer effect := by
  intro effect mem
  have none := uncounted effect mem
  cases effect with
  | increment scope direction counter procedure => exact none.elim
  | buildPrometheusList => trivial
  | sendRmrMessage mtype subId => trivial
  | sendSctpMsg => trivial

theorem Sound.created_count (sound : metered.Sound) (peer : PeerId) (direction : Direction)
    (procedure : ProcedureCode) {rest : List Effect} (uncounted : Uncounted rest) :
    (∀ effect ∈ count direction procedure ++ rest, metered.Created peer effect) ↔
      metered.Ready peer ∧ hasEntry peerEntries direction procedure ∧
        hasEntry e2tEntries direction procedure := by
  rw [count, List.forall_mem_append, List.forall_mem_append, sound.created_peer,
    sound.created_e2t, and_assoc, and_assoc]
  exact ⟨fun all => ⟨all.1, all.2.1, all.2.2.1⟩,
    fun all => ⟨all.1, all.2.1, all.2.2, created_uncounted uncounted peer⟩⟩

theorem Sound.created_requests (sound : metered.Sound) (peer : PeerId) {direction : Direction}
    {procedure : ProcedureCode} (mtype : RmrType) (ies : List RequestIe)
    (listed : hasEntry peerEntries direction procedure ∧ hasEntry e2tEntries direction procedure) :
    (∀ effect ∈ requestLoop direction procedure mtype ies, metered.Created peer effect) ↔
      (namesRequest ies → metered.Ready peer) := by
  induction ies with
  | nil => simp [requestLoop, namesRequest]
  | cons ie ies ih =>
      cases ie with
      | ricRequestID ricInstanceID =>
          rw [requestLoop, sound.created_count peer direction procedure (by simp [Uncounted])]
          simp [namesRequest, listed]
      | illegal => simpa [requestLoop, namesRequest] using ih
      | other => simpa [requestLoop, namesRequest] using ih

def isSetup : E2apPdu → Bool
  | .initiatingMessage (.E2setup _) => true
  | _ => false

/-- Both tables list what the PDUs count, but for the outcome of a Reset. -/
theorem Sound.created_pdu (sound : metered.Sound) (peer : PeerId) (collected : Int)
    (converted : Bool) {pdu : E2apPdu} (noSetup : isSetup pdu = false) :
    (∀ effect ∈ receiveDataFromSctp collected converted pdu, metered.Created peer effect) ↔
      isResetOutcome pdu = false ∧ (isCounted pdu → metered.Ready peer) := by
  have counted : ∀ direction procedure rest, Uncounted rest →
      hasEntry peerEntries direction procedure ∧ hasEntry e2tEntries direction procedure →
      ((∀ effect ∈ count direction procedure ++ rest, metered.Created peer effect) ↔
        false = false ∧ (true = true → metered.Ready peer)) := by
    intro direction procedure rest uncounted listed
    rw [sound.created_count peer direction procedure uncounted]
    simp [listed]
  have looped : ∀ direction procedure mtype ies,
      hasEntry peerEntries direction procedure ∧ hasEntry e2tEntries direction procedure →
      ((∀ effect ∈ requestLoop direction procedure mtype ies, metered.Created peer effect) ↔
        false = false ∧ (namesRequest ies = true → metered.Ready peer)) := by
    intro direction procedure mtype ies listed
    rw [sound.created_requests peer mtype ies listed]
    simp
  have nothing : (∀ effect ∈ ([] : List Effect), metered.Created peer effect) ↔
      false = false ∧ (false = true → metered.Ready peer) := by simp
  cases pdu with
  | initiatingMessage message =>
      cases message with
      | E2setup ies => cases noSetup
      | RICserviceUpdate =>
          exact counted _ _ _ (by cases converted <;> simp [Uncounted]) (by decide)
      | ErrorIndication =>
          exact counted _ _ _ (by simp [Uncounted, sendRequestToXapp]) (by decide)
      | Reset =>
          exact counted _ _ _ (by cases converted <;> simp [Uncounted, sendRequestToXapp])
            (by decide)
      | RICindication ies => exact looped _ _ _ ies (by decide)
      | other procedureCode => exact nothing
  | successfulOutcome message =>
      cases message with
      | Reset =>
          -- the instance's table has no entry for the outcome of a Reset
          rw [receiveDataFromSctp, asnSuccessfulMsg, sound.created_count peer _ _
            (by cases converted <;> simp [Uncounted, sendRequestToXapp])]
          simp [isResetOutcome, hasEntry, e2tEntries]
      | RICcontrol ies => exact looped _ _ _ ies (by decide)
      | RICsubscription =>
          exact counted _ _ _ (by simp [Uncounted, sendRequestToXapp]) (by decide)
      | RICsubscriptionDelete =>
          exact counted _ _ _ (by simp [Uncounted, sendRequestToXapp]) (by decide)
      | other procedureCode => exact nothing
  | unsuccessfulOutcome message =>
      cases message with
      | RICcontrol ies => exact looped _ _ _ ies (by decide)
      | RICsubscription =>
          exact counted _ _ _ (by simp [Uncounted, sendRequestToXapp]) (by decide)
      | RICsubscriptionDelete =>
          exact counted _ _ _ (by simp [Uncounted, sendRequestToXapp]) (by decide)
      | other procedureCode => exact nothing

theorem Sound.created_forward (sound : metered.Sound) (peer : PeerId)
    {outward instanceWide : Direction} {procedure : ProcedureCode}
    (listed : hasEntry peerEntries outward procedure ∧
      hasEntry e2tEntries instanceWide procedure) :
    (∀ effect ∈ increments .peer outward procedure ++ increments .e2t instanceWide procedure ++
        [.sendSctpMsg], metered.Created peer effect) ↔ metered.Ready peer := by
  rw [List.forall_mem_append, List.forall_mem_append, sound.created_peer, sound.created_e2t]
  simp [listed, Created]

/-- Both tables list what is counted of the messages that are sent on to a RAN. -/
theorem Sound.created_rmr (sound : metered.Sound) (peer : PeerId) (converted : Bool)
    (mtype : RmrType) :
    (∀ effect ∈ receiveXappMessages converted mtype, metered.Created peer effect) ↔
      (.sendSctpMsg ∈ receiveXappMessages converted mtype → metered.Ready peer) := by
  have forwarded : ∀ outward instanceWide procedure,
      hasEntry peerEntries outward procedure ∧ hasEntry e2tEntries instanceWide procedure →
      ((∀ effect ∈ increments .peer outward procedure ++
          increments .e2t instanceWide procedure ++ [.sendSctpMsg],
          metered.Created peer effect) ↔
        (.sendSctpMsg ∈ increments .peer outward procedure ++
          increments .e2t instanceWide procedure ++ [.sendSctpMsg] → metered.Ready peer)) := by
    intro outward instanceWide procedure listed
    rw [sound.created_forward peer listed]
    simp
  have dropped : (∀ effect ∈ ([] : List Effect), metered.Created peer effect) ↔
      (.sendSctpMsg ∈ ([] : List Effect) → metered.Ready peer) := by simp
  have afterConversion : ∀ outward instanceWide procedure,
      hasEntry peerEntries outward procedure ∧ hasEntry e2tEntries instanceWide procedure →
      ∀ effects, effects = (if converted then increments .peer outward procedure ++
          increments .e2t instanceWide procedure ++ [.sendSctpMsg] else []) →
      ((∀ effect ∈ effects, metered.Created peer effect) ↔
        (.sendSctpMsg ∈ effects → metered.Ready peer)) := by
    rintro outward instanceWide procedure listed effects rfl
    cases converted with
    | false => exact dropped
    | true => exact forwarded outward instanceWide procedure listed
  cases mtype with
  | RIC_ERROR_INDICATION => exact forwarded _ _ _ (by decide)
  | RIC_SUB_REQ => exact forwarded _ _ _ (by decide)
  | RIC_SUB_DEL_REQ => exact forwarded _ _ _ (by decide)
  | RIC_CONTROL_REQ => exact forwarded _ _ _ (by decide)
  | RIC_E2_SETUP_RESP => exact afterConversion .OUT_SUCC .OUT_SUCC .E2setup (by decide) _ rfl
  | RIC_E2_SETUP_FAILURE =>
      exact afterConversion .OUT_UN_SUCC .OUT_UN_SUCC .E2setup (by decide) _ rfl
  | RIC_SERVICE_QUERY =>
      exact afterConversion .OUT_INITI .OUT_INITI .RICserviceQuery (by decide) _ rfl
  | RIC_SERVICE_UPDATE_ACK =>
      exact afterConversion .OUT_SUCC .OUT_SUCC .RICserviceUpdate (by decide) _ rfl
  | RIC_SERVICE_UPDATE_FAILURE =>
      exact afterConversion .OUT_UN_SUCC .OUT_UN_SUCC .RICserviceUpdate (by decide) _ rfl
  | RIC_E2_RESET_REQ => exact afterConversion .OUT_INITI .IN_INITI .Reset (by decide) _ rfl
  | RIC_E2_RESET_RESP => exact afterConversion .OUT_SUCC .OUT_SUCC .Reset (by decide) _ rfl
  | _ => exact dropped

theorem not_build_pdu (collected : Int) (converted : Bool) {pdu : E2apPdu}
    (noSetup : isSetup pdu = false) :
    .buildPrometheusList ∉ receiveDataFromSctp collected converted pdu := by
  have requests : ∀ direction procedure mtype ies,
      .buildPrometheusList ∉ requestLoop direction procedure mtype ies := by
    intro direction procedure mtype ies
    induction ies with
    | nil => simp [requestLoop]
    | cons ie ies ih =>
        cases ie with
        | ricRequestID ricInstanceID => simp [requestLoop, count, increments]
        | illegal => exact ih
        | other => exact ih
  cases pdu with
  | initiatingMessage message =>
      cases message with
      | E2setup ies => cases noSetup
      | RICindication ies => exact requests _ _ _ ies
      | _ => cases converted <;>
          simp [receiveDataFromSctp, asnInitiatingRequest, count, increments, sendRequestToXapp]
  | successfulOutcome message =>
      cases message with
      | RICcontrol ies => exact requests _ _ _ ies
      | _ => cases converted <;>
          simp [receiveDataFromSctp, asnSuccessfulMsg, count, increments, sendRequestToXapp]
  | unsuccessfulOutcome message =>
      cases message with
      | RICcontrol ies => exact requests _ _ _ ies
      | _ => simp [receiveDataFromSctp, asnUnSuccsesfulMsg, count, increments, sendRequestToXapp]

theorem not_build_rmr (converted : Bool) (mtype : RmrType) :
    .buildPrometheusList ∉ receiveXappMessages converted mtype := by
  cases mtype <;> cases converted <;> simp [receiveXappMessages, count, increments]

theorem Sound.created_setup (sound : metered.Sound) {peer : PeerId}
    (isOpen : (metered.state.peers peer).isSome) (collected : Int) (converted : Bool)
    (ies : List SetupIe) :
    Runs.Along (Metered.perform peer) (Created peer) metered
      (asnInitiatingRequest collected converted (.E2setup ies)) := by
  rw [asnInitiatingRequest]
  split
  · trivial
  · rw [List.cons_append, Runs.along_cons]
    refine ⟨trivial, ?_⟩
    have built := sound.perform peer .buildPrometheusList
    have steady : .buildPrometheusList ∉ count .IN_INITI .E2setup ++
        if converted then [.sendRmrMessage .RIC_E2_SETUP_REQ none] else [] := by
      cases converted <;> simp [count, increments]
    rw [along_created steady, built.created_count peer _ _
      (by cases converted <;> simp [Uncounted])]
    exact ⟨⟨isOpen, by simp [Metered.perform]⟩, by decide, by decide⟩

theorem collect_of_not_setup (metered : Metered) (peer : PeerId) {pdu : E2apPdu}
    (noSetup : isSetup pdu = false) : metered.collect peer pdu = (0, metered) := by
  cases pdu with
  | initiatingMessage message => cases message <;> first | rfl | cases noSetup
  | successfulOutcome message => rfl
  | unsuccessfulOutcome message => rfl

theorem Sound.counted_iff (sound : metered.Sound) (event : MessageEvent) :
    metered.Counted event ↔ metered.SetUp event := by
  cases event with
  | pdu peer pdu converted =>
      cases is : metered.state.peers peer with
      | none => simp [Counted, handling, SetUp, is]
      | some peerInfo =>
          have single : metered.Counted (.pdu peer pdu converted) ↔
              Runs.Along (Metered.perform peer) (Created peer) (metered.collect peer pdu).2
                (receiveDataFromSctp (metered.collect peer pdu).1 converted pdu) := by
            simp [Counted, handling, is]
          rw [single]
          cases noSetup : isSetup pdu with
          | false =>
              rw [collect_of_not_setup metered peer noSetup,
                along_created (not_build_pdu 0 converted noSetup),
                sound.created_pdu peer 0 converted noSetup]
              simp [SetUp, Ready, is]
          | true =>
              obtain ⟨ies, rfl⟩ : ∃ ies, pdu = .initiatingMessage (.E2setup ies) := by
                cases pdu with
                | initiatingMessage message =>
                    cases message <;> first | exact ⟨_, rfl⟩ | cases noSetup
                | successfulOutcome message => cases noSetup
                | unsuccessfulOutcome message => cases noSetup
              have isOpen : ((metered.collect peer
                  (.initiatingMessage (.E2setup ies))).2.state.peers peer).isSome := by
                simp [Metered.collect, is, collectSetupRequestData]
              have counted := (sound.collect peer (.initiatingMessage (.E2setup ies))).created_setup
                isOpen (metered.collect peer (.initiatingMessage (.E2setup ies))).1 converted ies
              exact ⟨fun _ _ => ⟨rfl, by simp [isCounted]⟩, fun _ => counted⟩
  | rmr meid mtype converted sent =>
      cases found : metered.state.sctpMap.find meid with
      | none => simp [Counted, handling, SetUp, found]
      | some peer =>
          have single : metered.Counted (.rmr meid mtype converted sent) ↔
              Runs.Along (Metered.perform peer) (Created peer) metered
                (receiveXappMessages converted mtype) := by
            simp [Counted, handling, found]
          rw [single, along_created (not_build_rmr converted mtype),
            sound.created_rmr peer converted mtype]
          simp [SetUp, Ready, found]
  | accept peer hostName portNumber => simp [Counted, handling, SetUp]
  | disconnect peer => simp [Counted, handling, SetUp]
  | epollError peer => simp [Counted, handling, SetUp]
  | epollOut peer modified sent => simp [Counted, handling, SetUp]

/-- No null counter is met in a run just when every connection is set up before it is used and
no Reset of the RIC is answered. -/
theorem run_counted_iff (typeNumber : RmrType → Int) (events : List MessageEvent) :
    Runs.Along (step typeNumber) Counted initial events ↔
      Runs.Along (step typeNumber) SetUp initial events := by
  constructor
  · exact Runs.along_strengthen Sound
      (fun metered event sound _ => sound_step typeNumber metered event sound)
      (fun _ event sound counted => (sound.counted_iff event).mp counted)
      initial events sound_initial
  · exact Runs.along_strengthen Sound
      (fun metered event sound _ => sound_step typeNumber metered event sound)
      (fun _ event sound setUp => (sound.counted_iff event).mpr setUp)
      initial events sound_initial

def errorFirst : List MessageEvent :=
  [.accept 1 [] [], .pdu 1 (.initiatingMessage .ErrorIndication) true]

def resetAnswered : List MessageEvent :=
  [.accept 1 [] [],
    .pdu 1 (.initiatingMessage (.E2setup [.globalE2nodeId shortGnb])) true,
    .pdu 1 (.successfulOutcome .Reset) true]

theorem run_not_counted :
    ¬ Runs.Along (step fun _ => 0) Counted initial errorFirst ∧
      ¬ Runs.Along (step fun _ => 0) Counted initial resetAnswered := by
  have next := sound_step (fun _ => 0) initial (.accept 1 [] []) sound_initial
  constructor
  · rintro ⟨-, counted, -⟩
    have isOpen : (((initial.step (fun _ => 0) (.accept 1 [] [])).state.peers 1).isSome) = true := by
      decide
    have setUp := (next.counted_iff _).mp counted isOpen
    exact absurd (setUp.2 rfl) (by decide)
  · rintro ⟨-, -, counted, -⟩
    have setUp := ((sound_step _ _ _ next).counted_iff _).mp counted (by decide)
    exact absurd setUp.1 (by decide)

end Metered

end NearRtRic.E2T
