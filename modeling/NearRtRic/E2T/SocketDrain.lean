import Mathlib.Tactic
import NearRtRic.E2T.Dispatch
import NearRtRic.Library.EdgeTrigger

/-! The read loop of a RAN's socket, which is registered for edges: what is not read in the
turn of an edge waits for the next one. -/

namespace NearRtRic.E2T.SocketDrain

/-- What `read` finds on the socket. After the last one it is `EAGAIN`. -/
inductive Read
  | message (octets : List UInt8)
  /-- `EINTR` -/
  | interrupted
  /-- A length of zero: the RAN closed the connection. -/
  | endOfFile
  /-- Any other `errno`. -/
  | failed
  deriving DecidableEq

def queued (reads : List Read) : List (List UInt8) :=
  reads.filterMap fun found => match found with
    | .message octets => some octets
    | _ => none

inductive HandlerCall
  | asnInitiatingRequest (message : InitiatingMessage)
  | asnSuccessfulMsg (message : SuccessfulOutcome)
  | asnUnSuccsesfulMsg (message : UnsuccessfulOutcome)

def handlerOf : E2apPdu → HandlerCall
  | .initiatingMessage message => .asnInitiatingRequest message
  | .successfulOutcome message => .asnSuccessfulMsg message
  | .unsuccessfulOutcome message => .asnUnSuccsesfulMsg message

def HandlerCall.effects (collected : Int) (converted : Bool) : HandlerCall → List Effect
  | .asnInitiatingRequest message => E2T.asnInitiatingRequest collected converted message
  | .asnSuccessfulMsg message => E2T.asnSuccessfulMsg converted message
  | .asnUnSuccsesfulMsg message => E2T.asnUnSuccsesfulMsg message

theorem handlerOf_effects (collected : Int) (converted : Bool) (pdu : E2apPdu) :
    (handlerOf pdu).effects collected converted =
      E2T.receiveDataFromSctp collected converted pdu := by
  cases pdu <;> rfl

/-- What a call leaves: `done` is set when the connection is closed and its peer removed,
`unread` is what the socket still holds. -/
structure Drained where
  dispatched : List HandlerCall
  numOfMessages : Nat
  done : Bool
  unread : List Read

def Drained.handle (call : HandlerCall) (later : Drained) : Drained :=
  { later with
    dispatched := call :: later.dispatched
    numOfMessages := later.numOfMessages + 1 }

section Decoding

-- `none` unless the code of the decoding is `RC_OK`
variable (asn_decode : List UInt8 → Option E2apPdu)

def receiveDataFromSctp : List Read → Drained
  | [] => { dispatched := [], numOfMessages := 0, done := false, unread := [] }
  | .interrupted :: reads => receiveDataFromSctp reads
  | .failed :: reads => { dispatched := [], numOfMessages := 0, done := true, unread := reads }
  | .endOfFile :: reads =>
      { dispatched := [], numOfMessages := 0, done := true, unread := reads }
  | .message octets :: reads =>
      match asn_decode octets with
      | none =>
          -- the loop is left, as for `EAGAIN`
          { dispatched := [], numOfMessages := 0, done := false, unread := reads }
      | some pdu => (receiveDataFromSctp reads).handle (handlerOf pdu)

/-- The handler calls for a sequence of messages when each is handled once, in order. -/
def handlerCalls (messages : List (List UInt8)) : List HandlerCall :=
  (messages.filterMap asn_decode).map handlerOf

/-- Unless the connection was closed, the socket is empty and every message was handled. -/
def Drains (reads : List Read) : Prop :=
  let drained := receiveDataFromSctp asn_decode reads
  drained.done = false →
    queued drained.unread = [] ∧
      drained.dispatched = handlerCalls asn_decode (queued reads)

def Continues : Read → Prop
  | .message octets => (asn_decode octets).isSome
  | .interrupted => True
  | .endOfFile | .failed => False

/-- The first message that cannot be decoded, if the loop comes to it, is the last that is
queued. -/
def UndecodableLast (reads : List Read) : Prop :=
  ∀ before octets after, reads = before ++ .message octets :: after →
    (∀ found ∈ before, Continues asn_decode found) → asn_decode octets = none →
    queued after = []

variable {asn_decode}

@[simp] theorem queued_nil : queued [] = [] := rfl

@[simp] theorem queued_message (octets : List UInt8) (reads : List Read) :
    queued (.message octets :: reads) = octets :: queued reads := rfl

@[simp] theorem queued_interrupted (reads : List Read) :
    queued (.interrupted :: reads) = queued reads := rfl

@[simp] theorem handlerCalls_undecodable (octets : List UInt8) (messages : List (List UInt8))
    (undecodable : asn_decode octets = none) :
    handlerCalls asn_decode (octets :: messages) = handlerCalls asn_decode messages := by
  simp [handlerCalls, undecodable]

@[simp] theorem handlerCalls_decodable (octets : List UInt8) (messages : List (List UInt8))
    (pdu : E2apPdu) (decoded : asn_decode octets = some pdu) :
    handlerCalls asn_decode (octets :: messages) =
      handlerOf pdu :: handlerCalls asn_decode messages := by
  simp [handlerCalls, decoded]

theorem receiveDataFromSctp_undecodable (octets : List UInt8) (reads : List Read)
    (undecodable : asn_decode octets = none) :
    receiveDataFromSctp asn_decode (.message octets :: reads) =
      { dispatched := [], numOfMessages := 0, done := false, unread := reads } := by
  simp only [receiveDataFromSctp, undecodable]

theorem receiveDataFromSctp_decodable (octets : List UInt8) (reads : List Read)
    (pdu : E2apPdu) (decoded : asn_decode octets = some pdu) :
    receiveDataFromSctp asn_decode (.message octets :: reads) =
      (receiveDataFromSctp asn_decode reads).handle (handlerOf pdu) := by
  simp only [receiveDataFromSctp, decoded]

/-- However the loop ends, what was read is a first part of the queue, each of its decodable
messages was handled once and in order, and the rest is unread. -/
theorem receiveDataFromSctp_accounts (reads : List Read) :
    ∃ consumed, reads = consumed ++ (receiveDataFromSctp asn_decode reads).unread ∧
      (receiveDataFromSctp asn_decode reads).dispatched =
        handlerCalls asn_decode (queued consumed) ∧
      (receiveDataFromSctp asn_decode reads).numOfMessages =
        (receiveDataFromSctp asn_decode reads).dispatched.length := by
  induction reads with
  | nil => exact ⟨[], rfl, rfl, rfl⟩
  | cons found reads ih =>
      have ⟨consumed, split, handled, counted⟩ := ih
      cases found with
      | interrupted => exact ⟨.interrupted :: consumed, congrArg _ split, handled, counted⟩
      | endOfFile => exact ⟨[.endOfFile], rfl, rfl, rfl⟩
      | failed => exact ⟨[.failed], rfl, rfl, rfl⟩
      | message octets =>
          cases decoded : asn_decode octets with
          | none =>
              rw [receiveDataFromSctp_undecodable octets reads decoded]
              refine ⟨[.message octets], rfl, ?_, rfl⟩
              rw [queued_message, handlerCalls_undecodable octets _ decoded]
              rfl
          | some pdu =>
              rw [receiveDataFromSctp_decodable octets reads pdu decoded]
              refine ⟨.message octets :: consumed, congrArg _ split, ?_, ?_⟩
              · rw [queued_message, handlerCalls_decodable octets _ pdu decoded, ← handled]
                rfl
              · exact congrArg (· + 1) counted

theorem undecodableLast_cons (found : Read) (reads : List Read) :
    UndecodableLast asn_decode (found :: reads) ↔
      (∀ octets, found = .message octets → asn_decode octets = none → queued reads = []) ∧
        (Continues asn_decode found → UndecodableLast asn_decode reads) := by
  constructor
  · intro last
    constructor
    · rintro octets rfl undecodable
      exact last [] octets reads rfl (by simp) undecodable
    · rintro goesOn before octets after rfl continues undecodable
      refine last (found :: before) octets after rfl ?_ undecodable
      exact List.forall_mem_cons.mpr ⟨goesOn, continues⟩
  · rintro ⟨here, later⟩ before octets after split continues undecodable
    cases before with
    | nil =>
        have same := List.cons.inj split
        rw [← same.2]
        exact here octets same.1 undecodable
    | cons first before =>
        have same := List.cons.inj split
        have goesOn := List.forall_mem_cons.mp continues
        rw [← same.1] at goesOn
        exact later goesOn.1 before octets after same.2 goesOn.2 undecodable

theorem drains_message (octets : List UInt8) (reads : List Read) (pdu : E2apPdu)
    (decoded : asn_decode octets = some pdu) :
    Drains asn_decode (.message octets :: reads) ↔ Drains asn_decode reads := by
  simp only [Drains, receiveDataFromSctp_decodable octets reads pdu decoded, queued_message,
    handlerCalls_decodable octets _ pdu decoded, Drained.handle, List.cons.injEq, true_and]

theorem drains_undecodable (octets : List UInt8) (reads : List Read)
    (undecodable : asn_decode octets = none) :
    Drains asn_decode (.message octets :: reads) ↔ queued reads = [] := by
  simp only [Drains, receiveDataFromSctp_undecodable octets reads undecodable, queued_message,
    handlerCalls_undecodable octets _ undecodable, forall_const]
  constructor
  · exact And.left
  · intro empty
    rw [empty]
    exact ⟨rfl, rfl⟩

/-- A call leaves no message behind, and handles each, just when the first message that cannot
be decoded is the last one. -/
theorem socket_drained_iff (asn_decode : List UInt8 → Option E2apPdu) (reads : List Read) :
    Drains asn_decode reads ↔ UndecodableLast asn_decode reads := by
  induction reads with
  | nil => simp [Drains, receiveDataFromSctp, handlerCalls, UndecodableLast]
  | cons found reads ih =>
      rw [undecodableLast_cons]
      cases found with
      | interrupted =>
          simp only [reduceCtorEq, false_implies, implies_true, true_and, Continues,
            forall_const, ← ih]
          exact Iff.rfl
      | endOfFile => simp [Drains, receiveDataFromSctp, Continues]
      | failed => simp [Drains, receiveDataFromSctp, Continues]
      | message octets =>
          cases decoded : asn_decode octets with
          | none =>
              rw [drains_undecodable octets reads decoded]
              simp [decoded, Continues]
          | some pdu =>
              rw [drains_message octets reads pdu decoded, ih]
              simp [decoded, Continues]

theorem receiveDataFromSctp_open (reads : List Read)
    (connected : ∀ found ∈ reads, found ≠ .endOfFile ∧ found ≠ .failed) :
    (receiveDataFromSctp asn_decode reads).done = false := by
  induction reads with
  | nil => rfl
  | cons found reads ih =>
      have ⟨here, later⟩ := List.forall_mem_cons.mp connected
      have rest := ih later
      cases found with
      | interrupted => exact rest
      | endOfFile => exact absurd rfl here.1
      | failed => exact absurd rfl here.2
      | message octets =>
          cases decoded : asn_decode octets with
          | none => rw [receiveDataFromSctp_undecodable octets reads decoded]
          | some pdu =>
              rw [receiveDataFromSctp_decodable octets reads pdu decoded]
              exact rest

end Decoding

section Wakeups

open EdgeTrigger Runs

abbrev SocketEvent (Listener : Type) := EdgeTrigger.Event Listener (List UInt8) (List Read)

variable (asn_decode : List UInt8 → Option E2apPdu)

/-- The messages that a turn takes from the socket when it finds these. -/
def socketServing : Serving (List UInt8) (List Read) where
  count := fun reads waiting =>
    waiting.length - (queued (receiveDataFromSctp asn_decode reads).unread).length
  count_le := fun _ _ => Nat.sub_le _ _

abbrev socketStep {Listener : Type} [DecidableEq Listener]
    (source : Source Listener (List UInt8)) (event : SocketEvent Listener) :
    Source Listener (List UInt8) :=
  EdgeTrigger.step (socketServing asn_decode) source event

/-- A turn finds the messages that wait, on an open connection, and only the last one is
undecodable, if any. -/
def OrderlyTurn {Listener : Type} (source : Source Listener (List UInt8)) :
    SocketEvent Listener → Prop
  | .serve _ reads =>
      queued reads = source.waiting ∧
        (∀ found ∈ reads, found ≠ .endOfFile ∧ found ≠ .failed) ∧
        UndecodableLast asn_decode reads
  | _ => True

variable {asn_decode}

theorem servesAll_of_orderly {Listener : Type} [DecidableEq Listener]
    (source : Source Listener (List UInt8)) (event : SocketEvent Listener)
    (orderly : OrderlyTurn asn_decode source event) :
    ServesAll (socketServing asn_decode) source event := by
  cases event with
  | arrive octets => trivial
  | wake listener => trivial
  | serve listener reads =>
      intro mark holds
      have ⟨_, connected, last⟩ := orderly
      have drains := (socket_drained_iff asn_decode reads).mpr last
      have empty := (drains (receiveDataFromSctp_open reads connected)).1
      rw [serve_leaves_none_iff holds]
      calc
        (source.before mark).length ≤ source.waiting.length := List.length_take_le' _ _
        _ = (socketServing asn_decode).count reads source.waiting := by
          simp only [socketServing, empty, List.length_nil, Nat.sub_zero]

/-- Then a message that waits on the socket is never forgotten: the socket is signalled, or a
listener has its event. -/
theorem messages_watched {Listener : Type} [DecidableEq Listener]
    (events : List (SocketEvent Listener))
    (along : Along (socketStep asn_decode) (OrderlyTurn asn_decode) Source.empty events) :
    Watched (Runs.run (socketStep asn_decode) (Source.empty : Source Listener _) events) := by
  refine watched_run _ events (.inl rfl) ?_
  refine along_strengthen (fun _ => True) (fun _ _ _ _ => trivial) ?_ _ events trivial along
  intro source event _ orderly
  exact servesAll_of_orderly source event orderly

end Wakeups

def resetResponse : List UInt8 := [0x20, 0x03, 0x00, 0x03, 0x00, 0x00, 0x00]

def resetDecoder (octets : List UInt8) : Option E2apPdu :=
  if octets = resetResponse then some (.successfulOutcome .Reset) else none

/-- A reset response behind an octet that is no PDU stays unread. -/
theorem garbage_hides_reset :
    ¬ ∀ (asn_decode : List UInt8 → Option E2apPdu) (reads : List Read),
        Drains asn_decode reads := by
  intro drains
  have hidden := (drains resetDecoder [.message [0xff], .message resetResponse] rfl).1
  exact absurd hidden (by decide)

end NearRtRic.E2T.SocketDrain
