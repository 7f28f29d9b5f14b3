import Mathlib.Tactic
import NearRtRic.Library.EdgeTrigger

/-! How the listeners of the E2 termination accept the connections of the RANs: the listening
socket is registered for edges. -/

namespace NearRtRic.E2T.AcceptLoop

open EdgeTrigger Runs

inductive AcceptError
  /-- `ECONNABORTED`: the connection is gone from the queue. -/
  | aborted
  | other
  deriving DecidableEq, Repr

/-- What the calls of one turn of the loop return, where they are made. -/
structure Calls where
  /-- Whether there is memory for a `ConnectedCU_t`. -/
  calloc : Bool
  /-- An `errno` of `accept` other than `EAGAIN`. -/
  accept : Option AcceptError
  setSocketNoBlocking : Int
  getnameinfo : Int
  addToEpoll : Int
  deriving DecidableEq, Repr

structure Accepted (Connection : Type) where
  queue : List Connection
  /-- The connection that was put into the epoll set. -/
  registered : Option Connection
  error : Bool

variable {Connection : Type}

/-- The loop of `listener`. Each branch of its body ends with a `break`, the last one too, so
the body is executed once. -/
def acceptLoop (calls : Calls) (queue : List Connection) : Accepted Connection :=
  if calls.calloc = false then { queue := queue, registered := none, error := false }
  else
    match calls.accept, queue with
    | some .aborted, queue => { queue := queue.tail, registered := none, error := true }
    | some .other, queue => { queue := queue, registered := none, error := true }
    -- EAGAIN
    | none, [] => { queue := [], registered := none, error := false }
    | none, connection :: queue =>
        if calls.setSocketNoBlocking = -1 then
          { queue := queue, registered := none, error := true }
        else if calls.getnameinfo < 0 then
          { queue := queue, registered := none, error := true }
        else if calls.addToEpoll ≠ 0 then
          { queue := queue, registered := none, error := true }
        else { queue := queue, registered := some connection, error := false }

structure Calls.Succeed (calls : Calls) : Prop where
  accept : calls.accept = none
  setSocketNoBlocking : calls.setSocketNoBlocking ≠ -1
  getnameinfo : 0 ≤ calls.getnameinfo
  addToEpoll : calls.addToEpoll = 0

theorem acceptLoop_calloc (calls : Calls) (queue : List Connection)
    (calloc : calls.calloc = false) :
    acceptLoop calls queue = { queue := queue, registered := none, error := false } := by
  simp only [acceptLoop, calloc, ↓reduceIte]

theorem acceptLoop_succeeds (calls : Calls) (connection : Connection)
    (queue : List Connection) (calloc : calls.calloc = true) (succeed : calls.Succeed) :
    acceptLoop calls (connection :: queue) =
      { queue := queue, registered := some connection, error := false } := by
  simp [acceptLoop, calloc, succeed.accept, succeed.setSocketNoBlocking, succeed.addToEpoll,
    succeed.getnameinfo.not_gt]

theorem acceptLoop_fails (calls : Calls) (connection : Connection) (queue : List Connection)
    (calloc : calls.calloc = true) (fails : ¬ calls.Succeed) :
    (acceptLoop calls (connection :: queue)).error = true := by
  by_contra passes
  refine fails ?_
  cases accept : calls.accept with
  | some error => cases error <;> simp [acceptLoop, calloc, accept] at passes
  | none =>
      simp only [acceptLoop, calloc, accept, Bool.true_eq_false, ↓reduceIte] at passes
      split_ifs at passes with blocking unnamed refused
      · simp at passes
      · simp at passes
      · simp at passes
      · exact ⟨accept, blocking, not_lt.mp unnamed, not_not.mp refused⟩

def acceptServing (Connection : Type) : Serving Connection Calls where
  count := fun calls queue => queue.length - (acceptLoop calls queue).queue.length
  count_le := fun _ _ => Nat.sub_le _ _

abbrev ListenEvent (Listener Connection : Type) := EdgeTrigger.Event Listener Connection Calls

variable {Listener : Type} [DecidableEq Listener]

abbrev acceptStep (source : Source Listener Connection)
    (event : ListenEvent Listener Connection) : Source Listener Connection :=
  EdgeTrigger.step (acceptServing Connection) source event

/-- When the event of the listening socket is handled without an error, no connection that had
arrived before the event is left in the queue. -/
def NoneLeft (source : Source Listener Connection) : ListenEvent Listener Connection → Prop
  | .serve listener calls =>
      ∀ mark, source.taken listener = some mark →
        (acceptLoop calls source.waiting).error = false →
        (acceptStep source (.serve listener calls)).before mark = []
  | _ => True

/-- When the event is handled, at most one connection that had arrived before it still waits,
and none if there is no memory. -/
def OneWaiting (source : Source Listener Connection) : ListenEvent Listener Connection → Prop
  | .serve listener calls =>
      ∀ mark, source.taken listener = some mark →
        (calls.calloc = false → source.before mark = []) ∧
          (calls.Succeed → (source.before mark).length ≤ 1)
  | _ => True

theorem noneLeft_serve_iff (source : Source Listener Connection) (listener : Listener)
    (calls : Calls) (mark : Nat) (holds : source.taken listener = some mark) :
    ((acceptLoop calls source.waiting).error = false →
        (acceptStep source (.serve listener calls)).before mark = []) ↔
      (calls.calloc = false → source.before mark = []) ∧
        (calls.Succeed → (source.before mark).length ≤ 1) := by
  rw [serve_leaves_none_iff holds]
  cases calloc : calls.calloc with
  | false =>
      simp only [acceptServing, acceptLoop_calloc calls source.waiting calloc, Nat.sub_self,
        Nat.le_zero, List.length_eq_zero_iff, forall_const]
      constructor
      · intro none_left
        exact ⟨none_left, fun _ => by rw [none_left]; exact Nat.zero_le 1⟩
      · exact And.left
  | true =>
      simp only [Bool.true_eq_false, false_implies, true_and]
      cases queue : source.waiting with
      | nil =>
          have idle : source.before mark = [] := by rw [Source.before, queue, List.take_nil]
          simp [idle]
      | cons connection rest =>
          by_cases succeed : calls.Succeed
          · have accepted := acceptLoop_succeeds calls connection rest calloc succeed
            simp [acceptServing, accepted, succeed]
          · have fails := acceptLoop_fails calls connection rest calloc succeed
            simp [fails, succeed]

theorem noneLeft_iff (source : Source Listener Connection)
    (event : ListenEvent Listener Connection) :
    NoneLeft source event ↔ OneWaiting source event := by
  cases event with
  | arrive connection => exact Iff.rfl
  | wake listener => exact Iff.rfl
  | serve listener calls =>
      exact forall₂_congr fun mark holds => noneLeft_serve_iff source listener calls mark holds

/-- In any order of arrivals and turns, every event leaves no earlier connection behind just
when no two of them ever wait for one event. -/
theorem connections_accepted_iff (source : Source Listener Connection)
    (events : List (ListenEvent Listener Connection)) :
    Along acceptStep NoneLeft source events ↔ Along acceptStep OneWaiting source events :=
  along_congr noneLeft_iff source events

def sharedEvent : List (ListenEvent Unit Nat) :=
  [.arrive 1, .arrive 2, .wake (),
    .serve ()
      { calloc := true, accept := none, setSocketNoBlocking := 0, getnameinfo := 0,
        addToEpoll := 0 }]

theorem second_connection_left :
    ¬ ∀ events : List (ListenEvent Unit Nat), Along acceptStep NoneLeft Source.empty events := by
  intro accepts
  have served := (accepts sharedEvent).2.2.2.1 2 rfl rfl
  exact absurd served (by decide)

def Undisturbed : ListenEvent Listener Connection → Prop
  | .serve _ calls => calls.calloc = true ∧ calls.Succeed
  | _ => True

theorem servesAll_of_oneWaiting (source : Source Listener Connection)
    (event : ListenEvent Listener Connection) (undisturbed : Undisturbed event)
    (one : OneWaiting source event) :
    ServesAll (acceptServing Connection) source event := by
  cases event with
  | arrive connection => trivial
  | wake listener => trivial
  | serve listener calls =>
      intro mark holds
      have ⟨calloc, succeed⟩ := undisturbed
      refine (noneLeft_serve_iff source listener calls mark holds).mpr (one mark holds) ?_
      cases queue : source.waiting with
      | nil => simp [acceptLoop, calloc, succeed.accept]
      | cons connection rest => rw [acceptLoop_succeeds calls connection rest calloc succeed]

/-- As long as that holds and no call fails, a connection that waits will be looked at: the
socket is signalled, or a listener has its event. -/
theorem connections_watched (events : List (ListenEvent Listener Connection))
    (along : Along acceptStep (fun source event => Undisturbed event ∧ OneWaiting source event)
      Source.empty events) :
    Watched (Runs.run acceptStep (Source.empty : Source Listener Connection) events) := by
  refine watched_run _ events (.inl rfl) ?_
  refine along_strengthen (fun _ => True) (fun _ _ _ _ => trivial) ?_ _ events trivial along
  intro source event _ allowed
  exact servesAll_of_oneWaiting source event allowed.1 allowed.2

end NearRtRic.E2T.AcceptLoop
