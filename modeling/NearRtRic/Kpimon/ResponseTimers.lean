import Mathlib.Tactic
import NearRtRic.Library.Runs

/-! The watchers that wait for the response to a subscription or delete request. -/

namespace NearRtRic.Kpimon

abbrev RanName := List Char

/-- The procedures a response is awaited of, each with a map and a mutex of its own. -/
inductive Procedure
  | create
  | delete
  deriving DecidableEq, Repr

inductive WatcherState
  /-- Polls, with its timer still running. -/
  | waiting
  /-- Has taken its timer branch and polls on. -/
  | lingering
  | expired
  | canceled
  deriving DecidableEq, Repr

def WatcherState.returned : WatcherState → Bool
  | .waiting | .lingering => false
  | .expired | .canceled => true

structure Watcher where
  ranName : RanName
  state : WatcherState
  deriving DecidableEq, Repr

/-- An expiry map and its watchers, in the order in which their requests were sent. -/
structure Timers where
  expiredMap : RanName → Option Bool
  watchers : List Watcher

namespace Timers

def empty : Timers where
  expiredMap := fun _ => none
  watchers := []

/-- What a Go map of flags answers for a key. -/
def flag (timers : Timers) (ranName : RanName) : Bool :=
  (timers.expiredMap ranName).getD false

def finish (timers : Timers) (index : Nat) (watcher : Watcher) (state : WatcherState) : Timers where
  expiredMap := Function.update timers.expiredMap watcher.ranName none
  watchers := timers.watchers.set index { watcher with state := state }

def setEventExpiredTimer (timers : Timers) (ranName : RanName) : Timers where
  expiredMap := Function.update timers.expiredMap ranName (some false)
  watchers := timers.watchers ++ [⟨ranName, .waiting⟩]

def handleResponse (timers : Timers) (ranName : RanName) : Timers :=
  match timers.expiredMap ranName with
  | none => timers
  | some _ =>
      { timers with expiredMap := Function.update timers.expiredMap ranName (some true) }

/-- The branch of the select that the timer enables; the timer fires once. -/
def timerBranch (timers : Timers) (index : Nat) : Timers :=
  match timers.watchers[index]? with
  | none => timers
  | some watcher =>
      if watcher.state = .waiting then
        let isResponsed := timers.flag watcher.ranName
        if !isResponsed then timers.finish index watcher .expired
        -- no return here: the loop sleeps and selects again
        else timers.finish index watcher .lingering
      else timers

def defaultBranch (timers : Timers) (index : Nat) : Timers :=
  match timers.watchers[index]? with
  | none => timers
  | some watcher =>
      if watcher.state.returned then timers
      else if timers.flag watcher.ranName then timers.finish index watcher .canceled
      else timers

end Timers

abbrev Control := Procedure → Timers

def setEventCreateExpiredTimer (control : Control) (ranName : RanName) : Control :=
  Function.update control .create ((control .create).setEventExpiredTimer ranName)

def setEventDeleteExpiredTimer (control : Control) (ranName : RanName) : Control :=
  Function.update control .delete ((control .delete).setEventExpiredTimer ranName)

def handleSubscriptionResponse (control : Control) (ranName : RanName) : Control :=
  Function.update control .create ((control .create).handleResponse ranName)

def handleSubscriptionFailure (control : Control) (ranName : RanName) : Control :=
  Function.update control .create ((control .create).handleResponse ranName)

def handleSubscriptionDeleteResponse (control : Control) (ranName : RanName) : Control :=
  Function.update control .delete ((control .delete).handleResponse ranName)

def handleSubscriptionDeleteFailure (control : Control) (ranName : RanName) : Control :=
  Function.update control .delete ((control .delete).handleResponse ranName)

inductive Action
  | request (ranName : RanName)
  /-- `failed` tells the two handlers of a procedure apart; `answered` is the request that the
  message belongs to, if any. -/
  | response (failed : Bool) (ranName : RanName) (answered : Option Nat)
  | timer (index : Nat)
  | poll (index : Nat)
  deriving DecidableEq, Repr

abbrev Event := Procedure × Action

def Control.step (control : Control) : Event → Control
  | (.create, .request ranName) => setEventCreateExpiredTimer control ranName
  | (.delete, .request ranName) => setEventDeleteExpiredTimer control ranName
  | (.create, .response false ranName _) => handleSubscriptionResponse control ranName
  | (.create, .response true ranName _) => handleSubscriptionFailure control ranName
  | (.delete, .response false ranName _) => handleSubscriptionDeleteResponse control ranName
  | (.delete, .response true ranName _) => handleSubscriptionDeleteFailure control ranName
  | (procedure, .timer index) =>
      Function.update control procedure ((control procedure).timerBranch index)
  | (procedure, .poll index) =>
      Function.update control procedure ((control procedure).defaultBranch index)

/-- Whatever the procedure, an event does the same to its map and watchers. -/
def Timers.step (timers : Timers) : Action → Timers
  | .request ranName => timers.setEventExpiredTimer ranName
  | .response _ ranName _ => timers.handleResponse ranName
  | .timer index => timers.timerBranch index
  | .poll index => timers.defaultBranch index

theorem control_step (control : Control) (procedure : Procedure) (action : Action) :
    control.step (procedure, action) =
      Function.update control procedure ((control procedure).step action) := by
  cases action with
  | request ranName => cases procedure <;> rfl
  | response failed ranName answered => cases procedure <;> cases failed <;> rfl
  | timer index => cases procedure <;> rfl
  | poll index => cases procedure <;> rfl

/-- A response counts for the request it answers when it names its RAN and finds an entry. -/
def Timers.record (timers : Timers) (recorded : List Nat) : Action → List Nat
  | .response _ ranName (some answered) =>
      if timers.expiredMap ranName ≠ none ∧
          (timers.watchers[answered]?).map Watcher.ranName = some ranName then
        answered :: recorded
      else recorded
  | _ => recorded

/-- The control with a record of the requests whose response was written to the map. -/
structure Traced where
  control : Control
  recorded : Procedure → List Nat

namespace Traced

def initial : Traced where
  control := fun _ => Timers.empty
  recorded := fun _ => []

def step (traced : Traced) (event : Event) : Traced where
  control := traced.control.step event
  recorded := Function.update traced.recorded event.1
    ((traced.control event.1).record (traced.recorded event.1) event.2)

end Traced

def Timers.Latest (timers : Timers) (ranName : RanName) (index : Nat) : Prop :=
  (timers.watchers[index]?).map Watcher.ranName = some ranName ∧
    ∀ later, index < later → (timers.watchers[later]?).map Watcher.ranName ≠ some ranName

/-- No request goes to a RAN that is still waited for, no late or foreign response meets a
pending entry, and no timer fires between a response and the next poll. -/
def Timers.Undisturbed (timers : Timers) : Action → Prop
  | .request ranName =>
      ∀ watcher ∈ timers.watchers, watcher.ranName = ranName → watcher.state.returned
  | .response _ ranName answered =>
      timers.expiredMap ranName = some false →
        ∃ index, answered = some index ∧ timers.Latest ranName index
  | .timer index =>
      ∀ watcher : Watcher, timers.watchers[index]? = some watcher → watcher.state = .waiting →
        timers.flag watcher.ranName = false
  | .poll _ => True

/-- What a step of a watcher promises to its own request and to the later ones. -/
structure Timers.Kept (timers : Timers) (recorded : List Nat) (action : Action) : Prop where
  terminated : ∀ (index : Nat) (watcher : Watcher), action = .timer index →
    timers.watchers[index]? = some watcher → watcher.state = .waiting →
      ∃ after : Watcher, (timers.step action).watchers[index]? = some after ∧ after.state.returned
  reports : ∀ (index : Nat) (watcher after : Watcher), timers.watchers[index]? = some watcher →
    watcher.state.returned = false →
    (timers.step action).watchers[index]? = some after → after.state.returned →
      (after.state = .expired ↔ index ∉ recorded)
  others : ∀ (index : Nat) (watcher : Watcher) (later : Nat) (other : Watcher),
    action = .timer index ∨ action = .poll index →
    timers.watchers[index]? = some watcher → index < later →
    timers.watchers[later]? = some other → other.ranName = watcher.ranName →
    timers.expiredMap watcher.ranName ≠ none →
      (timers.step action).expiredMap watcher.ranName = timers.expiredMap watcher.ranName ∧
        (timers.step action).watchers[index]? = some watcher

/-- Between the steps of an undisturbed run every pending entry belongs to the one watcher of
its RAN that still runs. -/
structure Timers.Tracked (timers : Timers) (recorded : List Nat) : Prop where
  settled : ∀ (index : Nat) (watcher : Watcher), timers.watchers[index]? = some watcher →
    watcher.state ≠ .lingering
  newest : ∀ (index : Nat) (watcher : Watcher), timers.watchers[index]? = some watcher →
    watcher.state = .waiting → timers.Latest watcher.ranName index
  entry : ∀ (index : Nat) (watcher : Watcher), timers.watchers[index]? = some watcher →
    watcher.state = .waiting → timers.expiredMap watcher.ranName = some (decide (index ∈ recorded))
  awaited : ∀ ranName, timers.expiredMap ranName ≠ none → ∃ (index : Nat) (watcher : Watcher),
    timers.watchers[index]? = some watcher ∧ watcher.state = .waiting ∧
      watcher.ranName = ranName
  known : ∀ index ∈ recorded, index < timers.watchers.length

/-- All that an action can do to a map and its watchers. -/
inductive Timers.Effect (timers : Timers) : Action → Timers → Prop
  | requested (ranName : RanName) :
      Effect timers (.request ranName) (timers.setEventExpiredTimer ranName)
  | missed (failed : Bool) (ranName : RanName) (answered : Option Nat)
      (absent : timers.expiredMap ranName = none) :
      Effect timers (.response failed ranName answered) timers
  | marked (failed : Bool) (ranName : RanName) (answered : Option Nat)
      (present : timers.expiredMap ranName ≠ none) :
      Effect timers (.response failed ranName answered)
        { timers with expiredMap := Function.update timers.expiredMap ranName (some true) }
  | expired (index : Nat) (watcher : Watcher) (is : timers.watchers[index]? = some watcher)
      (waiting : watcher.state = .waiting) (unanswered : timers.flag watcher.ranName = false) :
      Effect timers (.timer index) (timers.finish index watcher .expired)
  | lingers (index : Nat) (watcher : Watcher) (is : timers.watchers[index]? = some watcher)
      (waiting : watcher.state = .waiting) (answered : timers.flag watcher.ranName = true) :
      Effect timers (.timer index) (timers.finish index watcher .lingering)
  | spent (index : Nat)
      (past : ∀ watcher : Watcher, timers.watchers[index]? = some watcher → watcher.state ≠ .waiting) :
      Effect timers (.timer index) timers
  | canceled (index : Nat) (watcher : Watcher) (is : timers.watchers[index]? = some watcher)
      (running : watcher.state.returned = false)
      (answered : timers.flag watcher.ranName = true) :
      Effect timers (.poll index) (timers.finish index watcher .canceled)
  | polled (index : Nat) : Effect timers (.poll index) timers

theorem Timers.effect (timers : Timers) (action : Action) :
    timers.Effect action (timers.step action) := by
  cases action with
  | request ranName => exact .requested ranName
  | response failed ranName answered =>
      simp only [Timers.step, handleResponse]
      cases present : timers.expiredMap ranName with
      | none => exact .missed failed ranName answered present
      | some flag => exact .marked failed ranName answered (by rw [present]; nofun)
  | timer index =>
      simp only [Timers.step, timerBranch]
      cases is : timers.watchers[index]? with
      | none => exact .spent index (fun watcher found => by rw [is] at found; cases found)
      | some watcher =>
          simp only
          split
          · next waiting =>
            cases answered : timers.flag watcher.ranName with
            | false => exact .expired index watcher is waiting answered
            | true => exact .lingers index watcher is waiting answered
          · next past =>
            refine .spent index (fun other found => ?_)
            obtain rfl : watcher = other := Option.some.inj (is.symm.trans found)
            exact past
  | poll index =>
      simp only [Timers.step, defaultBranch]
      cases is : timers.watchers[index]? with
      | none => exact .polled index
      | some watcher =>
          simp only
          cases running : watcher.state.returned with
          | true => exact .polled index
          | false =>
              cases answered : timers.flag watcher.ranName with
              | false => exact .polled index
              | true => exact .canceled index watcher is running answered

section Lemmas

variable {timers : Timers} {recorded : List Nat} {action : Action}

theorem finish_watchers {index : Nat} {watcher : Watcher}
    (is : timers.watchers[index]? = some watcher) (state : WatcherState) (other : Nat) :
    (timers.finish index watcher state).watchers[other]? =
      if other = index then some { watcher with state := state }
      else timers.watchers[other]? := by
  rcases List.getElem?_eq_some_iff.mp is with ⟨within, -⟩
  simp only [Timers.finish, List.getElem?_set]
  by_cases same : index = other
  · subst same
    simp [within]
  · rw [if_neg same, if_neg (Ne.symm same)]

theorem finish_ranName {index : Nat} {watcher : Watcher}
    (is : timers.watchers[index]? = some watcher) (state : WatcherState) (other : Nat) :
    ((timers.finish index watcher state).watchers[other]?).map Watcher.ranName =
      (timers.watchers[other]?).map Watcher.ranName := by
  rw [finish_watchers is]
  by_cases same : other = index
  · rw [if_pos same, same, is]
    rfl
  · rw [if_neg same]

theorem finish_latest {index : Nat} {watcher : Watcher}
    (is : timers.watchers[index]? = some watcher) (state : WatcherState) (ranName : RanName)
    (other : Nat) :
    (timers.finish index watcher state).Latest ranName other ↔ timers.Latest ranName other := by
  simp only [Timers.Latest, finish_ranName is]

theorem request_watchers (timers : Timers) (ranName : RanName) (index : Nat) :
    (timers.setEventExpiredTimer ranName).watchers[index]? =
      if index = timers.watchers.length then some ⟨ranName, .waiting⟩
      else timers.watchers[index]? := by
  simp only [Timers.setEventExpiredTimer]
  rcases Nat.lt_trichotomy index timers.watchers.length with below | same | above
  · rw [List.getElem?_append_left below, if_neg (by omega)]
  · simp [same]
  · rw [if_neg (by omega), List.getElem?_eq_none (by simp; omega),
      List.getElem?_eq_none (by omega)]

theorem Timers.Latest.unique {ranName : RanName} {first second : Nat}
    (latest : timers.Latest ranName first) (also : timers.Latest ranName second) :
    first = second := by
  rcases Nat.lt_trichotomy first second with before | same | behind
  · exact absurd also.1 (latest.2 second before)
  · exact same
  · exact absurd latest.1 (also.2 first behind)

theorem poll_cancels {index : Nat} {watcher : Watcher}
    (is : timers.watchers[index]? = some watcher) (running : watcher.state.returned = false)
    (answered : timers.flag watcher.ranName = true) :
    timers.step (.poll index) = timers.finish index watcher .canceled := by
  simp [Timers.step, Timers.defaultBranch, is, running, answered]

theorem timer_expires {index : Nat} {watcher : Watcher}
    (is : timers.watchers[index]? = some watcher) (waiting : watcher.state = .waiting)
    (unanswered : timers.flag watcher.ranName = false) :
    timers.step (.timer index) = timers.finish index watcher .expired := by
  simp [Timers.step, Timers.timerBranch, is, waiting, unanswered]

theorem timer_lingers {index : Nat} {watcher : Watcher}
    (is : timers.watchers[index]? = some watcher) (waiting : watcher.state = .waiting)
    (answered : timers.flag watcher.ranName = true) :
    timers.step (.timer index) = timers.finish index watcher .lingering := by
  simp [Timers.step, Timers.timerBranch, is, waiting, answered]

theorem returns_reports {index : Nat} {watcher : Watcher} {state : WatcherState}
    (is : timers.watchers[index]? = some watcher)
    (fair : state = .expired ↔ index ∉ recorded) (other : Nat) (before after : Watcher)
    (isBefore : timers.watchers[other]? = some before) (runs : before.state.returned = false)
    (isAfter : (timers.finish index watcher state).watchers[other]? = some after)
    (returned : after.state.returned) : after.state = .expired ↔ other ∉ recorded := by
  rw [finish_watchers is] at isAfter
  split at isAfter
  · next same =>
    obtain rfl := Option.some.inj isAfter
    rw [same]
    exact fair
  · obtain rfl : before = after := Option.some.inj (isBefore.symm.trans isAfter)
    rw [runs] at returned
    cases returned

namespace Timers.Tracked

theorem running_waiting (tracked : timers.Tracked recorded) {index : Nat} {watcher : Watcher}
    (is : timers.watchers[index]? = some watcher) (running : watcher.state.returned = false) :
    watcher.state = .waiting := by
  have settled := tracked.settled index watcher is
  revert settled running
  cases watcher.state <;> simp [WatcherState.returned]

theorem flag_iff (tracked : timers.Tracked recorded) {index : Nat} {watcher : Watcher}
    (is : timers.watchers[index]? = some watcher) (waiting : watcher.state = .waiting) :
    timers.flag watcher.ranName = true ↔ index ∈ recorded := by
  simp [Timers.flag, tracked.entry index watcher is waiting]

theorem finish (tracked : timers.Tracked recorded) {index : Nat} {watcher : Watcher}
    (is : timers.watchers[index]? = some watcher) (waiting : watcher.state = .waiting)
    {state : WatcherState} (returned : state.returned) :
    (timers.finish index watcher state).Tracked recorded := by
  have same_index : ∀ other found, timers.watchers[other]? = some found →
      found.state = .waiting → found.ranName = watcher.ranName → other = index := by
    intro other found isFound waits same
    have latest := tracked.newest other found isFound waits
    rw [same] at latest
    exact latest.unique (tracked.newest index watcher is waiting)
  have unchanged : ∀ other found,
      (timers.finish index watcher state).watchers[other]? = some found →
      found.state.returned = false → other ≠ index ∧ timers.watchers[other]? = some found := by
    intro other found isFound runs
    rw [finish_watchers is] at isFound
    split at isFound
    · obtain rfl := Option.some.inj isFound
      rw [returned] at runs
      cases runs
    · next differ => exact ⟨differ, isFound⟩
  refine ⟨?_, ?_, ?_, ?_, ?_⟩
  · intro other found isFound lingers
    rcases unchanged other found isFound (by rw [lingers]; rfl) with ⟨-, before⟩
    exact tracked.settled other found before lingers
  · intro other found isFound waits
    rcases unchanged other found isFound (by rw [waits]; rfl) with ⟨-, before⟩
    exact (finish_latest is state _ _).mpr (tracked.newest other found before waits)
  · intro other found isFound waits
    rcases unchanged other found isFound (by rw [waits]; rfl) with ⟨differ, before⟩
    have apart : found.ranName ≠ watcher.ranName :=
      fun same => differ (same_index other found before waits same)
    exact (Function.update_of_ne apart _ _).trans (tracked.entry other found before waits)
  · intro ranName present
    simp only [Timers.finish] at present
    have apart : ranName ≠ watcher.ranName := by
      rintro rfl
      simp at present
    rw [Function.update_of_ne apart] at present
    rcases tracked.awaited ranName present with ⟨other, found, isFound, waits, named⟩
    refine ⟨other, found, ?_, waits, named⟩
    rw [finish_watchers is, if_neg, isFound]
    rintro rfl
    obtain rfl : watcher = found := Option.some.inj (is.symm.trans isFound)
    exact apart named.symm
  · intro other mem
    simpa [Timers.finish] using tracked.known other mem

theorem request (tracked : timers.Tracked recorded) {ranName : RanName}
    (free : ∀ watcher ∈ timers.watchers, watcher.ranName = ranName → watcher.state.returned) :
    (timers.setEventExpiredTimer ranName).Tracked recorded := by
  have apart : ∀ (index : Nat) (watcher : Watcher), timers.watchers[index]? = some watcher →
      watcher.state = .waiting → watcher.ranName ≠ ranName := by
    intro index watcher is waiting same
    have returned := free watcher (List.mem_of_getElem? is) same
    rw [waiting] at returned
    cases returned
  refine ⟨?_, ?_, ?_, ?_, ?_⟩
  · intro index watcher is
    rw [request_watchers] at is
    split at is
    · obtain rfl := Option.some.inj is
      nofun
    · exact tracked.settled index watcher is
  · intro index watcher is waiting
    refine ⟨by rw [is]; rfl, fun later follows => ?_⟩
    rw [request_watchers] at is ⊢
    split at is
    · next last =>
      rw [if_neg (by omega), List.getElem?_eq_none (by omega)]
      nofun
    · split
      · intro same
        exact apart index watcher is waiting (Option.some.inj same).symm
      · exact (tracked.newest index watcher is waiting).2 later follows
  · intro index watcher is waiting
    rw [request_watchers] at is
    split at is
    · next last =>
      obtain rfl := Option.some.inj is
      have fresh : index ∉ recorded := fun mem => by
        have := tracked.known index mem
        omega
      simp [Timers.setEventExpiredTimer, fresh]
    · rw [← tracked.entry index watcher is waiting]
      exact Function.update_of_ne (apart index watcher is waiting) _ _
  · intro name present
    simp only [Timers.setEventExpiredTimer] at present
    by_cases same : name = ranName
    · subst same
      exact ⟨timers.watchers.length, _, by rw [request_watchers, if_pos rfl], rfl, rfl⟩
    · rw [Function.update_of_ne same] at present
      rcases tracked.awaited name present with ⟨index, watcher, is, waiting, named⟩
      rcases List.getElem?_eq_some_iff.mp is with ⟨within, -⟩
      exact ⟨index, watcher, by rw [request_watchers, if_neg (by omega), is], waiting, named⟩
  · intro index mem
    have := tracked.known index mem
    simp only [Timers.setEventExpiredTimer, List.length_append, List.length_singleton]
    omega

theorem mem_record {failed : Bool} {ranName : RanName} {answered : Option Nat} {index : Nat} :
    index ∈ timers.record recorded (.response failed ranName answered) ↔
      index ∈ recorded ∨ (answered = some index ∧ timers.expiredMap ranName ≠ none ∧
        (timers.watchers[index]?).map Watcher.ranName = some ranName) := by
  cases answered with
  | none => simp [Timers.record]
  | some answer =>
      simp only [Timers.record, Option.some.injEq]
      split
      · next counts =>
        rw [List.mem_cons]
        constructor
        · rintro (rfl | mem)
          · exact .inr ⟨rfl, counts⟩
          · exact .inl mem
        · rintro (mem | ⟨rfl, -⟩)
          · exact .inr mem
          · exact .inl rfl
      · next ignored =>
        constructor
        · exact .inl
        · rintro (mem | ⟨rfl, counts⟩)
          · exact mem
          · exact absurd counts ignored

theorem marked (tracked : timers.Tracked recorded) {failed : Bool} {ranName : RanName}
    {answered : Option Nat} (present : timers.expiredMap ranName ≠ none)
    (own : timers.expiredMap ranName = some false →
      ∃ index, answered = some index ∧ timers.Latest ranName index) :
    Timers.Tracked
      { timers with expiredMap := Function.update timers.expiredMap ranName (some true) }
      (timers.record recorded (.response failed ranName answered)) := by
  refine ⟨tracked.settled, tracked.newest, ?_, ?_, ?_⟩
  · intro index watcher is waiting
    have latest := tracked.newest index watcher is waiting
    have before := tracked.entry index watcher is waiting
    by_cases same : watcher.ranName = ranName
    · have answers : index ∈ timers.record recorded (.response failed ranName answered) := by
        rw [mem_record]
        by_cases already : index ∈ recorded
        · exact .inl already
        · rw [same] at latest before
          rcases own (by rw [before]; simp [already]) with ⟨other, answer, newest⟩
          rw [latest.unique newest]
          exact .inr ⟨answer, present, newest.1⟩
      simp [same, answers]
    · have differ : answered = some index → (timers.watchers[index]?).map Watcher.ranName ≠
          some ranName := by
        intro _ named
        rw [is] at named
        exact same (Option.some.inj named)
      have unchanged : index ∈ timers.record recorded (.response failed ranName answered) ↔
          index ∈ recorded := by
        rw [mem_record]
        exact ⟨fun mem => mem.elim id fun counts => absurd counts.2.2 (differ counts.1), .inl⟩
      simp only [unchanged]
      exact (Function.update_of_ne same _ _).trans before
  · intro name nowPresent
    by_cases same : name = ranName
    · exact tracked.awaited name (by rwa [same])
    · simp only [Function.update_of_ne same] at nowPresent
      exact tracked.awaited name nowPresent
  · intro index mem
    rcases mem_record.mp mem with mem | ⟨-, -, named⟩
    · exact tracked.known index mem
    · rcases Option.map_eq_some_iff.mp named with ⟨watcher, is, -⟩
      exact (List.getElem?_eq_some_iff.mp is).1

theorem missed (tracked : timers.Tracked recorded) {failed : Bool} {ranName : RanName}
    {answered : Option Nat} (absent : timers.expiredMap ranName = none) :
    timers.Tracked (timers.record recorded (.response failed ranName answered)) := by
  have unchanged : timers.record recorded (.response failed ranName answered) = recorded := by
    cases answered <;> simp [Timers.record, absent]
  rwa [unchanged]

theorem step (tracked : timers.Tracked recorded) (undisturbed : timers.Undisturbed action) :
    (timers.step action).Tracked (timers.record recorded action) := by
  have effect := timers.effect action
  revert effect
  generalize timers.step action = after
  intro effect
  cases effect with
  | requested ranName => exact tracked.request undisturbed
  | missed failed ranName answered absent => exact tracked.missed absent
  | marked failed ranName answered present => exact tracked.marked present undisturbed
  | expired index watcher is waiting unanswered => exact tracked.finish is waiting rfl
  | lingers index watcher is waiting answered =>
      rw [undisturbed watcher is waiting] at answered
      cases answered
  | spent index past => exact tracked
  | canceled index watcher is running answered =>
      exact tracked.finish is (tracked.running_waiting is running) rfl
  | polled index => exact tracked

theorem newest_not_earlier (tracked : timers.Tracked recorded) {index later : Nat}
    {watcher other : Watcher} (is : timers.watchers[index]? = some watcher)
    (waiting : watcher.state = .waiting) (follows : index < later)
    (isOther : timers.watchers[later]? = some other) : other.ranName ≠ watcher.ranName := by
  intro same
  apply (tracked.newest index watcher is waiting).2 later follows
  rw [isOther, Option.map_some, same]

theorem kept (tracked : timers.Tracked recorded) (undisturbed : timers.Undisturbed action) :
    timers.Kept recorded action := by
  have effect := timers.effect action
  have still : ∀ (index : Nat) (watcher after : Watcher),
      timers.watchers[index]? = some watcher → watcher.state.returned = false →
      timers.watchers[index]? = some after → after.state.returned →
      (after.state = .expired ↔ index ∉ recorded) := by
    intro index watcher after is runs isAfter returned
    obtain rfl : watcher = after := Option.some.inj (is.symm.trans isAfter)
    rw [runs] at returned
    cases returned
  constructor <;> revert effect <;> generalize timers.step action = result <;> intro effect
  · rintro index watcher rfl is waiting
    cases effect with
    | expired index other isOther waits unanswered =>
        exact ⟨_, by rw [finish_watchers isOther, if_pos rfl], rfl⟩
    | lingers index other isOther waits answered =>
        rw [undisturbed other isOther waits] at answered
        cases answered
    | spent index past => exact absurd waiting (past watcher is)
  · cases effect with
    | requested ranName =>
        intro index watcher after is runs isAfter returned
        rcases List.getElem?_eq_some_iff.mp is with ⟨within, -⟩
        rw [request_watchers, if_neg (by omega)] at isAfter
        exact still index watcher after is runs isAfter returned
    | missed failed ranName answered absent => exact still
    | marked failed ranName answered present => exact still
    | expired index watcher is waiting unanswered =>
        refine returns_reports is ⟨fun _ => ?_, fun _ => rfl⟩
        rw [← tracked.flag_iff is waiting, unanswered]
        nofun
    | lingers index watcher is waiting answered =>
        rw [undisturbed watcher is waiting] at answered
        cases answered
    | spent index past => exact still
    | canceled index watcher is running answered =>
        have waiting := tracked.running_waiting is running
        exact returns_reports is ⟨nofun, absurd ((tracked.flag_iff is waiting).mp answered)⟩
    | polled index => exact still
  · intro index watcher later other acts is follows isOther same present
    cases effect with
    | requested ranName => rcases acts with acts | acts <;> cases acts
    | missed failed ranName answered absent => exact ⟨rfl, is⟩
    | marked failed ranName answered pending => rcases acts with acts | acts <;> cases acts
    | expired acting who isWho waiting unanswered =>
        obtain rfl : acting = index := by
          rcases acts with acts | acts <;> cases acts
          rfl
        obtain rfl : watcher = who := Option.some.inj (is.symm.trans isWho)
        exact absurd same (tracked.newest_not_earlier is waiting follows isOther)
    | lingers acting who isWho waiting answered =>
        rw [undisturbed who isWho waiting] at answered
        cases answered
    | spent acting past => exact ⟨rfl, is⟩
    | canceled acting who isWho running answered =>
        obtain rfl : acting = index := by
          rcases acts with acts | acts <;> cases acts
          rfl
        obtain rfl : watcher = who := Option.some.inj (is.symm.trans isWho)
        exact absurd same
          (tracked.newest_not_earlier is (tracked.running_waiting is running) follows isOther)
    | polled acting => exact ⟨rfl, is⟩

theorem request_needed (tracked : timers.Tracked recorded) {ranName : RanName}
    (disturbs : ¬ timers.Undisturbed (.request ranName)) :
    ∃ next, (timers.step (.request ranName)).Undisturbed next ∧
      ¬ (timers.step (.request ranName)).Kept recorded next := by
  simp only [Timers.Undisturbed, not_forall] at disturbs
  rcases disturbs with ⟨watcher, mem, rfl, runs⟩
  rcases List.mem_iff_getElem?.mp mem with ⟨index, is⟩
  rcases List.getElem?_eq_some_iff.mp is with ⟨within, -⟩
  have waiting := tracked.running_waiting is (Bool.eq_false_iff.mpr runs)
  have still : (timers.step (.request watcher.ranName)).watchers[index]? = some watcher := by
    rw [Timers.step, request_watchers, if_neg (by omega), is]
  have added : (timers.step (.request watcher.ranName)).watchers[timers.watchers.length]? =
      some ⟨watcher.ranName, .waiting⟩ := by
    rw [Timers.step, request_watchers, if_pos rfl]
  have pending : (timers.step (.request watcher.ranName)).expiredMap watcher.ranName =
      some false := Function.update_self _ _ _
  have unanswered : (timers.step (.request watcher.ranName)).flag watcher.ranName = false := by
    rw [Timers.flag, pending]
    rfl
  refine ⟨.timer index, fun other isOther _ => ?_, fun keeps => ?_⟩
  · obtain rfl : watcher = other := Option.some.inj (still.symm.trans isOther)
    exact unanswered
  · have kept := (keeps.others index watcher _ _ (.inl rfl) still within added rfl
      (by rw [pending]; nofun)).1
    rw [timer_expires still waiting unanswered, pending] at kept
    simp [Timers.finish] at kept

theorem response_needed (tracked : timers.Tracked recorded) {failed : Bool} {ranName : RanName}
    {answered : Option Nat} (disturbs : ¬ timers.Undisturbed (.response failed ranName answered)) :
    ∃ next, (timers.step (.response failed ranName answered)).Undisturbed next ∧
      ¬ (timers.step (.response failed ranName answered)).Kept
        (timers.record recorded (.response failed ranName answered)) next := by
  simp only [Timers.Undisturbed, not_forall] at disturbs
  rcases disturbs with ⟨pending, foreign⟩
  rcases tracked.awaited ranName (by rw [pending]; nofun) with ⟨index, watcher, is, waiting, rfl⟩
  have latest := tracked.newest index watcher is waiting
  have marked : timers.step (.response failed watcher.ranName answered) =
      { timers with
        expiredMap := Function.update timers.expiredMap watcher.ranName (some true) } := by
    simp only [Timers.step, Timers.handleResponse, pending]
  have unrecorded : index ∉ timers.record recorded (.response failed watcher.ranName answered) := by
    rw [mem_record]
    rintro (mem | ⟨answer, -⟩)
    · rw [← tracked.flag_iff is waiting, Timers.flag, pending] at mem
      cases mem
    · exact foreign ⟨index, answer, latest⟩
  refine ⟨.poll index, trivial, fun keeps => ?_⟩
  have reports := keeps.reports index watcher { watcher with state := .canceled }
  rw [marked] at reports
  have running : watcher.state.returned = false := by
    rw [waiting]
    rfl
  have cancels : Timers.step
      { timers with
        expiredMap := Function.update timers.expiredMap watcher.ranName (some true) }
      (.poll index) = _ := poll_cancels is running (by simp [Timers.flag])
  rw [cancels, finish_watchers (by exact is), if_pos rfl] at reports
  cases (reports is running rfl rfl).mpr unrecorded

theorem timer_needed {index : Nat} (disturbs : ¬ timers.Undisturbed (.timer index)) :
    ¬ timers.Kept recorded (.timer index) := by
  simp only [Timers.Undisturbed, not_forall] at disturbs
  rcases disturbs with ⟨watcher, is, waiting, answered⟩
  intro keeps
  rcases keeps.terminated index watcher rfl is waiting with ⟨after, isAfter, returned⟩
  rw [timer_lingers is waiting (Bool.not_eq_false _ ▸ answered), finish_watchers is,
    if_pos rfl] at isAfter
  obtain rfl := Option.some.inj isAfter
  cases returned

end Timers.Tracked

end Lemmas

namespace Traced

def Undisturbed (traced : Traced) (event : Event) : Prop :=
  (traced.control event.1).Undisturbed event.2

def Kept (traced : Traced) (event : Event) : Prop :=
  (traced.control event.1).Kept (traced.recorded event.1) event.2

def Tracked (traced : Traced) : Prop :=
  ∀ procedure, (traced.control procedure).Tracked (traced.recorded procedure)

theorem step_same (traced : Traced) (event : Event) :
    (traced.step event).control event.1 = (traced.control event.1).step event.2 ∧
      (traced.step event).recorded event.1 =
        (traced.control event.1).record (traced.recorded event.1) event.2 := by
  refine ⟨?_, Function.update_self _ _ _⟩
  exact (congrFun (control_step traced.control event.1 event.2) event.1).trans
    (Function.update_self _ _ _)

theorem step_other (traced : Traced) (event : Event) {procedure : Procedure}
    (differ : procedure ≠ event.1) :
    (traced.step event).control procedure = traced.control procedure ∧
      (traced.step event).recorded procedure = traced.recorded procedure := by
  refine ⟨?_, Function.update_of_ne differ _ _⟩
  exact (congrFun (control_step traced.control event.1 event.2) procedure).trans
    (Function.update_of_ne differ _ _)

theorem tracked_initial : initial.Tracked := by
  intro procedure
  refine ⟨?_, ?_, ?_, ?_, ?_⟩ <;> simp [initial, Timers.empty]

theorem tracked_step (traced : Traced) (event : Event) (tracked : traced.Tracked)
    (undisturbed : traced.Undisturbed event) : (traced.step event).Tracked := by
  intro procedure
  by_cases same : procedure = event.1
  · subst same
    rw [(step_same traced event).1, (step_same traced event).2]
    exact (tracked event.1).step undisturbed
  · rw [(step_other traced event same).1, (step_other traced event same).2]
    exact tracked procedure

/-- A step that disturbs a run goes wrong, at once or in the next step of the watcher. -/
theorem disturbed_fails (traced : Traced) (event : Event) (tracked : traced.Tracked)
    (disturbs : ¬ traced.Undisturbed event) :
    ∃ rest, Runs.Along step Undisturbed (traced.step event) rest ∧
      ¬ Runs.Along step Kept traced (event :: rest) := by
  have continued : ∀ next,
      ((traced.control event.1).step event.2).Undisturbed next →
      ¬ ((traced.control event.1).step event.2).Kept
        ((traced.control event.1).record (traced.recorded event.1) event.2) next →
      ∃ rest, Runs.Along step Undisturbed (traced.step event) rest ∧
        ¬ Runs.Along step Kept traced (event :: rest) := by
    intro next fits fails
    rw [← (step_same traced event).1] at fits fails
    rw [← (step_same traced event).2] at fails
    exact ⟨[(event.1, next)], ⟨fits, trivial⟩, fun along => fails along.2.1⟩
  rcases event with ⟨procedure, action⟩
  cases action with
  | request ranName =>
      rcases (tracked procedure).request_needed disturbs with ⟨next, fits, fails⟩
      exact continued next fits fails
  | response failed ranName answered =>
      rcases (tracked procedure).response_needed disturbs with ⟨next, fits, fails⟩
      exact continued next fits fails
  | timer index =>
      exact ⟨[], trivial, fun along => Timers.Tracked.timer_needed disturbs along.1⟩
  | poll index => exact absurd trivial disturbs

end Traced

/-- The watchers keep their promises in every undisturbed run, and being undisturbed is all it
takes: another run has a prefix that goes wrong, or does so when its watchers go on. -/
theorem watchers_keep (events : List Event) :
    (Runs.Along Traced.step Traced.Undisturbed Traced.initial events →
      Runs.Along Traced.step Traced.Kept Traced.initial events) ∧
    (Runs.Along Traced.step Traced.Undisturbed Traced.initial events ↔
      ∀ first, first <+: events → ∀ rest,
        Runs.Along Traced.step Traced.Undisturbed (Runs.run Traced.step Traced.initial first) rest →
        Runs.Along Traced.step Traced.Kept Traced.initial (first ++ rest)) := by
  have keeps : ∀ (traced : Traced) (event : Event), traced.Tracked → traced.Undisturbed event →
      traced.Kept event :=
    fun traced event tracked undisturbed => (tracked event.1).kept undisturbed
  constructor
  · exact Runs.along_strengthen Traced.Tracked Traced.tracked_step keeps Traced.initial events
      Traced.tracked_initial
  · exact Runs.along_iff_secure Traced.Tracked Traced.tracked_step keeps Traced.disturbed_fails
      Traced.initial events Traced.tracked_initial

def gnb : RanName := "gnb_311_048".toList

def answeredLate : List Event :=
  [(.create, .request gnb), (.create, .response false gnb (some 0)), (.create, .timer 0)]

def requestedTwice : List Event :=
  [(.delete, .request gnb), (.delete, .request gnb), (.delete, .timer 0)]

theorem watchers_break :
    ¬ Runs.Along Traced.step Traced.Kept Traced.initial answeredLate ∧
      ¬ Runs.Along Traced.step Traced.Kept Traced.initial requestedTwice := by
  constructor
  · rintro ⟨-, -, keeps, -⟩
    rcases keeps.terminated 0 ⟨gnb, .waiting⟩ rfl (by decide) rfl with ⟨after, isAfter, returned⟩
    have lingers : after = ⟨gnb, .lingering⟩ := Option.some.inj (isAfter.symm.trans (by decide))
    rw [lingers] at returned
    cases returned
  · rintro ⟨-, -, keeps, -⟩
    have kept := (keeps.others 0 ⟨gnb, .waiting⟩ 1 ⟨gnb, .waiting⟩ (.inl rfl) (by decide)
      (by decide) (by decide) rfl (by decide)).1
    exact absurd kept (by decide)

end NearRtRic.Kpimon
