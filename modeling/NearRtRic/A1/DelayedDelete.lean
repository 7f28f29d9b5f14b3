import NearRtRic.A1.Statuses

/-! Deletion timers are started and never cancelled: what they find when they expire. -/

namespace NearRtRic.A1

inductive LastOperation where
  | store
  | delete
  deriving DecidableEq, Repr

/-- The world, and for every instance which of the two was accepted last. -/
structure Tracked where
  world : World
  last : Nat → String → Option LastOperation

namespace Tracked

def start : Tracked := ⟨World.empty, fun _ _ => none⟩

def note (last : Nat → String → Option LastOperation) (policyTypeId : Nat)
    (policyInstanceId : String) (operation : LastOperation) : Nat → String → Option LastOperation :=
  fun otherType otherInstance =>
    if otherType = policyTypeId ∧ otherInstance = policyInstanceId then some operation
    else last otherType otherInstance

def noted (settings : Settings) (tracked : Tracked) :
    Operation → Nat → String → Option LastOperation
  | .request (.storePolicyInstance policyTypeId policyInstanceId body creationTimestamp) =>
      if accepted settings tracked.world
          (.storePolicyInstance policyTypeId policyInstanceId body creationTimestamp) then
        note tracked.last policyTypeId policyInstanceId .store
      else tracked.last
  | .request (.deletePolicyInstance policyTypeId policyInstanceId deletedTimestamp) =>
      if accepted settings tracked.world
          (.deletePolicyInstance policyTypeId policyInstanceId deletedTimestamp) then
        note tracked.last policyTypeId policyInstanceId .delete
      else tracked.last
  | _ => tracked.last

def step (settings : Settings) (tracked : Tracked) (operation : Operation) : Tracked :=
  ⟨A1.step settings tracked.world operation, tracked.noted settings operation⟩

theorem run_world (settings : Settings) (tracked : Tracked) (operations : List Operation) :
    (Runs.run (step settings) tracked operations).world =
      Runs.run (A1.step settings) tracked.world operations := by
  induction operations generalizing tracked with
  | nil => rfl
  | cons operation operations ih => exact ih (tracked.step settings operation)

end Tracked

/-- A store is only accepted on an instance no deletion timer is pending for. -/
def StoreMeetsNoTimer (settings : Settings) (tracked : Tracked) (operation : Operation) : Prop :=
  ∀ (policyTypeId : Nat) (policyInstanceId : String) (body : Body) (creationTimestamp : String),
    operation = .request
      (.storePolicyInstance policyTypeId policyInstanceId body creationTimestamp) →
    accepted settings tracked.world
      (.storePolicyInstance policyTypeId policyInstanceId body creationTimestamp) = true →
      ∀ timer ∈ tracked.world.timers,
        ¬ (timer.policyTypeId = policyTypeId ∧ timer.policyInstanceId = policyInstanceId)

def HeldUndeleted (world : World) (policyTypeId : Nat) (policyInstanceId : String) : Prop :=
  (∃ body, world.sdl.get (generateInstanceKey policyTypeId policyInstanceId) = some (.obj body)) ∧
    ∃ creationTimestamp,
      world.sdl.get (generateInstanceMetadataKey policyTypeId policyInstanceId) =
        some (storedMetadata creationTimestamp)

/-- Timers are pending only where a delete came last, and what was stored last is there. -/
structure TimersFollowDeletes (tracked : Tracked) : Prop where
  timers : ∀ timer ∈ tracked.world.timers,
    tracked.last timer.policyTypeId timer.policyInstanceId = some .delete
  stores : ∀ policyTypeId policyInstanceId,
    tracked.last policyTypeId policyInstanceId = some .store →
      HeldUndeleted tracked.world policyTypeId policyInstanceId

theorem timersFollowDeletes_start : TimersFollowDeletes Tracked.start where
  timers := by
    intro timer member
    exact absurd member (List.not_mem_nil)
  stores := by
    intro policyTypeId policyInstanceId last
    exact absurd last (by simp [Tracked.start])

theorem HeldUndeleted.of_same {before after : World} {policyTypeId : Nat}
    {policyInstanceId : String} (held : HeldUndeleted before policyTypeId policyInstanceId)
    (instances : after.sdl.get (generateInstanceKey policyTypeId policyInstanceId) =
      before.sdl.get (generateInstanceKey policyTypeId policyInstanceId))
    (metadata : after.sdl.get (generateInstanceMetadataKey policyTypeId policyInstanceId) =
      before.sdl.get (generateInstanceMetadataKey policyTypeId policyInstanceId)) :
    HeldUndeleted after policyTypeId policyInstanceId := by
  rw [HeldUndeleted, instances, metadata]
  exact held

section Step

variable {settings : Settings} {tracked : Tracked}

theorem timersFollowDeletes_store (follows : TimersFollowDeletes tracked) {policyTypeId : Nat}
    {policyInstanceId : String} (body : Body) (creationTimestamp : String)
    (clear : ∀ timer ∈ tracked.world.timers,
      ¬ (timer.policyTypeId = policyTypeId ∧ timer.policyInstanceId = policyInstanceId)) :
    TimersFollowDeletes
      ⟨{ tracked.world with
          sdl := storedSdl tracked.world.sdl policyTypeId policyInstanceId body
            creationTimestamp },
        Tracked.note tracked.last policyTypeId policyInstanceId .store⟩ where
  timers := by
    intro timer member
    simp only [Tracked.note, if_neg (clear timer member)]
    exact follows.timers timer member
  stores := by
    intro otherType otherInstance last
    by_cases same : otherType = policyTypeId ∧ otherInstance = policyInstanceId
    · rcases same with ⟨rfl, rfl⟩
      exact ⟨⟨body, by simp⟩, ⟨creationTimestamp, by simp⟩⟩
    · simp only [Tracked.note, if_neg same] at last
      exact (follows.stores otherType otherInstance last).of_same (by simp [same])
        (by simp [same])

theorem timersFollowDeletes_delete (follows : TimersFollowDeletes tracked) {policyTypeId : Nat}
    {policyInstanceId : String} (metadata : Json) (ttl : Int) :
    TimersFollowDeletes
      ⟨{ tracked.world with
          sdl := tracked.world.sdl.set (generateInstanceMetadataKey policyTypeId policyInstanceId)
            metadata
          timers := tracked.world.timers ++ [⟨policyTypeId, policyInstanceId, ttl, false⟩] },
        Tracked.note tracked.last policyTypeId policyInstanceId .delete⟩ where
  timers := by
    intro timer member
    simp only [Tracked.note]
    split
    · rfl
    · next differ =>
        rcases List.mem_append.mp member with old | new
        · exact follows.timers timer old
        · rw [List.mem_singleton] at new
          subst new
          exact absurd ⟨rfl, rfl⟩ differ
  stores := by
    intro otherType otherInstance last
    by_cases same : otherType = policyTypeId ∧ otherInstance = policyInstanceId
    · simp [Tracked.note, same] at last
    · simp only [Tracked.note, if_neg same] at last
      apply (follows.stores otherType otherInstance last).of_same
      · exact KeyValue.get_set_other _ _ (instance_ne_metadata _ _ _ _)
      · exact KeyValue.get_set_other _ _ (fun equal => same (metadata_key_injective equal))

theorem timersFollowDeletes_expiry (follows : TimersFollowDeletes tracked) {timer : Timer}
    (member : timer ∈ tracked.world.timers) (index : Nat) :
    TimersFollowDeletes
      ⟨{ tracked.world with
          sdl := expiredSdl tracked.world.sdl timer.policyTypeId timer.policyInstanceId
          timers := tracked.world.timers.eraseIdx index },
        tracked.last⟩ where
  timers := by
    intro other remaining
    exact follows.timers other (List.mem_of_mem_eraseIdx remaining)
  stores := by
    intro otherType otherInstance last
    have differ : ¬ (otherType = timer.policyTypeId ∧ otherInstance = timer.policyInstanceId) := by
      intro same
      rcases same with ⟨rfl, rfl⟩
      have deleted := follows.timers timer member
      rw [last] at deleted
      exact absurd deleted (by decide)
    exact (follows.stores otherType otherInstance last).of_same (by simp [differ])
      (by simp [differ])

theorem TimersFollowDeletes.of_same (follows : TimersFollowDeletes tracked) {after : World}
    (timers : ∀ timer ∈ after.timers, ∃ other ∈ tracked.world.timers,
      timer.policyTypeId = other.policyTypeId ∧ timer.policyInstanceId = other.policyInstanceId)
    (instances : ∀ (policyTypeId : Nat) (policyInstanceId : String),
      after.sdl.get (generateInstanceKey policyTypeId policyInstanceId) =
        tracked.world.sdl.get (generateInstanceKey policyTypeId policyInstanceId))
    (metadata : ∀ (policyTypeId : Nat) (policyInstanceId : String),
      after.sdl.get (generateInstanceMetadataKey policyTypeId policyInstanceId) =
        tracked.world.sdl.get (generateInstanceMetadataKey policyTypeId policyInstanceId)) :
    TimersFollowDeletes ⟨after, tracked.last⟩ where
  timers := by
    intro timer member
    rcases timers timer member with ⟨other, old, sameType, sameInstance⟩
    rw [sameType, sameInstance]
    exact follows.timers other old
  stores := by
    intro policyTypeId policyInstanceId last
    exact (follows.stores policyTypeId policyInstanceId last).of_same
      (instances policyTypeId policyInstanceId) (metadata policyTypeId policyInstanceId)

theorem timersFollowDeletes_step (follows : TimersFollowDeletes tracked) {operation : Operation}
    (allowed : StoreMeetsNoTimer settings tracked operation) :
    TimersFollowDeletes (tracked.step settings operation) := by
  have effect := step_effect settings tracked.world operation
  rw [Tracked.step]
  generalize step settings tracked.world operation = after at effect
  have same : ∀ timer ∈ tracked.world.timers, ∃ other ∈ tracked.world.timers,
      timer.policyTypeId = other.policyTypeId ∧
        timer.policyInstanceId = other.policyInstanceId :=
    fun timer member => ⟨timer, member, rfl, rfl⟩
  cases effect with
  | refused request raised =>
      have unnoted : tracked.noted settings (.request request) = tracked.last := by
        cases request <;> simp [Tracked.noted, raised]
      rw [unnoted]
      exact follows
  | reported => exact follows
  | checkIdle => exact follows
  | expiryIdle => exact follows
  | typeStored policyTypeId body untyped =>
      apply follows.of_same
      · exact same
      · intro otherType otherInstance
        exact KeyValue.get_set_other _ _ (type_ne_instance _ _ _).symm
      · intro otherType otherInstance
        exact KeyValue.get_set_other _ _ (type_ne_metadata _ _ _).symm
  | typeDeleted policyTypeId empty =>
      apply follows.of_same
      · exact same
      · intro otherType otherInstance
        exact KeyValue.get_delete_other _ (type_ne_instance _ _ _).symm
      · intro otherType otherInstance
        exact KeyValue.get_delete_other _ (type_ne_metadata _ _ _).symm
  | statusSet policyTypeId policyInstanceId handlerId status valid =>
      apply follows.of_same
      · exact same
      · intro otherType otherInstance
        exact KeyValue.get_set_other _ _ (instance_ne_handler _ _ _ _ _)
      · intro otherType otherInstance
        exact KeyValue.get_set_other _ _ (metadata_ne_handler _ _ _ _ _)
  | stored policyTypeId policyInstanceId body creationTimestamp typed =>
      have taken : accepted settings tracked.world
          (.storePolicyInstance policyTypeId policyInstanceId body creationTimestamp) = true :=
        accepted_store.mpr typed
      simp only [Tracked.noted, taken, if_true]
      exact timersFollowDeletes_store follows body creationTimestamp
        (allowed policyTypeId policyInstanceId body creationTimestamp rfl taken)
  | deleted policyTypeId policyInstanceId deletedTimestamp createdAt deletable =>
      simp only [Tracked.noted, accepted_delete.mpr ⟨createdAt, deletable⟩, if_true]
      exact timersFollowDeletes_delete follows _ _
  | timerLaid index timer found awake valid =>
      apply follows.of_same
      · intro other member
        rcases List.mem_or_eq_of_mem_set member with old | rfl
        · exact same other old
        · exact ⟨timer, List.mem_of_getElem? found, rfl, rfl⟩
      · exact fun _ _ => rfl
      · exact fun _ _ => rfl
  | timerEnded index timer found awake invalid =>
      apply follows.of_same
      · intro other remaining
        exact same other (List.mem_of_mem_eraseIdx remaining)
      · exact fun _ _ => rfl
      · exact fun _ _ => rfl
  | expired index timer found asleep =>
      exact timersFollowDeletes_expiry follows (List.mem_of_getElem? found) index

end Step

/-- The entries of an instance: its value, its metadata and what its handler search finds. -/
structure EntriesKept (before after : World) (policyTypeId : Nat) (policyInstanceId : String) :
    Prop where
  instances : after.sdl.get (generateInstanceKey policyTypeId policyInstanceId) =
    before.sdl.get (generateInstanceKey policyTypeId policyInstanceId)
  metadata : after.sdl.get (generateInstanceMetadataKey policyTypeId policyInstanceId) =
    before.sdl.get (generateInstanceMetadataKey policyTypeId policyInstanceId)
  statuses : handlerSearch after.sdl policyTypeId policyInstanceId =
    handlerSearch before.sdl policyTypeId policyInstanceId

/-- No timer of the instance changes its entries when it expires. -/
def OwnTimersSpare (settings : Settings) (world : World) (policyTypeId : Nat)
    (policyInstanceId : String) : Prop :=
  ∀ index timer, world.timers[index]? = some timer →
    timer.policyTypeId = policyTypeId ∧ timer.policyInstanceId = policyInstanceId →
      EntriesKept world (step settings world (.timerExpiry index)) policyTypeId policyInstanceId

/-- No timer at all changes the entries of the instance when it expires. -/
def AllTimersSpare (settings : Settings) (world : World) (policyTypeId : Nat)
    (policyInstanceId : String) : Prop :=
  ∀ index,
    EntriesKept world (step settings world (.timerExpiry index)) policyTypeId policyInstanceId

section Expiry

variable {settings : Settings} {tracked : Tracked} {policyTypeId : Nat}
variable {policyInstanceId : String}

theorem no_timer_after_store (follows : TimersFollowDeletes tracked)
    (last : tracked.last policyTypeId policyInstanceId = some .store) :
    ∀ timer ∈ tracked.world.timers,
      ¬ (timer.policyTypeId = policyTypeId ∧ timer.policyInstanceId = policyInstanceId) := by
  intro timer member same
  have deleted := follows.timers timer member
  rw [same.1, same.2, last] at deleted
  exact absurd deleted (by decide)

theorem allTimersSpare_of_plain (follows : TimersFollowDeletes tracked)
    (plain : PlainHandlers tracked.world.sdl)
    (last : tracked.last policyTypeId policyInstanceId = some .store) :
    AllTimersSpare settings tracked.world policyTypeId policyInstanceId := by
  intro index
  have effect := step_effect settings tracked.world (.timerExpiry index)
  generalize step settings tracked.world (.timerExpiry index) = after at effect
  cases effect with
  | expiryIdle => exact ⟨rfl, rfl, rfl⟩
  | expired _ timer found asleep =>
      have other := no_timer_after_store follows last timer (List.mem_of_getElem? found)
      have apart : ¬ (policyTypeId = timer.policyTypeId ∧
          policyInstanceId = timer.policyInstanceId) :=
        fun same => other ⟨same.1.symm, same.2.symm⟩
      refine ⟨by simp [apart], by simp [apart], ?_⟩
      exact search_expired_other plain (by simpa using apart)

theorem check_lays (settings : Settings) {world : World} {index : Nat} {timer : Timer}
    (found : world.timers[index]? = some timer)
    (valid : Valid world timer.policyTypeId timer.policyInstanceId) :
    (step settings world (.timerCheck index)).sdl = world.sdl ∧
      (step settings world (.timerCheck index)).timers[index]? =
        some { timer with asleep := true } := by
  cases asleep : timer.asleep with
  | true =>
      have idle : step settings world (.timerCheck index) = world := by
        simp [step, found, asleep]
      have laid : { timer with asleep := true } = timer := by
        rw [← asleep]
      rw [idle, laid]
      exact ⟨rfl, found⟩
  | false =>
      have laid : step settings world (.timerCheck index) =
          { world with
            timers := world.timers.set index { timer with asleep := true } } := by
        simp [step, found, asleep, instanceIsValid_run valid]
      have inside : index < world.timers.length := (List.getElem?_eq_some_iff.mp found).1
      rw [laid]
      exact ⟨rfl, List.getElem?_set_self inside⟩

theorem expiry_removes (settings : Settings) {world : World} {index : Nat} {timer : Timer}
    (found : world.timers[index]? = some timer) (asleep : timer.asleep = true) :
    (step settings world (.timerExpiry index)).sdl =
      expiredSdl world.sdl timer.policyTypeId timer.policyInstanceId := by
  simp [step, found, asleep, deleteExpired_run]

theorem store_validates {world : World} {body : Body} {creationTimestamp : String}
    (taken : accepted settings world
      (.storePolicyInstance policyTypeId policyInstanceId body creationTimestamp) = true) :
    (step settings world (.request (.storePolicyInstance policyTypeId policyInstanceId body
        creationTimestamp))).timers = world.timers ∧
      Valid (step settings world (.request (.storePolicyInstance policyTypeId policyInstanceId body
        creationTimestamp))) policyTypeId policyInstanceId := by
  rcases Option.isSome_iff_exists.mp (accepted_store.mp taken) with ⟨typeBody, typed⟩
  have stored : step settings world (.request (.storePolicyInstance policyTypeId policyInstanceId
      body creationTimestamp)) =
      { world with
        sdl := storedSdl world.sdl policyTypeId policyInstanceId body creationTimestamp } := by
    rw [step, program]
    simp only [Program.pure_eq, Program.run_bind_done]
    rw [storePolicyInstance_run body creationTimestamp typed]
  rw [stored]
  exact ⟨rfl, by simp [typed], by simp⟩

theorem pending_timer_removes {timer : Timer} {body : Body} {creationTimestamp : String}
    (member : timer ∈ tracked.world.timers)
    (same : timer.policyTypeId = policyTypeId ∧ timer.policyInstanceId = policyInstanceId)
    (taken : accepted settings tracked.world
      (.storePolicyInstance policyTypeId policyInstanceId body creationTimestamp) = true) :
    ∃ index,
      let after := Runs.run (Tracked.step settings) tracked
        [.request (.storePolicyInstance policyTypeId policyInstanceId body creationTimestamp),
          .timerCheck index, .timerExpiry index]
      after.last policyTypeId policyInstanceId = some .store ∧
        after.world.sdl.get (generateInstanceKey policyTypeId policyInstanceId) = none := by
  rcases same with ⟨rfl, rfl⟩
  rcases List.mem_iff_getElem?.mp member with ⟨index, found⟩
  refine ⟨index, ?_, ?_⟩
  · simp [Tracked.step, Tracked.noted, taken, Tracked.note]
  · rcases store_validates taken with ⟨timers, valid⟩
    rw [← timers] at found
    rcases check_lays settings found valid with ⟨sdl, laid⟩
    rw [Tracked.run_world, Runs.run_cons, Runs.run_cons, Runs.run_cons, Runs.run_nil,
      expiry_removes settings laid rfl, get_expired_instance]
    simp

end Expiry

/-- In every run in which no store meets a pending timer of its instance, an instance stored last
is held undeleted and keeps its entries when a timer expires. A store that meets one is removed. -/
theorem delayed_delete_spares_stored_instances (settings : Settings) :
    (∀ operations, Runs.Along (Tracked.step settings) (StoreMeetsNoTimer settings) Tracked.start
        operations →
      ∀ policyTypeId policyInstanceId,
        (Runs.run (Tracked.step settings) Tracked.start operations).last policyTypeId
            policyInstanceId = some .store →
          let world := Runs.run (step settings) World.empty operations
          HeldUndeleted world policyTypeId policyInstanceId ∧
            OwnTimersSpare settings world policyTypeId policyInstanceId ∧
            (Runs.Along (step settings) (PlainStatuses settings) World.empty operations →
              AllTimersSpare settings world policyTypeId policyInstanceId)) ∧
    (∀ operations policyTypeId policyInstanceId body creationTimestamp,
      accepted settings (Runs.run (step settings) World.empty operations)
          (.storePolicyInstance policyTypeId policyInstanceId body creationTimestamp) = true →
        (∃ timer ∈ (Runs.run (step settings) World.empty operations).timers,
          timer.policyTypeId = policyTypeId ∧ timer.policyInstanceId = policyInstanceId) →
        ∃ index,
          let after := Runs.run (Tracked.step settings) Tracked.start
            (operations ++ [.request (.storePolicyInstance policyTypeId policyInstanceId body
              creationTimestamp), .timerCheck index, .timerExpiry index])
          after.last policyTypeId policyInstanceId = some .store ∧
            after.world.sdl.get (generateInstanceKey policyTypeId policyInstanceId) = none) := by
  constructor
  · intro operations along policyTypeId policyInstanceId last
    have follows : TimersFollowDeletes
        (Runs.run (Tracked.step settings) Tracked.start operations) :=
      Runs.run_invariant TimersFollowDeletes
        (fun _ _ before allowed => timersFollowDeletes_step before allowed) Tracked.start operations
        timersFollowDeletes_start along
    have world : (Runs.run (Tracked.step settings) Tracked.start operations).world =
        Runs.run (step settings) World.empty operations := Tracked.run_world settings _ operations
    rw [← world]
    refine ⟨follows.stores policyTypeId policyInstanceId last, ?_, ?_⟩
    · intro index timer found same
      exact absurd same
        (no_timer_after_store follows last timer (List.mem_of_getElem? found))
    · intro plain
      have handlers := plainHandlers_run settings operations plain
      rw [← world] at handlers
      exact allTimersSpare_of_plain follows handlers last
  · intro operations policyTypeId policyInstanceId body creationTimestamp taken pending
    have world : (Runs.run (Tracked.step settings) Tracked.start operations).world =
        Runs.run (step settings) World.empty operations := Tracked.run_world settings _ operations
    rw [← world] at taken pending
    rcases pending with ⟨timer, member, same⟩
    rcases pending_timer_removes member same taken with ⟨index, removed⟩
    refine ⟨index, ?_⟩
    rw [Runs.run_append]
    exact removed

/-- A second PUT within the delay of a DELETE: the timer of the DELETE removes the new policy. -/
theorem recreated_policy_is_deleted :
    let operations : List Operation :=
      [.request (.storePolicyType 1 [("policy_type_id", .int 1)]),
        .request (.storePolicyInstance 1 "a" [] "0.0"),
        .request (.deletePolicyInstance 1 "a" "1.0"), .timerCheck 0,
        .request (.storePolicyInstance 1 "a" [] "2.0")]
    (Runs.run (Tracked.step {}) Tracked.start operations).last 1 "a" = some .store ∧
      HeldUndeleted (Runs.run (step {}) World.empty operations) 1 "a" ∧
      (Runs.run (step {}) World.empty (operations ++ [.timerExpiry 0])).sdl.get
        (generateInstanceKey 1 "a") = none ∧
      (Runs.run (step {}) World.empty (operations ++ [.timerExpiry 0])).sdl.get
        (generateInstanceMetadataKey 1 "a") = none := by
  refine ⟨by decide +kernel, ⟨⟨[], by decide +kernel⟩, "2.0", by decide +kernel⟩, ?_⟩
  exact ⟨by decide +kernel, by decide +kernel⟩

end NearRtRic.A1
