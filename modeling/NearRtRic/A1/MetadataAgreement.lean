import NearRtRic.A1.Outline

/-! An instance key and its metadata key are written and removed by separate calls. -/

namespace NearRtRic.A1

section Windows

variable (pool : Concurrent) (place : Place)

def Removing : Prop :=
  ∃ thread ∈ pool.threads, thread.rest.pending = some (.delete place.instanceKey) ∨
    thread.rest.pending = some (.delete place.metadataKey)

def CompletingStore : Prop :=
  ∃ thread ∈ pool.threads, ∃ created,
    thread.rest.pending = some (.set place.metadataKey (storedMetadata created))

def Storing : Prop :=
  (∃ thread ∈ pool.threads, ∃ value,
    thread.rest.pending = some (.set place.instanceKey value)) ∨ CompletingStore pool place

/-- A deletion or a status report that found the instance valid is about to read the metadata. -/
def ReadingMetadata : Prop :=
  ∃ thread ∈ pool.threads, thread.rest.pending = some (.get place.metadataKey)

def MarkingDeleted : Prop :=
  ∃ thread ∈ pool.threads, ∃ createdAt deleted,
    thread.rest.pending = some (.set place.metadataKey (deletedMetadata createdAt deleted))

/-- The removal of the two keys overlaps neither their writing nor a use of the metadata, and the
metadata is not read while a first store has yet to write it. -/
structure MetadataWindowsApart : Prop where
  stores : ¬ (Removing pool place ∧ Storing pool place)
  uses : ¬ (Removing pool place ∧ (ReadingMetadata pool place ∨ MarkingDeleted pool place))
  fresh : pool.state.sdl.get place.metadataKey = none →
    ¬ (CompletingStore pool place ∧ ReadingMetadata pool place)

end Windows

/-- Metadata that `delete_policy_instance` and `get_policy_instance_status` can use. -/
def Readable (metadata : Json) : Prop :=
  ∃ fields, metadata = .obj fields ∧ ∃ createdAt, metadata.getItem "created_at" = .ok createdAt

theorem readable_stored (created : String) : Readable (storedMetadata created) :=
  ⟨_, rfl, _, rfl⟩

theorem readable_deleted (createdAt : Json) (deleted : String) :
    Readable (deletedMetadata createdAt deleted) :=
  ⟨_, rfl, _, rfl⟩

def IsObject (value : Json) : Prop := ∃ fields, value = .obj fields

theorem setItem_object {value : Json} (object : IsObject value) (key : String) (item : Json) :
    ∃ marked, value.setItem key item = .ok marked ∧ IsObject marked := by
  rcases object with ⟨fields, rfl⟩
  rw [Json.setItem]
  split
  · exact ⟨_, rfl, _, rfl⟩
  · exact ⟨_, rfl, _, rfl⟩

/-- Both keys of the instance are held, with readable metadata, or neither is. -/
structure Settled (world : World) (place : Place) : Prop where
  agree : (world.sdl.get place.instanceKey).isSome ↔ (world.sdl.get place.metadataKey).isSome
  readable : ∀ metadata, world.sdl.get place.metadataKey = some metadata → Readable metadata

def metadataAssertion (place : Place) (world : World) : Point → Prop
  | .storeMetadata _ _ _ _ => (world.sdl.get place.instanceKey).isSome
  | .timerDeleteMetadata _ _ => world.sdl.get place.instanceKey = none
  | .deleteReadMetadata _ _ => (world.sdl.get place.instanceKey).isSome
  | .deleteWriteMetadata _ _ _ =>
      (world.sdl.get place.instanceKey).isSome ∧ (world.sdl.get place.metadataKey).isSome
  | .reportReadMetadata _ => (world.sdl.get place.instanceKey).isSome
  | .reportCheckType _ check metadata => check = .statuses → IsObject metadata
  | .reportCheckInstance _ check metadata => check = .statuses → IsObject metadata
  | .reportScan _ metadata => IsObject metadata
  | .raised error => ∀ itemError, error ≠ .item itemError
  | _ => True

structure MetadataInvariant (settings : Settings) (place : Place) (pool : Concurrent) : Prop where
  tags : TagsOn place pool
  placed : Placed settings (metadataAssertion place) pool
  unfinishedStore : (pool.state.sdl.get place.instanceKey).isSome →
    pool.state.sdl.get place.metadataKey = none → CompletingStore pool place
  unfinishedRemoval : pool.state.sdl.get place.instanceKey = none →
    (pool.state.sdl.get place.metadataKey).isSome →
      ∃ thread ∈ pool.threads, thread.rest.pending = some (.delete place.metadataKey)
  readable : ∀ metadata, pool.state.sdl.get place.metadataKey = some metadata → Readable metadata

section Outline

variable {settings : Settings} {place : Place} {pool : Concurrent} {thread : JobThread}
variable {point : Point} {request : Call}

theorem metadataAssertion_start {job : Job} (on : job.On place) (world : World) :
    metadataAssertion place world (Point.start job) := by
  cases job with
  | timer => trivial
  | request request =>
      cases request with
      | storePolicyType => exact absurd on id
      | getPolicyInstanceStatus => exact fun entry => absurd entry (by decide)
      | _ => trivial

/-- A reader of the metadata finds it: where it is absent a first store has yet to write it. -/
theorem metadata_found (invariant : MetadataInvariant settings place pool)
    (apart : MetadataWindowsApart pool place)
    (held : (pool.state.sdl.get place.instanceKey).isSome)
    (reading : ReadingMetadata pool place) :
    ∃ metadata, pool.state.sdl.get place.metadataKey = some metadata ∧ Readable metadata := by
  cases found : pool.state.sdl.get place.metadataKey with
  | some metadata => exact ⟨metadata, rfl, invariant.readable metadata found⟩
  | none => exact absurd ⟨invariant.unfinishedStore held found, reading⟩ (apart.fresh found)

theorem metadataAssertion_own (invariant : MetadataInvariant settings place pool)
    (apart : MetadataWindowsApart pool place) (member : thread ∈ pool.threads)
    (located : Located settings thread point)
    (asserted : metadataAssertion place pool.state point) (asks : point.request = some request) :
    metadataAssertion place (service.effect request pool.state)
      (point.after settings pool.state) := by
  have on := fun job (inJob : point.job = some job) =>
    job_on invariant.tags member located inJob
  have pending := located.pending
  cases point with
  | storeInstance started body created operation =>
      cases Option.some.inj asks
      have same : started = place := on _ rfl
      rw [same]
      exact Option.isSome_of_mem (KeyValue.get_set_same _ _ _)
  | timerDeleteInstance started ttl =>
      cases Option.some.inj asks
      have same : started = place := on _ rfl
      rw [same]
      exact KeyValue.get_delete_same _ _
  | deleteCheckInstance started deleted check =>
      cases Option.some.inj asks
      have same : started = place := on _ rfl
      simp only [Point.after, same]
      cases held : pool.state.sdl.get place.instanceKey with
      | none => intro itemError; simp
      | some value =>
          cases check with
          | metadata => exact Option.isSome_of_mem held
          | _ => trivial
  | reportCheckInstance started check metadata =>
      cases Option.some.inj asks
      have same : started = place := on _ rfl
      simp only [Point.after, same]
      cases held : pool.state.sdl.get place.instanceKey with
      | none => intro itemError; simp
      | some value =>
          cases check with
          | entry => exact fun entry => absurd entry (by decide)
          | metadata => exact Option.isSome_of_mem held
          | statuses => exact asserted rfl
  | deleteReadMetadata started deleted =>
      cases Option.some.inj asks
      have same : started = place := on _ rfl
      subst same
      rcases metadata_found invariant apart asserted ⟨thread, member, pending⟩ with
        ⟨metadata, found, _, _, createdAt, created⟩
      simp only [Point.after, found, Option.getD_some, created, Point.afterItem]
      exact ⟨asserted, Option.isSome_of_mem found⟩
  | reportReadMetadata started =>
      cases Option.some.inj asks
      have same : started = place := on _ rfl
      subst same
      rcases metadata_found invariant apart asserted ⟨thread, member, pending⟩ with
        ⟨metadata, found, fields, object, _⟩
      rcases setItem_object ⟨fields, object⟩ "instance_status" (.str "NOT IN EFFECT") with
        ⟨marked, set, markedObject⟩
      simp only [Point.after, found, Option.getD_some, set, Point.afterItem]
      exact fun _ => markedObject
  | reportScan started metadata =>
      rcases setItem_object asserted "instance_status" (.str "IN EFFECT") with ⟨marked, set, _⟩
      simp only [Point.after, set, Point.afterItem]
      split <;> trivial
  | reportCheckType started check metadata =>
      simp only [Point.after]
      split
      · intro itemError; simp
      · exact asserted
  | raised error => exact absurd asks (by simp [Point.request])
  | _ =>
      simp only [Point.after, Point.afterStoreScan, Point.afterTimerScan, Point.typeMissing,
        Point.instanceMissing]
      repeat' split
      all_goals first | trivial | simp [metadataAssertion]

theorem metadataAssertion_free {other : JobThread} {otherPoint : Point}
    (tags : TagsOn place pool) (apart : MetadataWindowsApart pool place)
    (member : thread ∈ pool.threads) (otherMember : other ∈ pool.threads)
    (located : Located settings thread point) (otherLocated : Located settings other otherPoint)
    (asserted : metadataAssertion place pool.state otherPoint)
    (asks : point.request = some request) :
    metadataAssertion place (service.effect request pool.state) otherPoint := by
  have otherOn := fun job (inJob : otherPoint.job = some job) =>
    job_on tags otherMember otherLocated inJob
  have otherPending := otherLocated.pending
  have pending := located.pending
  -- what a timer at its last calls removes
  have removesInstance : (∃ ttl, point = .timerDeleteInstance place ttl) → Removing pool place := by
    intro removing
    rcases removing with ⟨ttl, rfl⟩
    exact ⟨thread, member, .inl pending⟩
  have removesMetadata : (∃ ttl, point = .timerDeleteMetadata place ttl) → Removing pool place := by
    intro removing
    rcases removing with ⟨ttl, rfl⟩
    exact ⟨thread, member, .inr pending⟩
  have instanceHeld : ¬ Removing pool place → (pool.state.sdl.get place.instanceKey).isSome →
      ((service.effect request pool.state).sdl.get place.instanceKey).isSome := by
    intro safe held
    exact instance_kept located.sound asks
      (fun ttl same => safe (removesInstance ⟨ttl, same⟩)) held
  cases otherPoint with
  | storeMetadata started body created operation =>
      have same : started = place := otherOn _ rfl
      subst same
      apply instanceHeld _ asserted
      intro removing
      exact apart.stores ⟨removing, .inr ⟨other, otherMember, created, otherPending⟩⟩
  | timerDeleteMetadata started ttl =>
      have same : started = place := otherOn _ rfl
      subst same
      apply instance_still_absent asks _ asserted
      intro body created operation storing
      subst storing
      exact apart.stores ⟨⟨other, otherMember, .inr otherPending⟩,
        .inl ⟨thread, member, _, pending⟩⟩
  | deleteReadMetadata started deleted =>
      have same : started = place := otherOn _ rfl
      subst same
      apply instanceHeld _ asserted
      intro removing
      exact apart.uses ⟨removing, .inl ⟨other, otherMember, otherPending⟩⟩
  | reportReadMetadata started =>
      have same : started = place := otherOn _ rfl
      subst same
      apply instanceHeld _ asserted
      intro removing
      exact apart.uses ⟨removing, .inl ⟨other, otherMember, otherPending⟩⟩
  | deleteWriteMetadata started deleted createdAt =>
      have same : started = place := otherOn _ rfl
      subst same
      have safe : ¬ Removing pool started := by
        intro removing
        exact apart.uses ⟨removing, .inr ⟨other, otherMember, createdAt, deleted, otherPending⟩⟩
      refine ⟨instanceHeld safe asserted.1, ?_⟩
      exact metadata_kept located.sound asks
        (fun ttl same => safe (removesMetadata ⟨ttl, same⟩)) asserted.2
  | _ => exact asserted

end Outline

section Step

variable {settings : Settings} {place : Place} {pool after : Concurrent} {index : Nat}
variable {thread : JobThread} {point : Point} {request : Call}

theorem unfinishedStore_turn (invariant : MetadataInvariant settings place pool)
    (turn : Turned settings (metadataAssertion place) pool after index thread point request)
    (held : (after.state.sdl.get place.instanceKey).isSome)
    (absent : after.state.sdl.get place.metadataKey = none) : CompletingStore after place := by
  rw [turn.state] at held absent
  by_cases storing : ∃ body created operation, point = .storeInstance place body created operation
  · rcases storing with ⟨body, created, operation, rfl⟩
    rcases turn.turned with ⟨later, found, located⟩
    exact ⟨later, List.mem_of_getElem? found, created, located.pending⟩
  · have before : (pool.state.sdl.get place.instanceKey).isSome := by
      by_contra missing
      have still := instance_still_absent turn.asks
        (fun body created operation same => storing ⟨body, created, operation, same⟩)
        (Option.not_isSome_iff_eq_none.mp missing)
      rw [still] at held
      exact absurd held (by simp)
    have unwritten : pool.state.sdl.get place.metadataKey = none := by
      by_contra written
      by_cases removing : ∃ ttl, point = .timerDeleteMetadata place ttl
      · rcases removing with ⟨ttl, rfl⟩
        have gone : pool.state.sdl.get place.instanceKey = none := turn.asserted
        rw [gone] at before
        exact absurd before (by simp)
      · have still := metadata_kept turn.located.sound turn.asks
          (fun ttl same => removing ⟨ttl, same⟩) (Option.isSome_iff_ne_none.mpr written)
        rw [absent] at still
        exact absurd still (by simp)
    rcases invariant.unfinishedStore before unwritten with ⟨waiting, member, created, pending⟩
    refine ⟨waiting, turn.waiting member pending ?_, created, pending⟩
    intro same
    rw [← same, service_effect_set, KeyValue.get_set_same] at absent
    exact absurd absent (by simp)

theorem unfinishedRemoval_turn (invariant : MetadataInvariant settings place pool)
    (turn : Turned settings (metadataAssertion place) pool after index thread point request)
    (absent : after.state.sdl.get place.instanceKey = none)
    (held : (after.state.sdl.get place.metadataKey).isSome) :
    ∃ waiting ∈ after.threads, waiting.rest.pending = some (.delete place.metadataKey) := by
  rw [turn.state] at held absent
  by_cases removing : ∃ ttl, point = .timerDeleteInstance place ttl
  · rcases removing with ⟨ttl, rfl⟩
    rcases turn.turned with ⟨later, found, located⟩
    exact ⟨later, List.mem_of_getElem? found, located.pending⟩
  · have before : pool.state.sdl.get place.instanceKey = none := by
      by_contra present
      have still := instance_kept turn.located.sound turn.asks
        (fun ttl same => removing ⟨ttl, same⟩) (Option.isSome_iff_ne_none.mpr present)
      rw [absent] at still
      exact absurd still (by simp)
    have written : (pool.state.sdl.get place.metadataKey).isSome := by
      by_contra unwritten
      have writes : ∃ value, request = .set place.metadataKey value := by
        by_contra unset
        have still := absent_after_call (Option.not_isSome_iff_eq_none.mp unwritten)
          (fun value same => unset ⟨value, same⟩)
        rw [still] at held
        exact absurd held (by simp)
      rcases writes with ⟨value, same⟩
      have asserted := turn.asserted
      -- both writers of the metadata rely on the instance
      have present : (pool.state.sdl.get place.instanceKey).isSome := by
        rcases sets_metadataKey (turn.asks.trans (congrArg some same)) with
          ⟨body, created, operation, storing, _⟩ | ⟨deleted, createdAt, marking, _⟩
        · rw [storing] at asserted
          exact asserted
        · rw [marking] at asserted
          exact asserted.1
      rw [before] at present
      exact absurd present (by simp)
    rcases invariant.unfinishedRemoval before written with ⟨waiting, member, pending⟩
    refine ⟨waiting, turn.waiting member pending ?_, pending⟩
    intro same
    rw [← same, service_effect_delete, KeyValue.get_delete_same] at held
    exact absurd held (by simp)

theorem readable_turn (invariant : MetadataInvariant settings place pool)
    (turn : Turned settings (metadataAssertion place) pool after index thread point request)
    {metadata : Json} (found : after.state.sdl.get place.metadataKey = some metadata) :
    Readable metadata := by
  rw [turn.state] at found
  by_cases writes : ∃ value, request = .set place.metadataKey value
  · rcases writes with ⟨value, same⟩
    rw [same, service_effect_set, KeyValue.get_set_same] at found
    cases Option.some.inj found
    rcases sets_metadataKey (turn.asks.trans (congrArg some same)) with
      ⟨body, created, operation, _, rfl⟩ | ⟨deleted, createdAt, _, rfl⟩
    · exact readable_stored created
    · exact readable_deleted createdAt deleted
  · apply invariant.readable metadata
    cases request with
    | set key value =>
        have differ : place.metadataKey ≠ key := fun same => writes ⟨value, by rw [same]⟩
        rwa [service_effect_set, KeyValue.get_set_other _ _ differ] at found
    | delete key =>
        rw [service_effect_delete, KeyValue.get_delete] at found
        split at found
        · exact absurd found (by simp)
        · exact found
    | _ => exact found

theorem metadataInvariant_step {event : Pool.Event Job}
    (invariant : MetadataInvariant settings place pool) (begins : BeginsOn place event)
    (apart : MetadataWindowsApart pool place) :
    MetadataInvariant settings place (Concurrent.step settings pool event) where
  tags := tagsOn_step invariant.placed.points invariant.tags begins
  placed := by
    apply placed_step invariant.placed
    · intro job begun
      exact metadataAssertion_start (begins job begun) pool.state
    · intro thread member point request located asserted asks
      exact metadataAssertion_own invariant apart member located asserted asks
    · intro thread member other otherMember point otherPoint request located otherLocated _ asserted
        asks
      exact metadataAssertion_free invariant.tags apart member otherMember located otherLocated
        asserted asks
    · intro _ _ _ _ _ _
      trivial
  unfinishedStore := by
    intro held absent
    rcases event_cases invariant.placed event with ⟨same, kept⟩ | ⟨index, thread, point, request,
      turn⟩
    · rw [same] at held absent
      rcases invariant.unfinishedStore held absent with ⟨waiting, member, created, pending⟩
      exact ⟨waiting, kept waiting member, created, pending⟩
    · exact unfinishedStore_turn invariant turn held absent
  unfinishedRemoval := by
    intro absent held
    rcases event_cases invariant.placed event with ⟨same, kept⟩ | ⟨index, thread, point, request,
      turn⟩
    · rw [same] at held absent
      rcases invariant.unfinishedRemoval absent held with ⟨waiting, member, pending⟩
      exact ⟨waiting, kept waiting member, pending⟩
    · exact unfinishedRemoval_turn invariant turn absent held
  readable := by
    intro metadata found
    rcases event_cases invariant.placed event with ⟨same, _⟩ | ⟨index, thread, point, request, turn⟩
    · rw [same] at found
      exact invariant.readable metadata found
    · exact readable_turn invariant turn found

theorem metadataInvariant_start (settings : Settings) {world : World}
    (settled : Settled world place) :
    MetadataInvariant settings place (Concurrent.start world) where
  tags := by
    intro thread member
    exact absurd member List.not_mem_nil
  placed := placed_start settings _ world
  unfinishedStore := by
    intro held absent
    have present := settled.agree.mp held
    rw [show world.sdl.get place.metadataKey = none from absent] at present
    exact absurd present (by simp)
  unfinishedRemoval := by
    intro absent held
    have present := settled.agree.mpr held
    rw [show world.sdl.get place.instanceKey = none from absent] at present
    exact absurd present (by simp)
  readable := settled.readable

end Step

/-- No call ended with a subscription of something that is not there. -/
def NoItemError (pool : Concurrent) : Prop :=
  ∀ thread ∈ pool.threads, ∀ error, thread.rest ≠ .raise (.item error)

/-- In every interleaving on an instance that keeps the windows apart, the two keys agree whenever
no call is in progress, and no call has used absent metadata. -/
theorem metadata_agrees_while_windows_apart (settings : Settings) (place : Place) (world : World)
    (events : List (Pool.Event Job)) (settled : Settled world place)
    (along : Runs.Along (Concurrent.step settings)
      (fun pool event => BeginsOn place event ∧ MetadataWindowsApart pool place)
      (Concurrent.start world) events) :
    let pool := Runs.run (Concurrent.step settings) (Concurrent.start world) events
    (pool.Quiescent → ((pool.state.sdl.get place.instanceKey).isSome ↔
        (pool.state.sdl.get place.metadataKey).isSome)) ∧
      NoItemError pool := by
  have invariant := Runs.run_invariant (MetadataInvariant settings place)
    (fun _ _ before allowed => metadataInvariant_step before allowed.1 allowed.2)
    (Concurrent.start world) events (metadataInvariant_start settings settled) along
  constructor
  · intro quiescent
    constructor
    · intro held
      by_contra absent
      rcases invariant.unfinishedStore held (Option.not_isSome_iff_eq_none.mp absent) with
        ⟨waiting, member, created, pending⟩
      rw [quiescent waiting member] at pending
      exact absurd pending (by simp)
    · intro held
      by_contra absent
      rcases invariant.unfinishedRemoval (Option.not_isSome_iff_eq_none.mp absent) held with
        ⟨waiting, member, pending⟩
      rw [quiescent waiting member] at pending
      exact absurd pending (by simp)
  · intro thread member error raised
    rcases invariant.placed thread member with ⟨point, located, asserted⟩
    have follows := located.follows
    rw [raised] at follows
    cases follows
    exact asserted error rfl

/-- One thread waits to delete a key, the other to write one or to read the metadata; or one to
write the metadata and the other to read it. -/
def metadataClash (place : Place) (thread other : JobThread) : Bool :=
  match thread.rest.pending, other.rest.pending with
  | some (.delete _), some (.set _ _) => true
  | some (.delete _), some (.get key) => key = place.metadataKey
  | some (.set key _), some (.get read) => key = place.metadataKey ∧ read = place.metadataKey
  | _, _ => false

theorem windows_apart_of_clear {pool : Concurrent} {place : Place}
    (clear : Clear (metadataClash place) pool) : MetadataWindowsApart pool place := by
  constructor
  · rintro ⟨⟨thread, member, removes⟩, stores⟩
    rcases stores with ⟨other, otherMember, value, stores⟩ | ⟨other, otherMember, created, stores⟩
    all_goals
      have apart := clear thread member other otherMember
      rcases removes with removes | removes <;> simp [metadataClash, removes, stores] at apart
  · rintro ⟨⟨thread, member, removes⟩, uses⟩
    rcases uses with ⟨other, otherMember, reads⟩ | ⟨other, otherMember, createdAt, deleted, reads⟩
    all_goals
      have apart := clear thread member other otherMember
      rcases removes with removes | removes <;> simp [metadataClash, removes, reads] at apart
  · rintro _ ⟨⟨thread, member, created, completes⟩, other, otherMember, reads⟩
    have apart := clear thread member other otherMember
    simp [metadataClash, completes, reads] at apart

theorem metadata_agrees_over_whole_life :
    let pool := Runs.run (Concurrent.step {}) (Concurrent.start oneTypeWorld) wholeLife
    (pool.state.sdl.get (Place.instanceKey ⟨1, "a"⟩)).isSome ∧
      (pool.state.sdl.get (Place.metadataKey ⟨1, "a"⟩)).isSome ∧ NoItemError pool := by
  have settled : Settled oneTypeWorld ⟨1, "a"⟩ := by
    constructor
    · decide +kernel
    · intro metadata found
      have absent : oneTypeWorld.sdl.get (Place.metadataKey ⟨1, "a"⟩) = none := by decide +kernel
      rw [absent] at found
      exact absurd found (by simp)
  have agrees := metadata_agrees_while_windows_apart {} ⟨1, "a"⟩ oneTypeWorld wholeLife settled
    (along_of_clear windows_apart_of_clear (by decide +kernel))
  have quiescent : Concurrent.Quiescent
      (Runs.run (Concurrent.step {}) (Concurrent.start oneTypeWorld) wholeLife) := by
    rw [Concurrent.Quiescent]
    decide +kernel
  have held : ((Runs.run (Concurrent.step {}) (Concurrent.start oneTypeWorld)
      wholeLife).state.sdl.get (Place.instanceKey ⟨1, "a"⟩)).isSome := by decide +kernel
  exact ⟨held, (agrees.1 quiescent).mp held, agrees.2⟩

/-- A PUT between the two deletions of a timer: the instance is left without metadata, and the next
DELETE subscripts `None`. -/
theorem timer_strips_metadata :
    let world := Runs.run (step {}) World.empty
      [.request (.storePolicyType 1 [("policy_type_id", .int 1)]),
        .request (.storePolicyInstance 1 "a" [] "0.0")]
    let overlapping : List (Pool.Event Job) :=
      .begin (.request (.deletePolicyInstance 1 "a" "1.0")) :: List.replicate 10 (.turn 0) ++
        List.replicate 4 (.turn 1) ++
        .begin (.request (.storePolicyInstance 1 "a" [] "2.0")) :: List.replicate 3 (.turn 2) ++
        [.turn 1, .turn 2, .turn 2, .turn 1]
    let pool := Runs.run (Concurrent.step {}) (Concurrent.start world) overlapping
    let later := Runs.run (Concurrent.step {}) pool
      (.begin (.request (.deletePolicyInstance 1 "a" "3.0")) :: List.replicate 5 (.turn 3))
    pool.Quiescent ∧ (pool.state.sdl.get (Place.instanceKey ⟨1, "a"⟩)).isSome ∧
      pool.state.sdl.get (Place.metadataKey ⟨1, "a"⟩) = none ∧ ¬ NoItemError later := by
  intro world overlapping pool later
  refine ⟨?_, by decide +kernel, by decide +kernel, ?_⟩
  · rw [Concurrent.Quiescent]
    decide +kernel
  · intro noError
    have ended : ∃ thread ∈ later.threads,
        thread.rest.outcome = some (.error (.item .typeError)) := by decide +kernel
    rcases ended with ⟨thread, member, raised⟩
    exact noError thread member .typeError (Program.eq_raise_of_outcome raised)

end NearRtRic.A1
