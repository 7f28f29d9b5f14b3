import NearRtRic.A1.Outline
import NearRtRic.A1.StatusIsolation

/-! Statuses that outlive their instance, and what a new instance finds of them. -/

namespace NearRtRic.A1

def NoHandlers (world : World) (place : Place) : Prop :=
  ∀ key, Text.startswith key place.handlerPrefix = true → world.sdl.get key = none

def NoOkHandlers (world : World) (place : Place) : Prop :=
  ∀ key, Text.startswith key place.handlerPrefix = true →
    world.sdl.get key ≠ some (.str "OK")

theorem NoHandlers.noOk {world : World} {place : Place} (none : NoHandlers world place) :
    NoOkHandlers world place := by
  intro key starts
  rw [none key starts]
  simp

section Windows

variable (pool : Concurrent) (place : Place)

/-- A timer has searched the handlers and has not deleted the instance yet. -/
def BoundToDelete : Prop :=
  ∃ thread ∈ pool.threads, ∃ ttl key,
    thread.tag = .timer place.policyTypeId place.policyInstanceId ttl ∧
      thread.rest.pending = some (.delete key) ∧ key ≠ place.metadataKey

/-- A status is about to be written: its instance was found. -/
def WritingStatus : Prop :=
  ∃ thread ∈ pool.threads, ∃ handlerId status,
    thread.rest.pending = some (.set (place.handlerKey handlerId) status)

/-- The thread is about to write the instance key and will answer "CREATE". -/
def Creates (thread : JobThread) : Prop :=
  (∃ body created, thread.tag = .request
      (.storePolicyInstance place.policyTypeId place.policyInstanceId body created)) ∧
    (∃ value, thread.rest.pending = some (.set place.instanceKey value)) ∧
    (thread.rest.run service pool.state).1 = .ok (.str "CREATE")

def ReportsOk (thread : JobThread) : Prop :=
  (∃ handlerId, thread.tag = .request (.setPolicyInstanceStatus place.policyTypeId
    place.policyInstanceId handlerId (.str "OK"))) ∧ thread.rest.pending ≠ none

/-- A status "OK" for the instance is in progress. -/
def ReportingOk : Prop := ∃ thread ∈ pool.threads, ReportsOk place thread

structure StatusWindowsApart : Prop where
  deletions : ¬ (BoundToDelete pool place ∧ WritingStatus pool place)
  creations : ¬ ((∃ thread ∈ pool.threads, Creates pool place thread) ∧ ReportingOk pool place)

end Windows

/-- What a thread relies on at a point, in a run about the instance. -/
def statusAssertion (place : Place) (world : World) : Point → Prop
  | .statusWrite _ _ _ => (world.sdl.get place.instanceKey).isSome
  | .timerClear _ _ key keys => ∀ found, Text.startswith found place.handlerPrefix = true →
      (world.sdl.get found).isSome → found ∈ key :: keys
  | .timerDeleteInstance _ _ => NoHandlers world place
  | .storeInstance _ _ _ operation => operation = "CREATE" → NoOkHandlers world place
  | _ => True

structure StatusInvariant (settings : Settings) (place : Place) (pool : Concurrent) : Prop where
  tags : TagsOn place pool
  placed : Placed settings (statusAssertion place) pool
  clean : pool.state.sdl.get place.instanceKey = none → NoHandlers pool.state place

section Outline

variable {settings : Settings} {place : Place} {pool : Concurrent} {thread : JobThread}
variable {point : Point} {request : Call}

theorem sets_handlerKey {key : String} {value : Json}
    (starts : Text.startswith key place.handlerPrefix = true)
    (asks : point.request = some (.set key value)) :
    ∃ written handlerId, point = .statusWrite written handlerId value ∧
      key = written.handlerKey handlerId := by
  rcases set_cases asks with ⟨other, body, _, same⟩ | ⟨other, body, created, operation, _, same⟩ |
    ⟨other, body, created, operation, _, same, _⟩ | ⟨other, deleted, createdAt, _, same, _⟩ | written
  · rw [same, Place.handlerPrefix, type_key_not_handler] at starts
    exact Bool.noConfusion starts
  · rw [same, Place.instanceKey_not_handler] at starts
    exact Bool.noConfusion starts
  · rw [same, Place.metadataKey_not_handler] at starts
    exact Bool.noConfusion starts
  · rw [same, Place.metadataKey_not_handler] at starts
    exact Bool.noConfusion starts
  · exact written

theorem handler_before {world : World} {key : String}
    (starts : Text.startswith key place.handlerPrefix = true)
    (asks : point.request = some request)
    (quiet : ∀ written handlerId status, point ≠ .statusWrite written handlerId status)
    {value : Json} (held : (service.effect request world).sdl.get key = some value) :
    world.sdl.get key = some value := by
  cases request with
  | set other written =>
      by_cases same : key = other
      · subst same
        rcases sets_handlerKey starts asks with ⟨place, handlerId, writing, _⟩
        exact absurd writing (quiet place handlerId written)
      · rwa [service_effect_set, KeyValue.get_set_other _ _ same] at held
  | delete other =>
      rw [service_effect_delete, KeyValue.get_delete] at held
      split at held
      · exact absurd held (by simp)
      · exact held
  | _ => exact held

theorem noHandlers_kept {world : World} (asks : point.request = some request)
    (quiet : ∀ written handlerId status, point ≠ .statusWrite written handlerId status)
    (none : NoHandlers world place) : NoHandlers (service.effect request world) place := by
  intro key starts
  by_contra held
  rcases Option.ne_none_iff_exists'.mp held with ⟨value, found⟩
  have before := handler_before starts asks quiet found
  rw [none key starts] at before
  exact absurd before (by simp)

theorem statusAssertion_start {job : Job} (world : World) :
    statusAssertion place world (Point.start job) := by
  cases job with
  | timer => trivial
  | request request =>
      cases request with
      | storePolicyType policyTypeId body =>
          obtain reads | ⟨error, raises⟩ := Point.start_storePolicyType policyTypeId body
          · rw [reads]
            trivial
          · rw [raises]
            trivial
      | _ => trivial

/-- Behind the search or a deletion of a timer, the keys still to be deleted are the handlers that
are held. -/
theorem timerScan_assertion {world : World} {ttl : Int} {keys : List String}
    (listed : ∀ found, Text.startswith found place.handlerPrefix = true →
      (world.sdl.get found).isSome → found ∈ keys) :
    statusAssertion place world (Point.afterTimerScan place ttl keys) := by
  cases keys with
  | cons key keys => exact listed
  | nil =>
      intro found starts
      by_contra held
      exact absurd (listed found starts (Option.isSome_iff_ne_none.mpr held)) List.not_mem_nil

theorem statusAssertion_own (invariant : StatusInvariant settings place pool)
    (member : thread ∈ pool.threads) (located : Located settings thread point)
    (asserted : statusAssertion place pool.state point) (asks : point.request = some request) :
    statusAssertion place (service.effect request pool.state)
      (point.after settings pool.state) := by
  have on := fun job (inJob : point.job = some job) =>
    job_on invariant.tags member located inJob
  cases point with
  | statusCheckInstance started handlerId status =>
      cases Option.some.inj asks
      have same : started = place := on _ rfl
      simp only [Point.after, same]
      cases held : pool.state.sdl.get place.instanceKey with
      | none => trivial
      | some value => exact Option.isSome_of_mem held
  | timerScan started ttl =>
      cases Option.some.inj asks
      have same : started = place := on _ rfl
      rw [same]
      apply timerScan_assertion
      intro found starts held
      exact (KeyValue.mem_findAndGet_keys _ _ _).mpr ⟨held, starts⟩
  | timerClear started ttl key keys =>
      cases Option.some.inj asks
      have same : started = place := on _ rfl
      rw [same]
      apply timerScan_assertion
      intro found starts held
      rw [service_effect_delete, KeyValue.get_delete] at held
      split at held
      · exact absurd held (by simp)
      · next differ =>
          exact (List.mem_cons.mp (asserted found starts held)).resolve_left differ
  | storeRead started body created =>
      cases Option.some.inj asks
      have same : started = place := on _ rfl
      simp only [Point.after, same]
      cases held : pool.state.sdl.get place.instanceKey with
      | none => exact fun _ => (invariant.clean held).noOk
      | some value => trivial
  | storeScan started body created =>
      rw [Point.after]
      cases (pool.state.sdl.findAndGet started.handlerPrefix).map Prod.fst with
      | nil => exact fun update => absurd update (by decide)
      | cons key keys => trivial
  | storeClear started body created key keys =>
      cases keys with
      | nil => exact fun update => absurd update (by decide)
      | cons next keys => trivial
  | _ =>
      simp only [Point.after, Point.afterItem]
      repeat' split
      all_goals trivial

theorem creates_of_located {body : Body} {created : String} (member : thread ∈ pool.threads)
    (located : Located settings thread (.storeInstance place body created "CREATE")) :
    ∃ creator ∈ pool.threads, Creates pool place creator := by
  refine ⟨thread, member, ⟨body, created, located.tagged _ rfl⟩, ⟨.obj body, located.pending⟩, ?_⟩
  rcases located.follows.run_next rfl pool.state with ⟨middle, writes, ran⟩
  rcases writes.run_next rfl (service.effect (.set place.instanceKey (.obj body)) pool.state) with
    ⟨last, ended, again⟩
  rw [ran, again, ended.run_returned]

theorem statusAssertion_free {other : JobThread} {otherPoint : Point} (tags : TagsOn place pool)
    (apart : StatusWindowsApart pool place) (member : thread ∈ pool.threads)
    (otherMember : other ∈ pool.threads) (located : Located settings thread point)
    (otherLocated : Located settings other otherPoint)
    (asserted : statusAssertion place pool.state otherPoint)
    (asks : point.request = some request) :
    statusAssertion place (service.effect request pool.state) otherPoint := by
  have on := fun job (inJob : point.job = some job) => job_on tags member located inJob
  have otherOn := fun job (inJob : otherPoint.job = some job) =>
    job_on tags otherMember otherLocated inJob
  have pending := located.pending
  have otherPending := otherLocated.pending
  have writing : (∃ written handlerId status, point = .statusWrite written handlerId status) →
      WritingStatus pool place := by
    intro writes
    rcases writes with ⟨written, handlerId, status, rfl⟩
    have same : written = place := on _ rfl
    subst same
    exact ⟨thread, member, handlerId, status, pending⟩
  have quiet : ¬ WritingStatus pool place →
      ∀ written handlerId status, point ≠ .statusWrite written handlerId status := by
    intro none written handlerId status same
    exact none (writing ⟨written, handlerId, status, same⟩)
  cases otherPoint with
  | statusWrite written handlerId status =>
      have same : written = place := otherOn _ rfl
      subst same
      apply instance_kept located.sound asks _ asserted
      intro ttl deleting
      subst deleting
      exact apart.deletions ⟨⟨thread, member, ttl, _, located.tagged _ rfl, pending,
        instance_ne_metadata _ _ _ _⟩, other, otherMember, handlerId, status, otherPending⟩
  | timerClear started ttl key keys =>
      have same : started = place := otherOn _ rfl
      subst same
      have differ : key ≠ started.metadataKey :=
        Text.ne_of_startswith (otherLocated.sound key List.mem_cons_self)
          Place.metadataKey_not_handler
      have none : ¬ WritingStatus pool started := fun writes => apart.deletions
        ⟨⟨other, otherMember, ttl, key, otherLocated.tagged _ rfl, otherPending, differ⟩, writes⟩
      intro found starts held
      rcases Option.isSome_iff_exists.mp held with ⟨value, present⟩
      have before := handler_before starts asks (quiet none) present
      exact asserted found starts (Option.isSome_of_mem before)
  | timerDeleteInstance started ttl =>
      have same : started = place := otherOn _ rfl
      subst same
      have none : ¬ WritingStatus pool started := fun writes => apart.deletions
        ⟨⟨other, otherMember, ttl, _, otherLocated.tagged _ rfl, otherPending,
          instance_ne_metadata _ _ _ _⟩, writes⟩
      exact noHandlers_kept asks (quiet none) asserted
  | storeInstance started body created operation =>
      have same : started = place := otherOn _ rfl
      subst same
      intro creates
      subst creates
      intro key starts ok
      cases request with
      | set written value =>
          by_cases sameKey : key = written
          · -- the write of an "OK" inside the window of a creation
            subst sameKey
            rw [service_effect_set, KeyValue.get_set_same] at ok
            cases Option.some.inj ok
            rcases sets_handlerKey starts asks with ⟨place, handlerId, writes, _⟩
            subst writes
            have here : place = started := on _ rfl
            subst here
            refine apart.creations ⟨creates_of_located otherMember otherLocated, thread, member,
              ⟨handlerId, located.tagged _ rfl⟩, ?_⟩
            rw [pending]
            simp [Point.request]
          · rw [service_effect_set, KeyValue.get_set_other _ _ sameKey] at ok
            exact asserted rfl key starts ok
      | delete removed =>
          rw [service_effect_delete, KeyValue.get_delete] at ok
          split at ok
          · exact absurd ok (by simp)
          · exact asserted rfl key starts ok
      | _ => exact asserted rfl key starts ok
  | _ => exact asserted

theorem statusInvariant_step {event : Pool.Event Job}
    (invariant : StatusInvariant settings place pool) (begins : BeginsOn place event)
    (apart : StatusWindowsApart pool place) :
    StatusInvariant settings place (Concurrent.step settings pool event) where
  tags := tagsOn_step invariant.placed.points invariant.tags begins
  placed := by
    apply placed_step invariant.placed
    · intro job _
      exact statusAssertion_start pool.state
    · intro thread member point request located asserted asks
      exact statusAssertion_own invariant member located asserted asks
    · intro thread member other otherMember point otherPoint request located otherLocated _ asserted
        asks
      exact statusAssertion_free invariant.tags apart member otherMember located otherLocated
        asserted asks
    · intro _ _ _ _ _ _
      trivial
  clean := by
    intro absent
    rcases event_cases invariant.placed event with ⟨same, _⟩ | ⟨index, thread, point, request, turn⟩
    · rw [same] at absent ⊢
      exact invariant.clean absent
    · rw [turn.state] at absent ⊢
      have asserted := turn.asserted
      by_cases deleting : ∃ ttl, point = .timerDeleteInstance place ttl
      · rcases deleting with ⟨ttl, rfl⟩
        exact noHandlers_kept turn.asks (by simp) asserted
      · have before : pool.state.sdl.get place.instanceKey = none := by
          by_contra present
          have still := instance_kept turn.located.sound turn.asks
            (fun ttl same => deleting ⟨ttl, same⟩) (Option.isSome_iff_ne_none.mpr present)
          rw [absent] at still
          exact absurd still (by simp)
        apply noHandlers_kept turn.asks _ (invariant.clean before)
        intro written handlerId status writes
        rw [writes, statusAssertion, before] at asserted
        exact absurd asserted (by simp)

end Outline

section Report

variable {settings : Settings} {place : Place} {pool : Concurrent}

def StartsOk (place : Place) (event : Pool.Event Job) : Prop :=
  ∃ handlerId, event = .begin (.request (.setPolicyInstanceStatus place.policyTypeId
    place.policyInstanceId handlerId (.str "OK")))

theorem turn_not_startsOk (index : Nat) : ¬ StartsOk place (.turn index) := by
  intro starts
  rcases starts with ⟨handlerId, same⟩
  cases same

/-- No handler has reported "OK" and no such report is in progress. -/
structure NotReported (place : Place) (pool : Concurrent) : Prop where
  handlers : NoOkHandlers pool.state place
  silent : ¬ ReportingOk pool place

/-- `get_policy_instance_status` answers NOT IN EFFECT where it answers. -/
def ReportedNotInEffect (world : World) (place : Place) : Prop :=
  ∀ answer after, (getPolicyInstanceStatus place.policyTypeId place.policyInstanceId).run service
    world = (.ok answer, after) → answer.getItem "instance_status" = .ok (.str "NOT IN EFFECT")

theorem reportedNotInEffect_of_noOk {world : World} (noOk : NoOkHandlers world place) :
    ReportedNotInEffect world place := by
  intro answer after returned
  by_cases valid : Valid world place.policyTypeId place.policyInstanceId
  · rw [getPolicyInstanceStatus_run valid] at returned
    injection returned with report _
    rw [statusReport] at report
    split at report
    · exact absurd report (by simp)
    · next notInEffect marked =>
        split at report
        · next ok =>
            rcases List.any_eq_true.mp ok with ⟨status, member, isOk⟩
            rcases List.mem_map.mp member with ⟨⟨key, value⟩, found, same⟩
            rcases (KeyValue.mem_findAndGet _ _ _ _).mp found with ⟨held, starts⟩
            have reported : value = .str "OK" := by
              rw [← beq_iff_eq.mp isOk]
              exact same
            exact absurd (by rw [held, reported]) (noOk key starts)
        · injection report with same
          rw [← same]
          exact Json.getItem_setItem marked
  · rcases getPolicyInstanceStatus_raises valid with ⟨error, raised⟩
    rw [raised] at returned
    injection returned with returned _
    cases returned

theorem notReported_step {event : Pool.Event Job}
    (invariant : StatusInvariant settings place pool) (reported : NotReported place pool)
    (quiet : ¬ StartsOk place event) :
    NotReported place (Concurrent.step settings pool event) where
  handlers := by
    intro key starts ok
    rcases event_cases invariant.placed event with ⟨same, _⟩ | ⟨index, thread, point, request, turn⟩
    · rw [same] at ok
      exact reported.handlers key starts ok
    · rw [turn.state] at ok
      by_cases writes : ∃ value, request = .set key value
      · rcases writes with ⟨value, rfl⟩
        rw [service_effect_set, KeyValue.get_set_same] at ok
        cases Option.some.inj ok
        rcases sets_handlerKey starts turn.asks with ⟨written, handlerId, writes, _⟩
        subst writes
        have same : written = place := job_on invariant.tags turn.member turn.located rfl
        subst same
        refine reported.silent ⟨thread, turn.member, ⟨handlerId, turn.located.tagged _ rfl⟩, ?_⟩
        rw [turn.located.pending, turn.asks]
        simp
      · cases request with
        | set other value =>
            have differ : key ≠ other := fun same => writes ⟨value, by rw [same]⟩
            rw [service_effect_set, KeyValue.get_set_other _ _ differ] at ok
            exact reported.handlers key starts ok
        | delete other =>
            rw [service_effect_delete, KeyValue.get_delete] at ok
            split at ok
            · exact absurd ok (by simp)
            · exact reported.handlers key starts ok
        | _ => exact reported.handlers key starts ok
  silent := by
    have idle : ∀ thread ∈ (Concurrent.step settings pool event).threads,
        ¬ ReportsOk place thread := by
      apply Pool.outline_step (fun _ (thread : JobThread) => ¬ ReportsOk place thread) event
      · intro thread member reports
        exact reported.silent ⟨thread, member, reports⟩
      · intro job begun reports
        rcases reports.1 with ⟨handlerId, same⟩
        exact quiet ⟨handlerId, by rw [begun, ← same]⟩
      · intro index job request next _ acting reports
        have waiting : (Program.call request next : A1M Json).pending ≠ none := by simp
        exact reported.silent ⟨_, List.mem_of_getElem? acting, reports.1, waiting⟩
      · intro index job request next other thread _ _ _ found reports
        exact reported.silent ⟨thread, List.mem_of_getElem? found, reports⟩
      · intro index job request next child _ _ forked reports
        rcases reports.1 with ⟨handlerId, same⟩
        have timer : child = .request _ := same
        rw [timer] at forked
        exact absurd forked (spawned_ne_request _)
    intro reporting
    rcases reporting with ⟨thread, member, reports⟩
    exact idle thread member reports

theorem notReported_run (invariant : StatusInvariant settings place pool)
    (reported : NotReported place pool) (events : List (Pool.Event Job))
    (along : Runs.Along (Concurrent.step settings)
      (fun pool event => BeginsOn place event ∧ StatusWindowsApart pool place) pool events)
    (quiet : ∀ event ∈ events, ¬ StartsOk place event) :
    NotReported place (Runs.run (Concurrent.step settings) pool events) := by
  induction events generalizing pool with
  | nil => exact reported
  | cons event events ih =>
      apply ih
      · exact statusInvariant_step invariant along.1.1 along.1.2
      · exact notReported_step invariant reported (quiet event List.mem_cons_self)
      · exact along.2
      · intro later member
        exact quiet later (List.mem_cons_of_mem _ member)

theorem notReported_of_creates {thread : JobThread}
    (invariant : StatusInvariant settings place pool) (apart : StatusWindowsApart pool place)
    (member : thread ∈ pool.threads) (creates : Creates pool place thread) :
    NotReported place pool := by
  have silent : ¬ ReportingOk pool place := by
    intro reporting
    exact apart.creations ⟨⟨thread, member, creates⟩, reporting⟩
  rcases invariant.placed thread member with ⟨point, located, asserted⟩
  rcases creates with ⟨_, ⟨value, writes⟩, answers⟩
  rw [located.pending] at writes
  rcases sets_instanceKey writes with ⟨body, created, operation, storing⟩
  subst storing
  rcases located.follows.run_next rfl pool.state with ⟨middle, first, ran⟩
  rcases first.run_next rfl (service.effect (.set place.instanceKey (.obj body)) pool.state) with
    ⟨last, ended, again⟩
  rw [ran, again, ended.run_returned] at answers
  have operationCreate : operation = "CREATE" := by simpa using answers
  exact ⟨asserted operationCreate, silent⟩

theorem statusInvariant_start (settings : Settings) {world : World}
    (clean : world.sdl.get place.instanceKey = none → NoHandlers world place) :
    StatusInvariant settings place (Concurrent.start world) where
  tags := by
    intro thread member
    exact absurd member List.not_mem_nil
  placed := placed_start settings _ world
  clean := clean

end Report

/-- In every interleaving on an instance that keeps the windows apart, no handler outlives the
instance, and a created instance is reported NOT IN EFFECT until a status "OK" starts. -/
theorem no_stale_status_while_windows_apart (settings : Settings) (place : Place) (world : World)
    (events : List (Pool.Event Job))
    (clean : world.sdl.get place.instanceKey = none → NoHandlers world place)
    (along : Runs.Along (Concurrent.step settings)
      (fun pool event => BeginsOn place event ∧ StatusWindowsApart pool place)
      (Concurrent.start world) events) :
    let pool := Runs.run (Concurrent.step settings) (Concurrent.start world)
    (∀ key, Text.startswith key place.handlerPrefix = true →
        ((pool events).state.sdl.get key).isSome →
          ((pool events).state.sdl.get place.instanceKey).isSome) ∧
      ∀ first index later thread, events = first ++ .turn index :: later →
        (pool first).threads[index]? = some thread → Creates (pool first) place thread →
          (∀ event ∈ later, ¬ StartsOk place event) →
            ReportedNotInEffect (pool events).state place := by
  intro pool
  have invariantAt : ∀ events, Runs.Along (Concurrent.step settings)
      (fun pool event => BeginsOn place event ∧ StatusWindowsApart pool place)
        (Concurrent.start world) events → StatusInvariant settings place (pool events) := by
    intro events along
    exact Runs.run_invariant (StatusInvariant settings place)
      (fun _ _ before allowed => statusInvariant_step before allowed.1 allowed.2)
      (Concurrent.start world) events (statusInvariant_start settings clean) along
  constructor
  · intro key starts held
    by_contra absent
    have none := (invariantAt events along).clean (Option.not_isSome_iff_eq_none.mp absent)
    rw [none key starts] at held
    exact absurd held (by simp)
  · intro first index later thread split found creates quiet
    subst split
    rw [Runs.along_append] at along
    have invariant := invariantAt first along.1
    have reported := notReported_of_creates invariant along.2.1.2 (List.mem_of_getElem? found)
      creates
    have ended := notReported_run invariant reported (.turn index :: later) along.2 (by
      intro event member
      rcases List.mem_cons.mp member with turn | member
      · rw [turn]
        exact turn_not_startsOk index
      · exact quiet event member)
    rw [show pool (first ++ .turn index :: later) = _ from Runs.run_append _ _ _ _]
    exact reportedNotInEffect_of_noOk ended.handlers

/-- One thread waits to delete a key, the other to write one; or one is a store that waits to write
and the other a status under way. -/
def statusClash (thread other : JobThread) : Bool :=
  match thread.rest.pending, other.rest.pending with
  | some (.delete _), some (.set _ _) => true
  | some (.set _ _), some _ =>
      match thread.tag, other.tag with
      | .request (.storePolicyInstance ..), .request (.setPolicyInstanceStatus ..) => true
      | _, _ => false
  | _, _ => false

theorem status_windows_apart_of_clear {pool : Concurrent} {place : Place}
    (clear : Clear statusClash pool) : StatusWindowsApart pool place := by
  constructor
  · rintro ⟨⟨thread, member, ttl, key, _, removes, _⟩, other, otherMember, handlerId, status, writes⟩
    have apart := clear thread member other otherMember
    simp [statusClash, removes, writes] at apart
  · rintro ⟨⟨thread, member, ⟨body, created, stores⟩, ⟨value, writes⟩, _⟩, other, otherMember,
      ⟨handlerId, reports⟩, waits⟩
    have apart := clear thread member other otherMember
    rcases Option.ne_none_iff_exists'.mp waits with ⟨call, pending⟩
    simp [statusClash, stores, writes, reports, pending] at apart

theorem noHandlers_oneTypeWorld : NoHandlers oneTypeWorld ⟨1, "a"⟩ := by
  intro key starts
  have found : (oneTypeWorld.sdl.findAndGet (Place.handlerPrefix ⟨1, "a"⟩)).map Prod.fst = [] := by
    decide +kernel
  by_contra held
  have member := (KeyValue.mem_findAndGet_keys _ _ _).mpr
    ⟨Option.isSome_iff_ne_none.mpr held, starts⟩
  rw [found] at member
  exact List.not_mem_nil member

/-- The timer leaves no status, and the instance that is stored anew is reported NOT IN EFFECT. -/
theorem no_stale_status_over_whole_life :
    (∀ key, Text.startswith key (Place.handlerPrefix ⟨1, "a"⟩) = true →
        (Runs.run (Concurrent.step {}) (Concurrent.start oneTypeWorld)
          (wholeLife.take 44)).state.sdl.get key = none) ∧
      ReportedNotInEffect (Runs.run (Concurrent.step {}) (Concurrent.start oneTypeWorld)
        wholeLife).state ⟨1, "a"⟩ := by
  have along : Runs.Along (Concurrent.step {})
      (fun pool event => BeginsOn ⟨1, "a"⟩ event ∧ StatusWindowsApart pool ⟨1, "a"⟩)
      (Concurrent.start oneTypeWorld) wholeLife :=
    along_of_clear status_windows_apart_of_clear (by decide +kernel)
  have split : ∀ count, wholeLife.take count ++ wholeLife.drop count = wholeLife := fun count =>
    List.take_append_drop count wholeLife
  constructor
  · intro key starts
    rw [← split 44, Runs.along_append] at along
    have kept := (no_stale_status_while_windows_apart {} ⟨1, "a"⟩ oneTypeWorld _
      (fun _ => noHandlers_oneTypeWorld) along.1).1 key starts
    have removed : (Runs.run (Concurrent.step {}) (Concurrent.start oneTypeWorld)
        (wholeLife.take 44)).state.sdl.get (Place.instanceKey ⟨1, "a"⟩) = none := by decide +kernel
    rw [removed] at kept
    exact Option.not_isSome_iff_eq_none.mp fun held => absurd (kept held) (by simp)
  · have reported := (no_stale_status_while_windows_apart {} ⟨1, "a"⟩ oneTypeWorld wholeLife
      (fun _ => noHandlers_oneTypeWorld) along).2
    have waiting : ((Runs.run (Concurrent.step {}) (Concurrent.start oneTypeWorld)
        (wholeLife.take 47)).threads[6]?).isSome = true := by decide +kernel
    rcases Option.isSome_iff_exists.mp waiting with ⟨thread, found⟩
    have looked : (Runs.run (Concurrent.step {}) (Concurrent.start oneTypeWorld)
        (wholeLife.take 47)).threads[6]?.map (fun thread =>
          (thread.tag, thread.rest.pending, (thread.rest.run service
            (Runs.run (Concurrent.step {}) (Concurrent.start oneTypeWorld)
              (wholeLife.take 47)).state).1)) =
        some (.request (.storePolicyInstance 1 "a" [] "2.0"),
          some (.set (Place.instanceKey ⟨1, "a"⟩) (.obj [])), .ok (.str "CREATE")) := by
      decide +kernel
    rw [found, Option.map_some, Option.some.injEq, Prod.mk.injEq, Prod.mk.injEq] at looked
    apply reported (wholeLife.take 47) 6 [.turn 6] thread (split 47).symm found
    · exact ⟨⟨[], "2.0", looked.1⟩, ⟨.obj [], looked.2.1⟩, looked.2.2⟩
    · intro event member
      rw [List.mem_singleton.mp member]
      exact turn_not_startsOk 6

/-- A status written behind the scan of a timer outlives the instance: the next creation of the
instance answers "CREATE" and is reported IN EFFECT. -/
theorem late_status_marks_new_instance :
    let world := Runs.run (step {}) World.empty
      [.request (.storePolicyType 1 [("policy_type_id", .int 1)]),
        .request (.storePolicyInstance 1 "a" [] "0.0")]
    let overlapping : List (Pool.Event Job) :=
      .begin (.request (.setPolicyInstanceStatus 1 "a" "h" (.str "OK"))) ::
        List.replicate 3 (.turn 0) ++
        .begin (.request (.deletePolicyInstance 1 "a" "1.0")) :: List.replicate 10 (.turn 1) ++
        List.replicate 6 (.turn 2) ++ [.turn 0]
    let pool := Runs.run (Concurrent.step {}) (Concurrent.start world) overlapping
    let later := Runs.run (Concurrent.step {}) pool
      (.begin (.request (.storePolicyInstance 1 "a" [] "2.0")) :: List.replicate 4 (.turn 3))
    (pool.Quiescent ∧ (pool.state.sdl.get (Place.handlerKey ⟨1, "a"⟩ "h")).isSome ∧
        pool.state.sdl.get (Place.instanceKey ⟨1, "a"⟩) = none) ∧
      (∃ thread ∈ later.threads, thread.rest.outcome = some (.ok (.str "CREATE"))) ∧
      ¬ ReportedNotInEffect later.state ⟨1, "a"⟩ := by
  intro world overlapping pool later
  refine ⟨⟨?_, by decide +kernel, by decide +kernel⟩, by decide +kernel, ?_⟩
  · rw [Concurrent.Quiescent]
    decide +kernel
  · intro reported
    have answered : ((getPolicyInstanceStatus 1 "a").run service later.state).1.toOption.map
        (fun answer => answer.getItem "instance_status") = some (.ok (.str "IN EFFECT")) := by
      decide +kernel
    cases ran : (getPolicyInstanceStatus 1 "a").run service later.state with
    | mk outcome after =>
        rw [ran] at answered
        cases outcome with
        | error error => exact absurd answered (by simp [Except.toOption])
        | ok answer =>
            have notInEffect := reported answer after ran
            simp [Except.toOption, notInEffect] at answered

end NearRtRic.A1
