import NearRtRic.A1.Points

/-! Proof outlines: assertions at the points of all threads, and who writes which key. -/

namespace NearRtRic.A1

/-- Every thread is at some point, and what is asserted there holds. -/
def Placed (settings : Settings) (asserts : World → Point → Prop) (pool : Concurrent) : Prop :=
  ∀ thread ∈ pool.threads, ∃ point, Located settings thread point ∧ asserts pool.state point

theorem placed_start (settings : Settings) (asserts : World → Point → Prop) (world : World) :
    Placed settings asserts (Concurrent.start world) := by
  intro thread member
  exact absurd member List.not_mem_nil

theorem Placed.points {settings : Settings} {asserts : World → Point → Prop} {pool : Concurrent}
    (placed : Placed settings asserts pool) : Placed settings (fun _ _ => True) pool := by
  intro thread member
  rcases placed thread member with ⟨point, located, _⟩
  exact ⟨point, located, trivial⟩

/-- The proof outline over points. `own` is about the thread that makes the call, `free` about any
other one, `forked` about a timer thread at its start. -/
theorem placed_step {settings : Settings} {asserts : World → Point → Prop} {pool : Concurrent}
    {event : Pool.Event Job} (before : Placed settings asserts pool)
    (started : ∀ job, event = .begin job → asserts pool.state (Point.start job))
    (own : ∀ thread ∈ pool.threads, ∀ point request, Located settings thread point →
      asserts pool.state point → point.request = some request →
        asserts (service.effect request pool.state) (point.after settings pool.state))
    (free : ∀ thread ∈ pool.threads, ∀ other ∈ pool.threads, ∀ point otherPoint request,
      Located settings thread point → Located settings other otherPoint →
        asserts pool.state point → asserts pool.state otherPoint →
          point.request = some request →
            asserts (service.effect request pool.state) otherPoint)
    (forked : ∀ thread ∈ pool.threads, ∀ policyTypeId policyInstanceId ttl,
      thread.rest.pending = some (.startTimer policyTypeId policyInstanceId ttl) →
        asserts (service.effect (.startTimer policyTypeId policyInstanceId ttl) pool.state)
          (Point.start (.timer policyTypeId policyInstanceId ttl))) :
    Placed settings asserts (Concurrent.step settings pool event) := by
  apply Pool.outline_step
    (fun world thread => ∃ point, Located settings thread point ∧ asserts world point)
  · exact before
  · intro job begun
    exact ⟨Point.start job, located_start settings job, started job begun⟩
  · intro index tag request next _ acting
    have member := List.mem_of_getElem? acting
    rcases before _ member with ⟨point, located, asserted⟩
    exact ⟨point.after settings pool.state, located.turned pool.state,
      own _ member point request located asserted located.asks⟩
  · intro index tag request next other thread _ acting _ found
    have member := List.mem_of_getElem? acting
    have otherMember := List.mem_of_getElem? found
    rcases before _ member with ⟨point, located, asserted⟩
    rcases before _ otherMember with ⟨otherPoint, otherLocated, otherAsserted⟩
    exact ⟨otherPoint, otherLocated,
      free _ member _ otherMember point otherPoint request located otherLocated asserted
        otherAsserted located.asks⟩
  · intro index tag request next child _ acting forks
    cases request with
    | startTimer policyTypeId policyInstanceId ttl =>
        have same : child = .timer policyTypeId policyInstanceId ttl := (Option.some.inj forks).symm
        rw [same]
        exact ⟨_, located_start settings _,
          forked _ (List.mem_of_getElem? acting) policyTypeId policyInstanceId ttl rfl⟩
    | _ => exact absurd forks (by simp [spawned])

structure Turned (settings : Settings) (asserts : World → Point → Prop) (pool after : Concurrent)
    (index : Nat) (thread : JobThread) (point : Point) (request : Call) : Prop where
  found : pool.threads[index]? = some thread
  located : Located settings thread point
  asserted : asserts pool.state point
  asks : point.request = some request
  state : after.state = service.effect request pool.state
  turned : ∃ later, after.threads[index]? = some later ∧
    Located settings later (point.after settings pool.state)
  kept : ∀ (other : Nat) (waiting : JobThread), other ≠ index →
    pool.threads[other]? = some waiting → after.threads[other]? = some waiting

/-- An event is the turn of one thread, or leaves the world and the threads there were. -/
theorem event_cases {settings : Settings} {asserts : World → Point → Prop} {pool : Concurrent}
    (placed : Placed settings asserts pool) (event : Pool.Event Job) :
    ((Concurrent.step settings pool event).state = pool.state ∧
      ∀ thread ∈ pool.threads, thread ∈ (Concurrent.step settings pool event).threads) ∨
    ∃ index thread point request,
      Turned settings asserts pool (Concurrent.step settings pool event) index thread point
        request := by
  cases event with
  | begin job =>
      left
      refine ⟨rfl, ?_⟩
      intro thread member
      exact List.mem_append_left _ member
  | turn index =>
      rcases Pool.turn_cases service (jobProgram settings) spawned pool index with
        ⟨job, request, next, acting⟩ | same
      · right
        rcases placed _ (List.mem_of_getElem? acting) with ⟨point, located, asserted⟩
        refine ⟨index, _, point, request, acting, located, asserted, located.asks,
          Pool.state_turned acting, ?_, ?_⟩
        · exact ⟨_, Pool.thread_turned acting, located.turned pool.state⟩
        · intro other waiting differ found
          exact Pool.thread_kept found differ
      · left
        have idle : Concurrent.step settings pool (.turn index) = pool := same
        rw [idle]
        exact ⟨rfl, fun thread member => member⟩

theorem Turned.member {settings : Settings} {asserts : World → Point → Prop}
    {pool after : Concurrent} {index : Nat} {thread : JobThread} {point : Point} {request : Call}
    (turn : Turned settings asserts pool after index thread point request) :
    thread ∈ pool.threads :=
  List.mem_of_getElem? turn.found

theorem Turned.waiting {settings : Settings} {asserts : World → Point → Prop}
    {pool after : Concurrent} {index : Nat} {thread waiting : JobThread} {point : Point}
    {request call : Call} (turn : Turned settings asserts pool after index thread point request)
    (member : waiting ∈ pool.threads) (pending : waiting.rest.pending = some call)
    (differ : call ≠ request) : waiting ∈ after.threads := by
  rcases List.mem_iff_getElem?.mp member with ⟨other, found⟩
  by_cases same : other = index
  · subst same
    rw [turn.found] at found
    cases Option.some.inj found
    rw [turn.located.pending, turn.asks] at pending
    exact absurd (Option.some.inj pending).symm differ
  · exact List.mem_of_getElem? (turn.kept other waiting same found)

theorem points_run (settings : Settings) (events : List (Pool.Event Job)) (world : World) :
    Placed settings (fun _ _ => True)
      (Runs.run (Concurrent.step settings) (Concurrent.start world) events) := by
  apply Runs.run_invariant (Placed settings (fun _ _ => True))
    (fun _ _ before _ => placed_step before (fun _ _ => trivial) (fun _ _ _ _ _ _ _ => trivial)
      (fun _ _ _ _ _ _ _ _ _ _ _ _ => trivial) (fun _ _ _ _ _ _ => trivial))
    (Concurrent.start world) events
  · intro thread member
    exact absurd member List.not_mem_nil
  · exact Runs.along_true (Concurrent.start world) events

section Writers

/-! Which points write the keys of the three families. -/

variable {point : Point}

theorem delete_cases {key : String} (sound : point.Sound)
    (asks : point.request = some (.delete key)) :
    (∃ policyTypeId, point = .deleteTypeWrite policyTypeId ∧ key = generateTypeKey policyTypeId) ∨
      (∃ place ttl, point = .timerDeleteInstance place ttl ∧ key = place.instanceKey) ∨
      (∃ place ttl, point = .timerDeleteMetadata place ttl ∧ key = place.metadataKey) ∨
      (∃ place : Place, Text.startswith key place.handlerPrefix = true) := by
  cases point with
  | deleteTypeWrite policyTypeId =>
      cases Option.some.inj asks
      exact .inl ⟨policyTypeId, rfl, rfl⟩
  | timerDeleteInstance place ttl =>
      cases Option.some.inj asks
      exact .inr (.inl ⟨place, ttl, rfl, rfl⟩)
  | timerDeleteMetadata place ttl =>
      cases Option.some.inj asks
      exact .inr (.inr (.inl ⟨place, ttl, rfl, rfl⟩))
  | storeClear place body created key keys =>
      cases Option.some.inj asks
      exact .inr (.inr (.inr ⟨place, sound key List.mem_cons_self⟩))
  | timerClear place ttl key keys =>
      cases Option.some.inj asks
      exact .inr (.inr (.inr ⟨place, sound key List.mem_cons_self⟩))
  | _ => simp [Point.request] at asks

theorem set_cases {key : String} {value : Json} (asks : point.request = some (.set key value)) :
    (∃ policyTypeId body, point = .storeTypeWrite policyTypeId body ∧
        key = generateTypeKey policyTypeId) ∨
      (∃ place body created operation, point = .storeInstance place body created operation ∧
        key = place.instanceKey) ∨
      (∃ place body created operation, point = .storeMetadata place body created operation ∧
        key = place.metadataKey ∧ value = storedMetadata created) ∨
      (∃ place deleted createdAt, point = .deleteWriteMetadata place deleted createdAt ∧
        key = place.metadataKey ∧ value = deletedMetadata createdAt deleted) ∨
      (∃ place handlerId, point = .statusWrite place handlerId value ∧
        key = place.handlerKey handlerId) := by
  cases point with
  | storeTypeWrite policyTypeId body =>
      cases Option.some.inj asks
      exact .inl ⟨policyTypeId, body, rfl, rfl⟩
  | storeInstance place body created operation =>
      cases Option.some.inj asks
      exact .inr (.inl ⟨place, body, created, operation, rfl, rfl⟩)
  | storeMetadata place body created operation =>
      cases Option.some.inj asks
      exact .inr (.inr (.inl ⟨place, body, created, operation, rfl, rfl, rfl⟩))
  | deleteWriteMetadata place deleted createdAt =>
      cases Option.some.inj asks
      exact .inr (.inr (.inr (.inl ⟨place, deleted, createdAt, rfl, rfl, rfl⟩)))
  | statusWrite place handlerId status =>
      cases Option.some.inj asks
      exact .inr (.inr (.inr (.inr ⟨place, handlerId, rfl, rfl⟩)))
  | _ => simp [Point.request] at asks

namespace Place

variable {place other : Place}

theorem instanceKey_inj (same : place.instanceKey = other.instanceKey) : place = other := by
  rcases instance_key_injective same with ⟨types, instances⟩
  cases place
  cases other
  simp_all

theorem metadataKey_inj (same : place.metadataKey = other.metadataKey) : place = other := by
  rcases metadata_key_injective same with ⟨types, instances⟩
  cases place
  cases other
  simp_all

theorem instanceKey_not_handler :
    Text.startswith place.instanceKey other.handlerPrefix = false :=
  instance_key_not_handler _ _ _ _

theorem metadataKey_not_handler :
    Text.startswith place.metadataKey other.handlerPrefix = false :=
  metadata_key_not_handler _ _ _ _

end Place

/-- Only `delete_policy_type` deletes a type key. -/
theorem deletes_typeKey {policyTypeId : Nat} (sound : point.Sound)
    (asks : point.request = some (.delete (generateTypeKey policyTypeId))) :
    point = .deleteTypeWrite policyTypeId := by
  rcases delete_cases sound asks with ⟨other, deleting, same⟩ | ⟨place, ttl, _, same⟩ |
    ⟨place, ttl, _, same⟩ | ⟨place, starts⟩
  · rw [deleting, type_key_injective same]
  · exact absurd same (type_ne_instance _ _ _)
  · exact absurd same (type_ne_metadata _ _ _)
  · rw [Place.handlerPrefix, type_key_not_handler] at starts
    exact Bool.noConfusion starts

/-- Only the timers of an instance delete its key. -/
theorem deletes_instanceKey {place : Place} (sound : point.Sound)
    (asks : point.request = some (.delete place.instanceKey)) :
    ∃ ttl, point = .timerDeleteInstance place ttl := by
  rcases delete_cases sound asks with ⟨other, _, same⟩ | ⟨other, ttl, removing, same⟩ |
    ⟨other, ttl, _, same⟩ | ⟨other, starts⟩
  · exact absurd same.symm (type_ne_instance _ _ _)
  · exact ⟨ttl, by rw [removing, Place.instanceKey_inj same]⟩
  · exact absurd same (instance_ne_metadata _ _ _ _)
  · rw [Place.instanceKey_not_handler] at starts
    exact Bool.noConfusion starts

/-- Only the timers of an instance delete its metadata. -/
theorem deletes_metadataKey {place : Place} (sound : point.Sound)
    (asks : point.request = some (.delete place.metadataKey)) :
    ∃ ttl, point = .timerDeleteMetadata place ttl := by
  rcases delete_cases sound asks with ⟨other, _, same⟩ | ⟨other, ttl, _, same⟩ |
    ⟨other, ttl, removing, same⟩ | ⟨other, starts⟩
  · exact absurd same.symm (type_ne_metadata _ _ _)
  · exact absurd same.symm (instance_ne_metadata _ _ _ _)
  · exact ⟨ttl, by rw [removing, Place.metadataKey_inj same]⟩
  · rw [Place.metadataKey_not_handler] at starts
    exact Bool.noConfusion starts

/-- Only `store_policy_instance` writes an instance key. -/
theorem sets_instanceKey {place : Place} {value : Json}
    (asks : point.request = some (.set place.instanceKey value)) :
    ∃ body created operation, point = .storeInstance place body created operation := by
  rcases set_cases asks with ⟨other, body, _, same⟩ | ⟨other, body, created, operation, storing,
    same⟩ | ⟨other, body, created, operation, _, same, _⟩ | ⟨other, deleted, createdAt, _, same, _⟩ |
    ⟨other, handlerId, _, same⟩
  · exact absurd same.symm (type_ne_instance _ _ _)
  · exact ⟨body, created, operation, by rw [storing, Place.instanceKey_inj same]⟩
  · exact absurd same (instance_ne_metadata _ _ _ _)
  · exact absurd same (instance_ne_metadata _ _ _ _)
  · exact absurd same (instance_ne_handler _ _ _ _ _)

/-- A store and a deletion write the metadata of an instance. -/
theorem sets_metadataKey {place : Place} {value : Json}
    (asks : point.request = some (.set place.metadataKey value)) :
    (∃ body created operation, point = .storeMetadata place body created operation ∧
        value = storedMetadata created) ∨
      (∃ deleted createdAt, point = .deleteWriteMetadata place deleted createdAt ∧
        value = deletedMetadata createdAt deleted) := by
  rcases set_cases asks with ⟨other, body, _, same⟩ | ⟨other, body, created, operation, _, same⟩ |
    ⟨other, body, created, operation, storing, same, wrote⟩ |
    ⟨other, deleted, createdAt, marking, same, wrote⟩ | ⟨other, handlerId, _, same⟩
  · exact absurd same.symm (type_ne_metadata _ _ _)
  · exact absurd same.symm (instance_ne_metadata _ _ _ _)
  · exact .inl ⟨body, created, operation, by rw [storing, Place.metadataKey_inj same], wrote⟩
  · exact .inr ⟨deleted, createdAt, by rw [marking, Place.metadataKey_inj same], wrote⟩
  · exact absurd same (metadata_ne_handler _ _ _ _ _)

section Kept

/-! How long the entries of an instance survive the calls of the threads. -/

variable {world : World} {place : Place} {request : Call}

theorem instance_kept (sound : point.Sound) (asks : point.request = some request)
    (differ : ∀ ttl, point ≠ .timerDeleteInstance place ttl)
    (held : (world.sdl.get place.instanceKey).isSome) :
    ((service.effect request world).sdl.get place.instanceKey).isSome := by
  apply held_after_call held
  intro deletes
  rcases deletes_instanceKey sound (by rw [asks, deletes]) with ⟨ttl, removing⟩
  exact differ ttl removing

theorem instance_still_absent (asks : point.request = some request)
    (differ : ∀ body created operation, point ≠ .storeInstance place body created operation)
    (absent : world.sdl.get place.instanceKey = none) :
    (service.effect request world).sdl.get place.instanceKey = none := by
  apply absent_after_call absent
  intro value sets
  rcases sets_instanceKey (by rw [asks, sets]) with ⟨body, created, operation, storing⟩
  exact differ body created operation storing

theorem metadata_kept (sound : point.Sound) (asks : point.request = some request)
    (differ : ∀ ttl, point ≠ .timerDeleteMetadata place ttl)
    (held : (world.sdl.get place.metadataKey).isSome) :
    ((service.effect request world).sdl.get place.metadataKey).isSome := by
  apply held_after_call held
  intro deletes
  rcases deletes_metadataKey sound (by rw [asks, deletes]) with ⟨ttl, removing⟩
  exact differ ttl removing

end Kept

end Writers

section OnPlace

def Job.On (place : Place) : Job → Prop
  | .request (.storePolicyInstance policyTypeId policyInstanceId _ _)
  | .request (.deletePolicyInstance policyTypeId policyInstanceId _)
  | .request (.setPolicyInstanceStatus policyTypeId policyInstanceId _ _)
  | .request (.getPolicyInstanceStatus policyTypeId policyInstanceId)
  | .timer policyTypeId policyInstanceId _ => (⟨policyTypeId, policyInstanceId⟩ : Place) = place
  | .request (.storePolicyType _ _) | .request (.deletePolicyType _) => False

def BeginsOn (place : Place) (event : Pool.Event Job) : Prop :=
  ∀ job, event = .begin job → job.On place

def TagsOn (place : Place) (pool : Concurrent) : Prop :=
  ∀ thread ∈ pool.threads, thread.tag.On place

theorem tagsOn_step {settings : Settings} {place : Place} {pool : Concurrent}
    {event : Pool.Event Job} (placed : Placed settings (fun _ _ => True) pool)
    (tags : TagsOn place pool) (begins : BeginsOn place event) :
    TagsOn place (Concurrent.step settings pool event) := by
  apply Pool.outline_step (fun _ (thread : JobThread) => thread.tag.On place)
  · exact tags
  · exact begins
  · intro index tag request next _ acting
    exact tags ⟨tag, .call request next⟩ (List.mem_of_getElem? acting)
  · intro _ _ _ _ other thread _ _ _ found
    exact tags thread (List.mem_of_getElem? found)
  · intro index tag request next child _ acting forks
    have member := List.mem_of_getElem? acting
    rcases placed _ member with ⟨point, located, _⟩
    have asks := located.asks
    cases point with
    | deleteStartTimer started deleted ttl =>
        cases Option.some.inj asks
        cases Option.some.inj forks
        have tag := located.tagged _ rfl
        have on := tags _ member
        rw [tag] at on
        exact on
    | _ =>
        cases asks <;> exact absurd forks (by simp [spawned])

theorem job_on {settings : Settings} {place : Place} {pool : Concurrent} {thread : JobThread}
    {point : Point} (tags : TagsOn place pool) (member : thread ∈ pool.threads)
    (located : Located settings thread point) {job : Job} (inJob : point.job = some job) :
    job.On place := by
  rw [← located.tagged job inJob]
  exact tags thread member

/-! What keeps two threads apart is tested on what they wait with. -/

instance (place : Place) : ∀ job : Job, Decidable (job.On place)
  | .request (.storePolicyInstance policyTypeId policyInstanceId _ _)
  | .request (.deletePolicyInstance policyTypeId policyInstanceId _)
  | .request (.setPolicyInstanceStatus policyTypeId policyInstanceId _ _)
  | .request (.getPolicyInstanceStatus policyTypeId policyInstanceId)
  | .timer policyTypeId policyInstanceId _ =>
      inferInstanceAs (Decidable ((⟨policyTypeId, policyInstanceId⟩ : Place) = place))
  | .request (.storePolicyType _ _) | .request (.deletePolicyType _) =>
      inferInstanceAs (Decidable False)

instance (place : Place) : ∀ event, Decidable (BeginsOn place event)
  | .begin job => decidable_of_iff (job.On place)
      ⟨fun on other same => by cases same; exact on, fun begins => begins job rfl⟩
  | .turn _ => .isTrue nofun

/-- No two threads clash. -/
def Clear (clash : JobThread → JobThread → Bool) (pool : Concurrent) : Prop :=
  ∀ thread ∈ pool.threads, ∀ other ∈ pool.threads, clash thread other = false

instance (clash : JobThread → JobThread → Bool) (pool : Concurrent) : Decidable (Clear clash pool) :=
  inferInstanceAs (Decidable (∀ thread ∈ pool.threads, ∀ other ∈ pool.threads,
    clash thread other = false))

theorem along_of_clear {settings : Settings} {place : Place} {apart : Concurrent → Prop}
    {clash : JobThread → JobThread → Bool} (gives : ∀ {pool}, Clear clash pool → apart pool)
    {pool : Concurrent} {events : List (Pool.Event Job)}
    (along : Runs.Along (Concurrent.step settings)
      (fun pool event => BeginsOn place event ∧ Clear clash pool) pool events) :
    Runs.Along (Concurrent.step settings) (fun pool event => BeginsOn place event ∧ apart pool)
      pool events :=
  Runs.along_mono (fun _ _ allowed => ⟨allowed.1, gives allowed.2⟩) along

/-- A1 with one type. -/
def oneTypeWorld : World :=
  Runs.run (step {}) World.empty [.request (.storePolicyType 1 [("policy_type_id", .int 1)])]

/-- An instance is stored; a status is set while a report reads; another one is set while the
instance is deleted; the timer removes it; and it is stored anew. -/
def wholeLife : List (Pool.Event Job) :=
  List.flatten
    [[.begin (.request (.storePolicyInstance 1 "a" [] "0.0"))],
      List.replicate 4 (.turn 0),
      [.begin (.request (.setPolicyInstanceStatus 1 "a" "h" (.str "OK"))),
        .begin (.request (.getPolicyInstanceStatus 1 "a"))],
      (List.replicate 4 [.turn 1, .turn 2]).flatten,
      List.replicate 5 (.turn 2),
      [.begin (.request (.deletePolicyInstance 1 "a" "1.0")),
        .begin (.request (.setPolicyInstanceStatus 1 "a" "g" (.str "OK")))],
      (List.replicate 4 [.turn 3, .turn 4]).flatten,
      List.replicate 6 (.turn 3),
      List.replicate 8 (.turn 5),
      [.begin (.request (.storePolicyInstance 1 "a" [] "2.0"))],
      List.replicate 4 (.turn 6)]

end OnPlace

end NearRtRic.A1
