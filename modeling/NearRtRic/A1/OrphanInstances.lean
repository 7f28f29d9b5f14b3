import NearRtRic.A1.Outline

/-! A type that is deleted while an instance of it is being stored. -/

namespace NearRtRic.A1

def NoOrphans (world : World) : Prop :=
  ∀ (policyTypeId : Nat) (policyInstanceId : String),
    (world.sdl.get (generateInstanceKey policyTypeId policyInstanceId)).isSome →
      (world.sdl.get (generateTypeKey policyTypeId)).isSome

/-- A `delete_policy_type` has found the type empty and has not deleted its key yet. -/
def DeletingType (pool : Concurrent) (policyTypeId : Nat) : Prop :=
  ∃ thread ∈ pool.threads, thread.tag = .request (.deletePolicyType policyTypeId) ∧
    thread.rest.pending = some (.delete (generateTypeKey policyTypeId))

/-- A `store_policy_instance` has found the type and has not written the instance key yet. -/
def StoringInstance (pool : Concurrent) (policyTypeId : Nat) : Prop :=
  ∃ thread ∈ pool.threads, ∃ policyInstanceId body creationTimestamp call,
    thread.tag =
        .request (.storePolicyInstance policyTypeId policyInstanceId body creationTimestamp) ∧
      thread.rest.pending = some call ∧
      call ≠ .get (generateTypeKey policyTypeId) ∧
      call ≠ .set (generateInstanceMetadataKey policyTypeId policyInstanceId)
        (storedMetadata creationTimestamp)

def TypeWindowsApart (pool : Concurrent) : Prop :=
  ∀ policyTypeId, ¬ (DeletingType pool policyTypeId ∧ StoringInstance pool policyTypeId)

def typeAssertion (world : World) : Point → Prop
  | .deleteTypeWrite policyTypeId => Empty world.sdl policyTypeId
  | .storeRead place _ _ => (world.sdl.get place.typeKey).isSome
  | .storeScan place _ _ => (world.sdl.get place.typeKey).isSome
  | .storeClear place _ _ _ _ => (world.sdl.get place.typeKey).isSome
  | .storeInstance place _ _ _ => (world.sdl.get place.typeKey).isSome
  | _ => True

section Outline

variable {settings : Settings} {world : World} {point : Point}

theorem typeAssertion_start (world : World) (job : Job) :
    typeAssertion world (Point.start job) := by
  cases job with
  | timer => trivial
  | request request =>
      cases request with
      | storePolicyType policyTypeId body =>
          obtain reads | ⟨error, raises⟩ := Point.start_storePolicyType policyTypeId body
          · rw [reads]
            trivial
          · rw [raises]
            trivial
      | _ => trivial

theorem typeKey_kept {request : Call} {policyTypeId : Nat} (sound : point.Sound)
    (asks : point.request = some request) (differ : point ≠ .deleteTypeWrite policyTypeId)
    (held : (world.sdl.get (generateTypeKey policyTypeId)).isSome) :
    ((service.effect request world).sdl.get (generateTypeKey policyTypeId)).isSome := by
  apply held_after_call held
  intro deletes
  exact differ (deletes_typeKey sound (by rw [asks, deletes]))

theorem empty_kept {request : Call} {policyTypeId : Nat} (asks : point.request = some request)
    (differ : ∀ (policyInstanceId : String) body created operation,
      point ≠ .storeInstance ⟨policyTypeId, policyInstanceId⟩ body created operation)
    (empty : Empty world.sdl policyTypeId) :
    Empty (service.effect request world).sdl policyTypeId := by
  intro policyInstanceId
  apply absent_after_call (empty policyInstanceId)
  intro value sets
  have writes : point.request =
      some (.set (Place.instanceKey ⟨policyTypeId, policyInstanceId⟩) value) := by
    rw [asks, sets]
    rfl
  rcases sets_instanceKey writes with ⟨body, created, operation, same⟩
  exact differ policyInstanceId body created operation same

theorem typeAssertion_own {request : Call} (sound : point.Sound)
    (asserted : typeAssertion world point) (asks : point.request = some request) :
    typeAssertion (service.effect request world) (point.after settings world) := by
  cases point with
  | deleteTypeList policyTypeId =>
      cases Option.some.inj asks
      rw [Point.after]
      cases found : world.sdl.findAndGet (prefixesForType policyTypeId) with
      | nil => exact (empty_iff_findAndGet world.sdl).mpr found
      | cons entry entries => trivial
  | storeCheck place body created =>
      cases Option.some.inj asks
      rw [Point.after]
      cases typed : world.sdl.get place.typeKey with
      | none => trivial
      | some typeBody => exact Option.isSome_of_mem typed
  | storeRead place body created =>
      cases Option.some.inj asks
      rw [Point.after]
      cases world.sdl.get place.instanceKey with
      | none => exact asserted
      | some old => exact asserted
  | storeScan place body created =>
      cases Option.some.inj asks
      rw [Point.after]
      cases (world.sdl.findAndGet place.handlerPrefix).map Prod.fst with
      | nil => exact asserted
      | cons key keys => exact asserted
  | storeClear place body created key keys =>
      have held := typeKey_kept sound asks Point.noConfusion asserted
      cases keys with
      | nil => exact held
      | cons next keys => exact held
  | _ =>
      simp only [Point.after, Point.afterItem, Point.afterTimerScan]
      repeat' split
      all_goals trivial

theorem storing_of_located {pool : Concurrent} {thread : JobThread} {place : Place} {body : Body}
    {created : String} {call : Call} (member : thread ∈ pool.threads)
    (located : Located settings thread point)
    (inJob : point.job = some (.request
      (.storePolicyInstance place.policyTypeId place.policyInstanceId body created)))
    (asks : point.request = some call) (notCheck : call ≠ .get place.typeKey)
    (notLast : call ≠ .set place.metadataKey (storedMetadata created)) :
    StoringInstance pool place.policyTypeId := by
  refine ⟨thread, member, place.policyInstanceId, body, created, call, located.tagged _ inJob, ?_,
    notCheck, notLast⟩
  rw [located.pending, asks]

theorem typeAssertion_free {pool : Concurrent} {thread other : JobThread} {otherPoint : Point}
    {request : Call} (apart : TypeWindowsApart pool) (member : thread ∈ pool.threads)
    (otherMember : other ∈ pool.threads) (located : Located settings thread point)
    (otherLocated : Located settings other otherPoint)
    (asserted : typeAssertion pool.state otherPoint) (asks : point.request = some request) :
    typeAssertion (service.effect request pool.state) otherPoint := by
  -- the type key that a store relies on is not deleted inside its window
  have held : ∀ (place : Place) (body : Body) (created : String) (call : Call),
      (pool.state.sdl.get place.typeKey).isSome →
      otherPoint.job = some (.request
        (.storePolicyInstance place.policyTypeId place.policyInstanceId body created)) →
      otherPoint.request = some call → call ≠ .get place.typeKey →
      call ≠ .set place.metadataKey (storedMetadata created) →
        ((service.effect request pool.state).sdl.get place.typeKey).isSome := by
    intro place body created call typed inJob otherAsks notCheck notLast
    apply typeKey_kept located.sound asks _ typed
    intro deleting
    refine apart place.policyTypeId ⟨⟨thread, member, ?_, ?_⟩, ?_⟩
    · exact located.tagged _ (by rw [deleting]; rfl)
    · rw [located.pending, deleting]
      rfl
    · exact storing_of_located otherMember otherLocated inJob otherAsks notCheck notLast
  cases otherPoint with
  | deleteTypeWrite policyTypeId =>
      apply empty_kept asks _ asserted
      intro policyInstanceId body created operation storing
      refine apart policyTypeId ⟨⟨other, otherMember, otherLocated.tagged _ rfl, ?_⟩, ?_⟩
      · rw [otherLocated.pending]
        rfl
      · subst storing
        exact storing_of_located member located rfl rfl (by simp)
          (by simp [Place.instanceKey, Place.metadataKey])
  | storeRead place body created =>
      exact held place body created _ asserted rfl rfl
        (by simp [Place.instanceKey, Place.typeKey, (type_ne_instance _ _ _).symm]) (by simp)
  | storeScan place body created =>
      exact held place body created _ asserted rfl rfl (by simp) (by simp)
  | storeClear place body created key keys =>
      exact held place body created _ asserted rfl rfl (by simp) (by simp)
  | storeInstance place body created operation =>
      exact held place body created _ asserted rfl rfl (by simp)
        (by simp [Place.instanceKey, Place.metadataKey])
  | _ => trivial

end Outline

/-- The invariant of an interleaved run. -/
structure TypeInvariant (settings : Settings) (pool : Concurrent) : Prop where
  noOrphans : NoOrphans pool.state
  placed : Placed settings typeAssertion pool

theorem typeInvariant_start (settings : Settings) :
    TypeInvariant settings (Concurrent.start World.empty) where
  noOrphans := by
    intro policyTypeId policyInstanceId held
    exact absurd held (by simp [Concurrent.start, World.empty])
  placed := placed_start settings typeAssertion World.empty

theorem noOrphans_call {settings : Settings} {pool : Concurrent} {thread : JobThread}
    {request : Call} (invariant : TypeInvariant settings pool) (member : thread ∈ pool.threads)
    (pending : thread.rest.pending = some request) :
    NoOrphans (service.effect request pool.state) := by
  rcases invariant.placed thread member with ⟨point, located, asserted⟩
  have asks : point.request = some request := by rw [← located.pending, pending]
  intro policyTypeId policyInstanceId held
  by_cases writes : ∃ body created operation,
      point = .storeInstance ⟨policyTypeId, policyInstanceId⟩ body created operation
  · -- the window kept the type key
    rcases writes with ⟨body, created, operation, rfl⟩
    exact typeKey_kept located.sound asks Point.noConfusion asserted
  · have before : (pool.state.sdl.get
        (generateInstanceKey policyTypeId policyInstanceId)).isSome := by
      by_contra absent
      have unset : ∀ value,
          request ≠ .set (generateInstanceKey policyTypeId policyInstanceId) value := by
        intro value sets
        have written : point.request =
            some (.set (Place.instanceKey ⟨policyTypeId, policyInstanceId⟩) value) := by
          rw [asks, sets]
          rfl
        exact writes (sets_instanceKey written)
      rw [absent_after_call (Option.not_isSome_iff_eq_none.mp absent) unset] at held
      exact absurd held (by simp)
    by_cases deleting : point = .deleteTypeWrite policyTypeId
    · -- the type was empty when it was deleted
      subst deleting
      have empty : Empty pool.state.sdl policyTypeId := asserted
      rw [empty policyInstanceId] at before
      exact absurd before (by simp)
    · exact typeKey_kept located.sound asks deleting
        (invariant.noOrphans policyTypeId policyInstanceId before)

theorem typeInvariant_step {settings : Settings} {pool : Concurrent} {event : Pool.Event Job}
    (invariant : TypeInvariant settings pool) (apart : TypeWindowsApart pool) :
    TypeInvariant settings (Concurrent.step settings pool event) where
  noOrphans := by
    rcases Concurrent.state_step settings pool event with same | ⟨thread, member, request, pending,
      turned⟩
    · rw [same]
      exact invariant.noOrphans
    · rw [turned]
      exact noOrphans_call invariant member pending
  placed := by
    apply placed_step invariant.placed
    · intro job _
      exact typeAssertion_start pool.state job
    · intro thread _ point request located asserted asks
      exact typeAssertion_own located.sound asserted asks
    · intro thread member other otherMember point otherPoint request located otherLocated _ asserted
        asks
      exact typeAssertion_free apart member otherMember located otherLocated asserted asks
    · intro _ _ _ _ _ _
      trivial

section Overlap

/-! Where the two windows overlap, the type can be deleted under the instance. -/

variable {settings : Settings} {world : World} {rest : A1M Json} {place : Place} {body : Body}
variable {created : String}

def Orphaned (world : World) (place : Place) : Prop :=
  (world.sdl.get place.instanceKey).isSome ∧ world.sdl.get place.typeKey = none

theorem orphaned_storeMetadata {operation : String} (orphaned : Orphaned world place)
    (follows : Follows settings (.storeMetadata place body created operation) rest) :
    Orphaned (rest.run service world).2 place := by
  rcases follows.run_next rfl world with ⟨later, ended, ran⟩
  rw [ran, ended.run_returned]
  constructor
  · exact held_after_call orphaned.1 Call.noConfusion
  · exact absent_after_call orphaned.2
      (fun _ same => type_ne_metadata _ _ _ (Call.set.inj same).1.symm)

theorem orphaned_storeInstance {operation : String}
    (untyped : world.sdl.get place.typeKey = none)
    (follows : Follows settings (.storeInstance place body created operation) rest) :
    Orphaned (rest.run service world).2 place := by
  rcases follows.run_next rfl world with ⟨later, writes, ran⟩
  rw [ran]
  apply orphaned_storeMetadata _ writes
  constructor
  · simp
  · exact absent_after_call untyped
      (fun _ same => type_ne_instance _ _ _ (Call.set.inj same).1.symm)

theorem orphaned_clear {keys : List String} (untyped : world.sdl.get place.typeKey = none)
    (follows : Follows settings (Point.afterStoreScan place body created keys) rest) :
    Orphaned (rest.run service world).2 place := by
  induction keys generalizing world rest with
  | nil => exact orphaned_storeInstance untyped follows
  | cons key keys ih =>
      rcases follows.run_next rfl world with ⟨later, clears, ran⟩
      rw [ran]
      exact ih (absent_after_call untyped (fun _ => Call.noConfusion)) clears

/-- The points between the type check and the write of the instance key. -/
def InStoreWindow (place : Place) : Point → Prop
  | .storeRead other _ _ => other = place
  | .storeScan other _ _ => other = place
  | .storeClear other _ _ _ _ => other = place
  | .storeInstance other _ _ _ => other = place
  | _ => False

theorem orphaned_window {point : Point} (inWindow : InStoreWindow place point)
    (untyped : world.sdl.get place.typeKey = none) (follows : Follows settings point rest) :
    Orphaned (rest.run service world).2 place := by
  cases point with
  | storeInstance other body created operation =>
      cases inWindow
      exact orphaned_storeInstance untyped follows
  | storeClear other body created key keys =>
      cases inWindow
      have listed : Follows settings (Point.afterStoreScan place body created (key :: keys)) rest :=
        follows
      exact orphaned_clear untyped listed
  | storeScan other body created =>
      cases inWindow
      rcases follows.run_next rfl world with ⟨later, clears, ran⟩
      rw [ran]
      exact orphaned_clear untyped clears
  | storeRead other body created =>
      cases inWindow
      rcases follows.run_next rfl world with ⟨later, chosen, ran⟩
      rw [ran]
      rw [Point.after] at chosen
      cases held : world.sdl.get place.instanceKey with
      | none =>
          simp only [held] at chosen
          exact orphaned_storeInstance untyped chosen
      | some old =>
          simp only [held] at chosen
          rcases chosen.run_next rfl world with ⟨last, clears, again⟩
          exact again ▸ orphaned_clear untyped clears
  | _ => exact absurd inWindow id

theorem window_of_storing {thread : JobThread} {point : Point} {policyTypeId : Nat}
    {policyInstanceId : String} {call : Call} (located : Located settings thread point)
    (tagged : thread.tag =
      .request (.storePolicyInstance policyTypeId policyInstanceId body created))
    (pending : thread.rest.pending = some call) (notCheck : call ≠ .get (generateTypeKey policyTypeId))
    (notLast : call ≠ .set (generateInstanceMetadataKey policyTypeId policyInstanceId)
      (storedMetadata created)) :
    InStoreWindow ⟨policyTypeId, policyInstanceId⟩ point := by
  rw [located.pending] at pending
  have sameJob : ∀ job, point.job = some job → job =
      .request (.storePolicyInstance policyTypeId policyInstanceId body created) := by
    intro job inJob
    rw [← located.tagged job inJob, tagged]
  cases point with
  | storeCheck place other otherCreated =>
      have same := sameJob _ rfl
      cases same
      exact absurd (Option.some.inj pending).symm notCheck
  | storeMetadata place other otherCreated operation =>
      have same := sameJob _ rfl
      cases same
      exact absurd (Option.some.inj pending).symm notLast
  | storeRead place other otherCreated =>
      have same := sameJob _ rfl
      cases same
      rfl
  | storeScan place other otherCreated =>
      have same := sameJob _ rfl
      cases same
      rfl
  | storeClear place other otherCreated key keys =>
      have same := sameJob _ rfl
      cases same
      rfl
  | storeInstance place other otherCreated operation =>
      have same := sameJob _ rfl
      cases same
      rfl
  | returned value => exact absurd pending (by simp [Point.request])
  | raised error => exact absurd pending (by simp [Point.request])
  | _ => exact absurd (sameJob _ rfl) (by simp)

theorem overlap_orphans {pool : Concurrent} {policyTypeId : Nat}
    (invariant : Placed settings (fun _ _ => True) pool)
    (overlap : DeletingType pool policyTypeId ∧ StoringInstance pool policyTypeId) :
    ∃ later, ¬ NoOrphans (Runs.run (Concurrent.step settings) pool later).state := by
  rcases overlap with ⟨⟨deleter, deleterMember, deleterTag, deletes⟩, storer, storerMember,
    policyInstanceId, body, created, call, storerTag, pending, notCheck, notLast⟩
  rcases List.mem_iff_getElem?.mp deleterMember with ⟨first, deleterAt⟩
  rcases List.mem_iff_getElem?.mp storerMember with ⟨second, storerAt⟩
  rcases deleter with ⟨deleterJob, deleterRest⟩
  cases deleterRest with
  | done value => exact absurd deletes (by simp)
  | raise error => exact absurd deletes (by simp)
  | call request next =>
      cases Option.some.inj deletes
      have differ : second ≠ first := by
        intro same
        rw [same, deleterAt] at storerAt
        cases Option.some.inj storerAt
        cases storerTag.symm.trans deleterTag
      -- the type goes first, then the store runs to its end
      rcases invariant storer storerMember with ⟨point, located, _⟩
      have kept : (Concurrent.step settings pool (.turn first)).threads[second]? = some storer :=
        Pool.thread_kept storerAt differ
      have deleted : (Concurrent.step settings pool (.turn first)).state =
          service.effect (.delete (generateTypeKey policyTypeId)) pool.state :=
        Pool.state_turned deleterAt
      have orphaned : Orphaned (storer.rest.run service
          (service.effect (.delete (generateTypeKey policyTypeId)) pool.state)).2
            ⟨policyTypeId, policyInstanceId⟩ :=
        orphaned_window (window_of_storing located storerTag pending notCheck notLast)
          (KeyValue.get_delete_same _ _) located.follows
      rcases Concurrent.run_alone settings kept with ⟨turns, ended⟩
      refine ⟨.turn first :: List.replicate turns (.turn second), ?_⟩
      rw [Runs.run_cons, ended, deleted]
      intro noOrphans
      have held := noOrphans policyTypeId policyInstanceId orphaned.1
      rw [show (storer.rest.run service (service.effect (.delete (generateTypeKey policyTypeId))
        pool.state)).2.sdl.get (generateTypeKey policyTypeId) = none from orphaned.2] at held
      exact absurd held (by simp)

end Overlap

/-- In every interleaving whose steps all start with the two windows apart, instances have their
type. From any state in which they overlap, an orphan can be reached. -/
theorem no_orphans_while_windows_apart (settings : Settings) :
    (∀ events, Runs.Along (Concurrent.step settings) (fun pool _ => TypeWindowsApart pool)
        (Concurrent.start World.empty) events →
      NoOrphans (Runs.run (Concurrent.step settings) (Concurrent.start World.empty)
        events).state) ∧
    (∀ events,
      ¬ TypeWindowsApart
        (Runs.run (Concurrent.step settings) (Concurrent.start World.empty) events) →
      ∃ later, ¬ NoOrphans (Runs.run (Concurrent.step settings) (Concurrent.start World.empty)
        (events ++ later)).state) := by
  constructor
  · intro events apart
    have invariant := Runs.run_invariant (TypeInvariant settings)
      (fun _ _ before windows => typeInvariant_step before windows)
      (Concurrent.start World.empty) events (typeInvariant_start settings) apart
    exact invariant.noOrphans
  · intro events overlapping
    rw [TypeWindowsApart, not_forall] at overlapping
    rcases overlapping with ⟨policyTypeId, overlap⟩
    rcases overlap_orphans (points_run settings events World.empty) (not_not.mp overlap) with
      ⟨later, orphaned⟩
    refine ⟨later, ?_⟩
    rw [Runs.run_append]
    exact orphaned

/-- A PUT of an instance between the listing and the deletion of its type. -/
theorem type_deleted_under_instance :
    ¬ NoOrphans (Runs.run (Concurrent.step {}) (Concurrent.start World.empty)
      [.begin (.request (.storePolicyType 1 [("policy_type_id", .int 1)])), .turn 0, .turn 0,
        .begin (.request (.deletePolicyType 1)), .turn 1, .turn 1,
        .begin (.request (.storePolicyInstance 1 "a" [] "0.0")), .turn 2, .turn 2,
        .turn 1, .turn 2, .turn 2]).state := by
  intro noOrphans
  have typed := noOrphans 1 "a" (by decide +kernel)
  exact absurd typed (by decide +kernel)

end NearRtRic.A1
