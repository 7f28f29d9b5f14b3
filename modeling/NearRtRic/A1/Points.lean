import NearRtRic.A1.Interleaving

/-! The control points of A1's programs: what a thread asks next, and where the answer leads. -/

namespace NearRtRic.A1

/-- Which of its calls of `_instance_is_valid` a function is in. -/
inductive Check where
  | entry
  | metadata
  | statuses
  deriving DecidableEq, Repr

/-- A policy instance by its two ids. -/
structure Place where
  policyTypeId : Nat
  policyInstanceId : String
  deriving DecidableEq, Repr

namespace Place

def typeKey (place : Place) : String := generateTypeKey place.policyTypeId

def instanceKey (place : Place) : String :=
  generateInstanceKey place.policyTypeId place.policyInstanceId

def metadataKey (place : Place) : String :=
  generateInstanceMetadataKey place.policyTypeId place.policyInstanceId

def handlerPrefix (place : Place) : String :=
  generateHandlerPrefix place.policyTypeId place.policyInstanceId

def handlerKey (place : Place) (handlerId : String) : String :=
  generateHandlerKey place.policyTypeId place.policyInstanceId handlerId

end Place

/-- The point of a thread names the call it makes next; the clear loops carry the keys that
their search found and that are still to be deleted. -/
inductive Point where
  | storeTypeRead (policyTypeId : Nat) (body : Body)
  | storeTypeWrite (policyTypeId : Nat) (body : Body)
  | deleteTypeCheck (policyTypeId : Nat)
  | deleteTypeList (policyTypeId : Nat)
  | deleteTypeWrite (policyTypeId : Nat)
  | storeCheck (place : Place) (body : Body) (created : String)
  | storeRead (place : Place) (body : Body) (created : String)
  | storeScan (place : Place) (body : Body) (created : String)
  | storeClear (place : Place) (body : Body) (created : String) (key : String)
      (keys : List String)
  | storeInstance (place : Place) (body : Body) (created operation : String)
  | storeMetadata (place : Place) (body : Body) (created operation : String)
  | deleteCheckType (place : Place) (deleted : String) (check : Check)
  | deleteCheckInstance (place : Place) (deleted : String) (check : Check)
  | deleteReadMetadata (place : Place) (deleted : String)
  | deleteWriteMetadata (place : Place) (deleted : String) (createdAt : Json)
  | deleteScan (place : Place) (deleted : String)
  | deleteStartTimer (place : Place) (deleted : String) (ttl : Int)
  | statusCheckType (place : Place) (handlerId : String) (status : Json) (again : Bool)
  | statusCheckInstance (place : Place) (handlerId : String) (status : Json)
  | statusWrite (place : Place) (handlerId : String) (status : Json)
  | reportCheckType (place : Place) (check : Check) (metadata : Json)
  | reportCheckInstance (place : Place) (check : Check) (metadata : Json)
  | reportReadMetadata (place : Place)
  | reportScan (place : Place) (metadata : Json)
  | timerCheckType (place : Place) (ttl : Int)
  | timerCheckInstance (place : Place) (ttl : Int)
  | timerSleep (place : Place) (ttl : Int)
  | timerScan (place : Place) (ttl : Int)
  | timerClear (place : Place) (ttl : Int) (key : String) (keys : List String)
  | timerDeleteInstance (place : Place) (ttl : Int)
  | timerDeleteMetadata (place : Place) (ttl : Int)
  | returned (value : Json)
  | raised (error : A1Error)

namespace Point

def request : Point → Option Call
  | .storeTypeRead policyTypeId _ => some (.get (generateTypeKey policyTypeId))
  | .storeTypeWrite policyTypeId body => some (.set (generateTypeKey policyTypeId) (.obj body))
  | .deleteTypeCheck policyTypeId => some (.get (generateTypeKey policyTypeId))
  | .deleteTypeList policyTypeId => some (.findAndGet (prefixesForType policyTypeId))
  | .deleteTypeWrite policyTypeId => some (.delete (generateTypeKey policyTypeId))
  | .storeCheck place _ _ => some (.get place.typeKey)
  | .storeRead place _ _ => some (.get place.instanceKey)
  | .storeScan place _ _ => some (.findAndGet place.handlerPrefix)
  | .storeClear _ _ _ key _ => some (.delete key)
  | .storeInstance place body _ _ => some (.set place.instanceKey (.obj body))
  | .storeMetadata place _ created _ => some (.set place.metadataKey (storedMetadata created))
  | .deleteCheckType place _ _ => some (.get place.typeKey)
  | .deleteCheckInstance place _ _ => some (.get place.instanceKey)
  | .deleteReadMetadata place _ => some (.get place.metadataKey)
  | .deleteWriteMetadata place deleted createdAt =>
      some (.set place.metadataKey (deletedMetadata createdAt deleted))
  | .deleteScan place _ => some (.findAndGet place.handlerPrefix)
  | .deleteStartTimer place _ ttl =>
      some (.startTimer place.policyTypeId place.policyInstanceId ttl)
  | .statusCheckType place _ _ _ => some (.get place.typeKey)
  | .statusCheckInstance place _ _ => some (.get place.instanceKey)
  | .statusWrite place handlerId status => some (.set (place.handlerKey handlerId) status)
  | .reportCheckType place _ _ => some (.get place.typeKey)
  | .reportCheckInstance place _ _ => some (.get place.instanceKey)
  | .reportReadMetadata place => some (.get place.metadataKey)
  | .reportScan place _ => some (.findAndGet place.handlerPrefix)
  | .timerCheckType place _ => some (.get place.typeKey)
  | .timerCheckInstance place _ => some (.get place.instanceKey)
  | .timerSleep _ ttl => some (.sleep ttl)
  | .timerScan place _ => some (.findAndGet place.handlerPrefix)
  | .timerClear _ _ key _ => some (.delete key)
  | .timerDeleteInstance place _ => some (.delete place.instanceKey)
  | .timerDeleteMetadata place _ => some (.delete place.metadataKey)
  | .returned _ => none
  | .raised _ => none

def afterItem (result : Except Json.ItemError Json) (next : Json → Point) : Point :=
  match result with
  | .ok value => next value
  | .error error => .raised (.item error)

def afterStoreScan (place : Place) (body : Body) (created : String) : List String → Point
  | [] => .storeInstance place body created "UPDATE"
  | key :: keys => .storeClear place body created key keys

def afterTimerScan (place : Place) (ttl : Int) : List String → Point
  | [] => .timerDeleteInstance place ttl
  | key :: keys => .timerClear place ttl key keys

def typeMissing (place : Place) : Point :=
  .raised (.policyTypeNotFound (toString place.policyTypeId))

def instanceMissing (place : Place) : Point :=
  .raised (.policyInstanceNotFound (toString place.policyTypeId))

def after (settings : Settings) (world : World) : Point → Point
  | .storeTypeRead policyTypeId body =>
      match world.sdl.get (generateTypeKey policyTypeId) with
      | some _ => .raised (.policyTypeAlreadyExists (toString policyTypeId))
      | none => .storeTypeWrite policyTypeId body
  | .storeTypeWrite _ _ => .returned .null
  | .deleteTypeCheck policyTypeId =>
      match world.sdl.get (generateTypeKey policyTypeId) with
      | none => .raised (.policyTypeNotFound (toString policyTypeId))
      | some _ => .deleteTypeList policyTypeId
  | .deleteTypeList policyTypeId =>
      match world.sdl.findAndGet (prefixesForType policyTypeId) with
      | [] => .deleteTypeWrite policyTypeId
      | _ :: _ => .raised (.cantDeleteNonEmptyType (toString policyTypeId))
  | .deleteTypeWrite _ => .returned .null
  | .storeCheck place body created =>
      match world.sdl.get place.typeKey with
      | none => typeMissing place
      | some _ => .storeRead place body created
  | .storeRead place body created =>
      match world.sdl.get place.instanceKey with
      | some _ => .storeScan place body created
      | none => .storeInstance place body created "CREATE"
  | .storeScan place body created =>
      afterStoreScan place body created ((world.sdl.findAndGet place.handlerPrefix).map Prod.fst)
  | .storeClear place body created _ keys => afterStoreScan place body created keys
  | .storeInstance place body created operation => .storeMetadata place body created operation
  | .storeMetadata _ _ _ operation => .returned (.str operation)
  | .deleteCheckType place deleted check =>
      match world.sdl.get place.typeKey with
      | none => typeMissing place
      | some _ => .deleteCheckInstance place deleted check
  | .deleteCheckInstance place deleted check =>
      match world.sdl.get place.instanceKey with
      | none => instanceMissing place
      | some _ =>
          match check with
          | .entry => .deleteCheckType place deleted .metadata
          | .metadata => .deleteReadMetadata place deleted
          | .statuses => .deleteScan place deleted
  | .deleteReadMetadata place deleted =>
      afterItem (((world.sdl.get place.metadataKey).getD .null).getItem "created_at")
        (.deleteWriteMetadata place deleted)
  | .deleteWriteMetadata place deleted _ => .deleteCheckType place deleted .statuses
  | .deleteScan place deleted =>
      .deleteStartTimer place deleted
        (deletionTtl settings ((world.sdl.findAndGet place.handlerPrefix).map Prod.snd))
  | .deleteStartTimer _ _ _ => .returned .null
  | .statusCheckType place handlerId status again =>
      match world.sdl.get place.typeKey with
      | none => typeMissing place
      | some _ =>
          if again then .statusCheckInstance place handlerId status
          else .statusCheckType place handlerId status true
  | .statusCheckInstance place handlerId status =>
      match world.sdl.get place.instanceKey with
      | none => instanceMissing place
      | some _ => .statusWrite place handlerId status
  | .statusWrite _ _ _ => .returned .null
  | .reportCheckType place check metadata =>
      match world.sdl.get place.typeKey with
      | none => typeMissing place
      | some _ => .reportCheckInstance place check metadata
  | .reportCheckInstance place check metadata =>
      match world.sdl.get place.instanceKey with
      | none => instanceMissing place
      | some _ =>
          match check with
          | .entry => .reportCheckType place .metadata .null
          | .metadata => .reportReadMetadata place
          | .statuses => .reportScan place metadata
  | .reportReadMetadata place =>
      afterItem
        (((world.sdl.get place.metadataKey).getD .null).setItem "instance_status"
          (.str "NOT IN EFFECT"))
        (.reportCheckType place .statuses)
  | .reportScan place metadata =>
      if ((world.sdl.findAndGet place.handlerPrefix).map Prod.snd).any
          (fun status => status == .str "OK") then
        afterItem (metadata.setItem "instance_status" (.str "IN EFFECT")) .returned
      else
        .returned metadata
  | .timerCheckType place ttl =>
      match world.sdl.get place.typeKey with
      | none => typeMissing place
      | some _ => .timerCheckInstance place ttl
  | .timerCheckInstance place ttl =>
      match world.sdl.get place.instanceKey with
      | none => instanceMissing place
      | some _ => .timerSleep place ttl
  | .timerSleep place ttl => .timerScan place ttl
  | .timerScan place ttl =>
      afterTimerScan place ttl ((world.sdl.findAndGet place.handlerPrefix).map Prod.fst)
  | .timerClear place ttl _ keys => afterTimerScan place ttl keys
  | .timerDeleteInstance place ttl => .timerDeleteMetadata place ttl
  | .timerDeleteMetadata _ _ => .returned .null
  | .returned value => .returned value
  | .raised error => .raised error

end Point

namespace Point

def start : Job → Point
  | .request (.storePolicyType policyTypeId body) =>
      match (Json.obj body).getItem "policy_type_id" with
      | .error error => .raised (.item error)
      | .ok bodyId =>
          if eqInt bodyId policyTypeId then .storeTypeRead policyTypeId body
          else .raised (.policyTypeIdMismatch (toString policyTypeId) bodyId)
  | .request (.deletePolicyType policyTypeId) => .deleteTypeCheck policyTypeId
  | .request (.storePolicyInstance policyTypeId policyInstanceId body creationTimestamp) =>
      .storeCheck ⟨policyTypeId, policyInstanceId⟩ body creationTimestamp
  | .request (.deletePolicyInstance policyTypeId policyInstanceId deletedTimestamp) =>
      .deleteCheckType ⟨policyTypeId, policyInstanceId⟩ deletedTimestamp .entry
  | .request (.setPolicyInstanceStatus policyTypeId policyInstanceId handlerId status) =>
      .statusCheckType ⟨policyTypeId, policyInstanceId⟩ handlerId status false
  | .request (.getPolicyInstanceStatus policyTypeId policyInstanceId) =>
      .reportCheckType ⟨policyTypeId, policyInstanceId⟩ .entry .null
  | .timer policyTypeId policyInstanceId ttl =>
      .timerCheckType ⟨policyTypeId, policyInstanceId⟩ ttl

def job : Point → Option Job
  | .storeTypeRead policyTypeId body
  | .storeTypeWrite policyTypeId body => some (.request (.storePolicyType policyTypeId body))
  | .deleteTypeCheck policyTypeId
  | .deleteTypeList policyTypeId
  | .deleteTypeWrite policyTypeId => some (.request (.deletePolicyType policyTypeId))
  | .storeCheck place body created
  | .storeRead place body created
  | .storeScan place body created
  | .storeClear place body created _ _
  | .storeInstance place body created _
  | .storeMetadata place body created _ =>
      some (.request (.storePolicyInstance place.policyTypeId place.policyInstanceId body created))
  | .deleteCheckType place deleted _
  | .deleteCheckInstance place deleted _
  | .deleteReadMetadata place deleted
  | .deleteWriteMetadata place deleted _
  | .deleteScan place deleted
  | .deleteStartTimer place deleted _ =>
      some (.request (.deletePolicyInstance place.policyTypeId place.policyInstanceId deleted))
  | .statusCheckType place handlerId status _
  | .statusCheckInstance place handlerId status
  | .statusWrite place handlerId status =>
      some (.request (.setPolicyInstanceStatus place.policyTypeId place.policyInstanceId handlerId
        status))
  | .reportCheckType place _ _
  | .reportCheckInstance place _ _
  | .reportReadMetadata place
  | .reportScan place _ =>
      some (.request (.getPolicyInstanceStatus place.policyTypeId place.policyInstanceId))
  | .timerCheckType place ttl
  | .timerCheckInstance place ttl
  | .timerSleep place ttl
  | .timerScan place ttl
  | .timerClear place ttl _ _
  | .timerDeleteInstance place ttl
  | .timerDeleteMetadata place ttl =>
      some (.timer place.policyTypeId place.policyInstanceId ttl)
  | .returned _ => none
  | .raised _ => none

theorem start_storePolicyType (policyTypeId : Nat) (body : Body) :
    start (.request (.storePolicyType policyTypeId body)) = .storeTypeRead policyTypeId body ∨
      ∃ error, start (.request (.storePolicyType policyTypeId body)) = .raised error := by
  rw [start]
  split
  · exact .inr ⟨_, rfl⟩
  · split
    · exact .inl rfl
    · exact .inr ⟨_, rfl⟩

/-- What the clear loops delete are handler keys of the instance. -/
def Sound : Point → Prop
  | .storeClear place _ _ key keys => ∀ found ∈ key :: keys,
      Text.startswith found place.handlerPrefix = true
  | .timerClear place _ key keys => ∀ found ∈ key :: keys,
      Text.startswith found place.handlerPrefix = true
  | _ => True

/-- A point that a thread of the job can be at. -/
structure Within (job : Option Job) (point : Point) : Prop where
  tagged : ∀ own, point.job = some own → job = some own
  sound : point.Sound

theorem within_returned (job : Option Job) (value : Json) : Within job (.returned value) where
  tagged := by rintro _ ⟨⟩
  sound := trivial

theorem within_raised (job : Option Job) (error : A1Error) : Within job (.raised error) where
  tagged := by rintro _ ⟨⟩
  sound := trivial

theorem start_within (job : Job) : Within (some job) (start job) := by
  cases job with
  | timer => exact ⟨fun _ same => same, trivial⟩
  | request request =>
      cases request with
      | storePolicyType policyTypeId body =>
          rcases start_storePolicyType policyTypeId body with reads | ⟨error, raises⟩
          · rw [reads]
            exact ⟨fun _ same => same, trivial⟩
          · rw [raises]
            exact within_raised _ error
      | _ => exact ⟨fun _ same => same, trivial⟩

theorem afterItem_within {job : Option Job} {result : Except Json.ItemError Json}
    {next : Json → Point} (within : ∀ value, Within job (next value)) :
    Within job (afterItem result next) := by
  cases result with
  | ok value => exact within value
  | error error => exact within_raised job (.item error)

theorem afterStoreScan_within {place : Place} (body : Body) (created : String) {keys : List String}
    (starts : ∀ found ∈ keys, Text.startswith found place.handlerPrefix = true) :
    Within (storeScan place body created).job (afterStoreScan place body created keys) := by
  cases keys with
  | nil => exact ⟨fun _ same => same, trivial⟩
  | cons key keys => exact ⟨fun _ same => same, starts⟩

theorem afterTimerScan_within {place : Place} (ttl : Int) {keys : List String}
    (starts : ∀ found ∈ keys, Text.startswith found place.handlerPrefix = true) :
    Within (timerScan place ttl).job (afterTimerScan place ttl keys) := by
  cases keys with
  | nil => exact ⟨fun _ same => same, trivial⟩
  | cons key keys => exact ⟨fun _ same => same, starts⟩

theorem found_starts (world : World) (place : Place) :
    ∀ found ∈ (world.sdl.findAndGet place.handlerPrefix).map Prod.fst,
      Text.startswith found place.handlerPrefix = true := by
  intro found member
  exact ((KeyValue.mem_findAndGet_keys _ _ _).mp member).2

/-- A thread stays in its job until it ends, and deletes only what it has found. -/
theorem after_within (settings : Settings) (world : World) {point : Point} (sound : point.Sound) :
    Within point.job (point.after settings world) := by
  cases point with
  | storeScan place body created =>
      exact afterStoreScan_within body created (found_starts world place)
  | storeClear place body created key keys =>
      exact afterStoreScan_within body created
        (fun found member => sound found (List.mem_cons_of_mem key member))
  | timerScan place ttl => exact afterTimerScan_within ttl (found_starts world place)
  | timerClear place ttl key keys =>
      exact afterTimerScan_within ttl
        (fun found member => sound found (List.mem_cons_of_mem key member))
  | deleteReadMetadata place deleted =>
      exact afterItem_within (fun _ => ⟨fun _ same => same, trivial⟩)
  | reportReadMetadata place =>
      exact afterItem_within (fun _ => ⟨fun _ same => same, trivial⟩)
  | reportScan place metadata =>
      rw [after]
      split
      · exact afterItem_within (fun value => within_returned _ value)
      · exact within_returned _ metadata
  | deleteCheckInstance place deleted check =>
      simp only [after]
      split
      · exact within_raised _ _
      · cases check <;> exact ⟨fun _ same => same, trivial⟩
  | reportCheckInstance place check metadata =>
      simp only [after]
      split
      · exact within_raised _ _
      · cases check <;> exact ⟨fun _ same => same, trivial⟩
  | statusCheckType place handlerId status again =>
      rw [after]
      split
      · exact within_raised _ _
      · cases again <;> exact ⟨fun _ same => same, trivial⟩
  | storeTypeRead | deleteTypeCheck | deleteTypeList | storeCheck | storeRead | deleteCheckType
  | statusCheckInstance | reportCheckType | timerCheckType | timerCheckInstance =>
      rw [after]
      split <;> first | exact within_raised _ _ | exact ⟨fun _ same => same, trivial⟩
  | storeTypeWrite | deleteTypeWrite | storeMetadata | deleteStartTimer | statusWrite
  | timerDeleteMetadata | returned => exact within_returned _ _
  | raised error => exact within_raised _ error
  | storeInstance | deleteWriteMetadata | deleteScan | timerSleep | timerDeleteInstance =>
      exact ⟨fun _ same => same, trivial⟩

end Point

/-- The program makes the calls of its point, whatever the answers. -/
inductive Follows (settings : Settings) : Point → A1M Json → Prop where
  | returned (value : Json) : Follows settings (.returned value) (.done value)
  | raised (error : A1Error) : Follows settings (.raised error) (.raise error)
  | call {point : Point} {request : Call} {next : Answer request → A1M Json}
      (asks : point.request = some request)
      (answered : ∀ world, Follows settings (point.after settings world)
        (next (service.answer request world))) :
      Follows settings point (.call request next)

namespace Follows

variable {settings : Settings} {rest : A1M Json}

theorem next {point : Point} {request : Call} (follows : Follows settings point rest)
    (asks : point.request = some request) :
    ∃ next, rest = .call request next ∧ ∀ world,
      Follows settings (point.after settings world) (next (service.answer request world)) := by
  cases follows with
  | returned value => exact absurd asks (by simp [Point.request])
  | raised error => exact absurd asks (by simp [Point.request])
  | call asked answered =>
      rw [asked] at asks
      cases Option.some.inj asks
      exact ⟨_, rfl, answered⟩

theorem run_next {point : Point} {request : Call} (follows : Follows settings point rest)
    (asks : point.request = some request) (world : World) :
    ∃ later, Follows settings (point.after settings world) later ∧
      rest.run service world = later.run service (service.effect request world) := by
  rcases follows.next asks with ⟨next, rfl, answered⟩
  exact ⟨_, answered world, rfl⟩

theorem run_returned {value : Json} (follows : Follows settings (.returned value) rest)
    (world : World) : rest.run service world = (.ok value, world) := by
  cases follows with
  | returned value => rfl
  | call asks answered => exact absurd asks (by simp [Point.request])

end Follows

section Programs

/-! Each program follows the points of its job, from the last call back to the first. -/

variable {settings : Settings} (place : Place)

theorem follows_item {result : Except Json.ItemError Json} {next : Json → Point}
    {rest : Json → A1M Json} (follows : ∀ value, Follows settings (next value) (rest value)) :
    Follows settings (Point.afterItem result next) (ofItem result >>= rest) := by
  cases result with
  | ok value => exact follows value
  | error error => exact .raised _

theorem follows_typeCheck {point : Point} {found : Point} {rest : Unit → A1M Json}
    (asks : point.request = some (.get place.typeKey))
    (after : ∀ world, point.after settings world =
      match world.sdl.get place.typeKey with
      | none => Point.typeMissing place
      | some _ => found)
    (follows : Follows settings found (rest ())) :
    Follows settings point (typeIsValid place.policyTypeId >>= rest) := by
  refine .call asks ?_
  intro world
  have asked : service.answer (.get (generateTypeKey place.policyTypeId)) world =
      world.sdl.get place.typeKey := rfl
  rw [after, asked]
  cases world.sdl.get place.typeKey with
  | none => exact .raised _
  | some value => exact follows

/-- `_instance_is_valid`, with the point behind its first call and the one behind its second. -/
theorem follows_check {point middle found : Point} {rest : Unit → A1M Json}
    (asksType : point.request = some (.get place.typeKey))
    (afterType : ∀ world, point.after settings world =
      match world.sdl.get place.typeKey with
      | none => Point.typeMissing place
      | some _ => middle)
    (asksInstance : middle.request = some (.get place.instanceKey))
    (afterInstance : ∀ world, middle.after settings world =
      match world.sdl.get place.instanceKey with
      | none => Point.instanceMissing place
      | some _ => found)
    (follows : Follows settings found (rest ())) :
    Follows settings point
      (instanceIsValid place.policyTypeId place.policyInstanceId >>= rest) := by
  rw [instanceIsValid, Program.bind_assoc]
  apply follows_typeCheck place asksType afterType
  refine .call asksInstance ?_
  intro world
  have asked : service.answer
      (.get (generateInstanceKey place.policyTypeId place.policyInstanceId)) world =
        world.sdl.get place.instanceKey := rfl
  rw [afterInstance, asked]
  cases world.sdl.get place.instanceKey with
  | none => exact .raised _
  | some value => exact follows

theorem follows_storeInstance (body : Body) (created operation : String) :
    Follows settings (.storeInstance place body created operation)
      (storeInstance place.policyTypeId place.policyInstanceId body created operation >>=
        fun answer => .done (.str answer)) :=
  .call rfl (fun _ => .call rfl (fun _ => .returned _))

theorem follows_storeClear (body : Body) (created : String) (keys : List String) :
    Follows settings (Point.afterStoreScan place body created keys)
      ((Program.forEach keys sdlDelete >>= fun _ =>
        storeInstance place.policyTypeId place.policyInstanceId body created "UPDATE") >>=
          fun answer => .done (.str answer)) := by
  induction keys with
  | nil => exact follows_storeInstance place body created "UPDATE"
  | cons key keys ih => exact .call rfl (fun _ => ih)

theorem follows_store (body : Body) (created : String) :
    Follows settings (.storeCheck place body created)
      (program settings
        (.storePolicyInstance place.policyTypeId place.policyInstanceId body created)) := by
  rw [program, storePolicyInstance, Program.bind_assoc]
  apply follows_typeCheck place rfl (fun _ => rfl)
  · refine .call rfl ?_
    intro world
    have asked : service.answer
        (.get (generateInstanceKey place.policyTypeId place.policyInstanceId)) world =
          world.sdl.get place.instanceKey := rfl
    rw [asked, Point.after]
    cases world.sdl.get place.instanceKey with
    | none => exact follows_storeInstance place body created "CREATE"
    | some old => exact .call rfl (fun _ => follows_storeClear place body created _)

theorem follows_timerClear (ttl : Int) (keys : List String) :
    Follows settings (Point.afterTimerScan place ttl keys)
      ((Program.forEach keys sdlDelete >>= fun _ =>
        sdlDelete (generateInstanceKey place.policyTypeId place.policyInstanceId) >>= fun _ =>
          sdlDelete (generateInstanceMetadataKey place.policyTypeId place.policyInstanceId)) >>=
        fun _ => .done .null) := by
  induction keys with
  | nil => exact .call rfl (fun _ => .call rfl (fun _ => .returned _))
  | cons key keys ih => exact .call rfl (fun _ => ih)

theorem follows_timer (ttl : Int) :
    Follows settings (.timerCheckType place ttl)
      (jobProgram settings (.timer place.policyTypeId place.policyInstanceId ttl)) := by
  rw [jobProgram, deleteAfter, Program.bind_assoc]
  apply follows_check place rfl (fun _ => rfl) rfl (fun _ => rfl)
  exact .call rfl (fun _ => .call rfl (fun _ => follows_timerClear place ttl _))

theorem follows_delete (deleted : String) :
    Follows settings (.deleteCheckType place deleted .entry)
      (program settings
        (.deletePolicyInstance place.policyTypeId place.policyInstanceId deleted)) := by
  rw [program, deletePolicyInstance, Program.bind_assoc]
  apply follows_check place rfl (fun _ => rfl) rfl (fun _ => rfl)
  rw [getMetadata, Program.bind_assoc, Program.bind_assoc]
  apply follows_check place rfl (fun _ => rfl) rfl (fun _ => rfl)
  refine .call rfl ?_
  intro world
  change Follows settings (Point.afterItem _ _) ((ofItem _ >>= _) >>= _)
  rw [Program.bind_assoc]
  apply follows_item
  intro createdAt
  refine .call rfl ?_
  intro _
  change Follows settings (.deleteCheckType place deleted .statuses)
    (((instanceIsValid place.policyTypeId place.policyInstanceId >>= _) >>= _) >>= _)
  rw [Program.bind_assoc, Program.bind_assoc]
  apply follows_check place rfl (fun _ => rfl) rfl (fun _ => rfl)
  exact .call rfl (fun _ => .call rfl (fun _ => .returned _))

theorem follows_status (handlerId : String) (status : Json) :
    Follows settings (.statusCheckType place handlerId status false)
      (program settings
        (.setPolicyInstanceStatus place.policyTypeId place.policyInstanceId handlerId
          status)) := by
  rw [program, setPolicyInstanceStatus, Program.bind_assoc]
  apply follows_typeCheck place rfl (fun _ => rfl)
  rw [Program.bind_assoc]
  apply follows_check place rfl (fun _ => rfl) rfl (fun _ => rfl)
  exact .call rfl (fun _ => .returned _)

theorem follows_report :
    Follows settings (.reportCheckType place .entry .null)
      (program settings
        (.getPolicyInstanceStatus place.policyTypeId place.policyInstanceId)) := by
  rw [program, getPolicyInstanceStatus]
  apply follows_check place rfl (fun _ => rfl) rfl (fun _ => rfl)
  rw [getMetadata, Program.bind_assoc]
  apply follows_check place rfl (fun _ => rfl) rfl (fun _ => rfl)
  refine .call rfl ?_
  intro world
  apply follows_item
  intro notInEffect
  rw [getStatuses, Program.bind_assoc]
  apply follows_check place rfl (fun _ => rfl) rfl (fun _ => rfl)
  refine .call rfl ?_
  intro later
  change Follows settings (Point.after settings later (.reportScan place notInEffect))
    (if ((later.sdl.findAndGet place.handlerPrefix).map Prod.snd).any
        (fun status => status == .str "OK") then
      ofItem (notInEffect.setItem "instance_status" (.str "IN EFFECT"))
    else .done notInEffect)
  rw [Point.after]
  split
  · cases notInEffect.setItem "instance_status" (.str "IN EFFECT") with
    | ok marked => exact .returned marked
    | error error => exact .raised _
  · exact .returned notInEffect

end Programs

theorem follows_storeType (settings : Settings) (policyTypeId : Nat) (body : Body) :
    Follows settings (Point.start (.request (.storePolicyType policyTypeId body)))
      (program settings (.storePolicyType policyTypeId body)) := by
  rw [program, storePolicyType, Point.start]
  cases (Json.obj body).getItem "policy_type_id" with
  | error error => exact .raised _
  | ok bodyId =>
      simp only [ofItem, Program.done_bind]
      split
      · refine .call rfl ?_
        intro world
        rw [Point.after, service_answer_get]
        cases world.sdl.get (generateTypeKey policyTypeId) with
        | some old => exact .raised _
        | none => exact .call rfl (fun _ => .returned _)
      · exact .raised _

theorem follows_deleteType (settings : Settings) (policyTypeId : Nat) :
    Follows settings (.deleteTypeCheck policyTypeId)
      (program settings (.deletePolicyType policyTypeId)) := by
  rw [program, deletePolicyType, getInstanceList, Program.bind_assoc, Program.bind_assoc]
  -- the type check has no instance id to name
  apply follows_typeCheck ⟨policyTypeId, ""⟩ rfl (fun _ => rfl)
  refine .call rfl ?_
  intro world
  rw [service_answer_findAndGet, Point.after]
  cases world.sdl.findAndGet (prefixesForType policyTypeId) with
  | nil => exact .call rfl (fun _ => .returned _)
  | cons entry entries => exact .raised _

/-- The start of the simulation: every program follows its first point. -/
theorem follows_start (settings : Settings) (job : Job) :
    Follows settings (Point.start job) (jobProgram settings job) := by
  cases job with
  | timer policyTypeId policyInstanceId ttl =>
      exact follows_timer ⟨policyTypeId, policyInstanceId⟩ ttl
  | request request =>
      cases request with
      | storePolicyType policyTypeId body => exact follows_storeType settings policyTypeId body
      | deletePolicyType policyTypeId => exact follows_deleteType settings policyTypeId
      | storePolicyInstance policyTypeId policyInstanceId body created =>
          exact follows_store ⟨policyTypeId, policyInstanceId⟩ body created
      | deletePolicyInstance policyTypeId policyInstanceId deleted =>
          exact follows_delete ⟨policyTypeId, policyInstanceId⟩ deleted
      | setPolicyInstanceStatus policyTypeId policyInstanceId handlerId status =>
          exact follows_status ⟨policyTypeId, policyInstanceId⟩ handlerId status
      | getPolicyInstanceStatus policyTypeId policyInstanceId =>
          exact follows_report ⟨policyTypeId, policyInstanceId⟩

/-- The thread is at the point: it makes its calls, in its job. -/
structure Located (settings : Settings) (thread : JobThread) (point : Point) : Prop where
  follows : Follows settings point thread.rest
  tagged : ∀ job, point.job = some job → thread.tag = job
  sound : point.Sound

theorem located_start (settings : Settings) (job : Job) :
    Located settings ⟨job, jobProgram settings job⟩ (Point.start job) where
  follows := follows_start settings job
  tagged := fun other same => Option.some.inj ((Point.start_within job).tagged other same)
  sound := (Point.start_within job).sound

namespace Located

variable {settings : Settings} {tag : Job} {point : Point}

theorem pending {thread : JobThread} (located : Located settings thread point) :
    thread.rest.pending = point.request := by
  cases thread with
  | mk tag rest =>
      cases located.follows with
      | returned value => rfl
      | raised error => rfl
      | call asks answered => rw [asks]; rfl

theorem asks {request : Call} {next : Answer request → A1M Json}
    (located : Located settings ⟨tag, .call request next⟩ point) :
    point.request = some request := by
  rw [← located.pending]
  rfl

theorem turned {request : Call} {next : Answer request → A1M Json}
    (located : Located settings ⟨tag, .call request next⟩ point) (world : World) :
    Located settings ⟨tag, next (service.answer request world)⟩ (point.after settings world) where
  follows := by
    cases located.follows with
    | call _ answered => exact answered world
  tagged := by
    intro job same
    exact located.tagged job ((Point.after_within settings world located.sound).tagged job same)
  sound := (Point.after_within settings world located.sound).sound

end Located

end NearRtRic.A1
