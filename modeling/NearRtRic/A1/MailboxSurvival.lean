import NearRtRic.A1.RmrLoop

/-! Which mailboxes the RMR loop survives. -/

namespace NearRtRic.A1

section

variable [ToString Json] (loads : Bytes → Except LoadsError Json) (encodes : String → Bool)

/-- The payload is missing, parses, or fails in the way that the except clauses name. -/
def LoadsCaught (msg : Msg) : Prop :=
  ∀ bytes error, msg.payload = .ok bytes → loads bytes = .error error → error = .jsonDecodeError

/-- Each listed instance is still held when it is checked, up to the end of the list or to the
deletion of its type; `made` calls have been made before. -/
def StillHeld (worlds : Nat → World) (pti : Json) : Nat → List String → Prop
  | _, [] => True
  | made, pii :: rest =>
      (worlds made).sdl.get (generateTypeKey pti) = none ∨
        ((worlds (made + 1)).sdl.get (generateInstanceKey pti pii)).isSome ∧
          StillHeld worlds pti (made + 4) rest

def QuerySafe (received : Received) : Prop :=
  LoadsCaught loads received.msg ∧
    ∀ pti, (loadPayload loads received.msg >>= fun pay => item pay "policy_type_id") = .ok pti →
      ((received.around.worlds 0).sdl.get (generateTypeKey pti)).isSome →
        StillHeld received.around.worlds pti 2
          (((received.around.worlds 1).sdl.findAndGet (prefixesForType pti)).map
            (fun entry => instanceIdOfKey (prefixesForType pti) entry.1))

/-- A job request with a textual id, which can be encoded if the job is created. -/
def JobSafe (received : Received) : Prop :=
  ∃ payload uuidStr, loadPayload loads received.msg = .ok payload ∧
    payload.getItem "job-id" = .ok (.str uuidStr) ∧
      ((received.around.responses 0).statusCode = 201 ∨
        (received.around.responses 0).statusCode = 200 → encodes uuidStr = true)

/-- The condition under which a message gets through the branch of a type. -/
def SafeAs (mtype : Int) (received : Received) : Prop :=
  if mtype = A1_POLICY_RESPONSE then
    LoadsCaught loads received.msg
  else if mtype = A1_POLICY_QUERY then
    QuerySafe loads received
  else if mtype = A1_EI_QUERY_ALL then
    (received.around.responses 0).json.isSome = true
  else if mtype = A1_EI_CREATE_JOB then
    JobSafe loads encodes received
  else
    True

/-- The pairs that the loop gets through: they have a type, and its branch takes them. -/
def Safe (received : Received) : Prop :=
  ∃ mtype, received.msg.messageType = some mtype ∧ SafeAs loads encodes mtype received

end

def RmrCall.isFree : RmrCall → Bool
  | .free _ => true
  | _ => false

/-- The buffer that stands for a pair after some calls: `rmr_rts_msg` may return another one. -/
def liveBuffer (buffers : Nat → Buffer) : Nat → Buffer → List RmrCall → Buffer
  | _, sbuf, [] => sbuf
  | made, _, .rts _ _ _ :: calls => liveBuffer buffers (made + 1) (buffers made) calls
  | made, sbuf, _ :: calls => liveBuffer buffers (made + 1) sbuf calls

def FreedOnce (received : Received) (calls : List RmrCall) : Prop :=
  ∃ front, calls = front ++ [.free (liveBuffer received.around.buffers 0 received.sbuf front)] ∧
    ∀ call ∈ front, call.isFree = false

section

variable [ToString Json] (loads : Bytes → Except LoadsError Json) (encodes : String → Bool)

/-- A well-formed response for an instance that is there whenever it is looked up is applied. -/
def Applied (received : Received) (calls : List RmrCall) : Prop :=
  ∀ pay, received.msg.messageType = some A1_POLICY_RESPONSE →
    statusUpdate loads received.msg = .ok pay →
    ((received.around.worlds 0).sdl.get (generateTypeKey pay.policyTypeId)).isSome →
    ((received.around.worlds 1).sdl.get (generateTypeKey pay.policyTypeId)).isSome →
    ((received.around.worlds 2).sdl.get
      (generateInstanceKey pay.policyTypeId pay.policyInstanceId)).isSome →
    .sdl (.set (generateHandlerKey pay.policyTypeId pay.policyInstanceId pay.handlerId)
      pay.status) ∈ calls

/-- What is asked of each pair of a mailbox. -/
structure Handled (received : Received) (run : PairRun) : Prop where
  own : run.handledAs = received.msg.messageType
  freed : FreedOnce received run.calls
  applied : Applied loads received run.calls

/-- No exception leaves the loop and every pair is handled as it should be. -/
structure Survives (mtype : Option Int) (mailbox : List Received) : Prop where
  returns : ∃ left, (mailboxLoop loads encodes mtype mailbox).2 = .ok left
  handled : List.Forall₂ (Handled loads) mailbox (mailboxLoop loads encodes mtype mailbox).1

end

section Tracks

variable {buffers : Nat → Buffer} {made : Nat} {sbuf middle last : Buffer}
variable {first second : List RmrCall}

/-- Calls that free nothing and leave the pair with a buffer. -/
structure Tracks (buffers : Nat → Buffer) (made : Nat) (sbuf : Buffer) (calls : List RmrCall)
    (last : Buffer) : Prop where
  keeps : ∀ call ∈ calls, call.isFree = false
  live : liveBuffer buffers made sbuf calls = last

theorem liveBuffer_append :
    liveBuffer buffers made sbuf (first ++ second) =
      liveBuffer buffers (made + first.length) (liveBuffer buffers made sbuf first) second := by
  induction first generalizing made sbuf with
  | nil => rfl
  | cons call calls ih =>
      have count : made + (call :: calls).length = made + 1 + calls.length := by
        rw [List.length_cons]
        omega
      rw [count]
      cases call with
      | rts buffer pay mtype => exact ih
      | _ => exact ih

theorem Tracks.append (start : Tracks buffers made sbuf first middle)
    (rest : Tracks buffers (made + first.length) middle second last) :
    Tracks buffers made sbuf (first ++ second) last where
  keeps := by
    intro call member
    rcases List.mem_append.mp member with early | later
    · exact start.keeps call early
    · exact rest.keeps call later
  live := by rw [liveBuffer_append, start.live, rest.live]

theorem tracks_sdl (calls : List Call) : Tracks buffers made sbuf (calls.map .sdl) sbuf where
  keeps := by
    intro call member
    rcases List.mem_map.mp member with ⟨inner, _, rfl⟩
    rfl
  live := by
    induction calls generalizing made with
    | nil => rfl
    | cons call calls ih => exact ih

end Tracks

section Branches

variable {around : Surroundings} {made : Nat}

def sdlAnswers (around : Surroundings) (made : Nat) (call : Call) : Answer call :=
  service.answer call (around.worlds made)

variable (around made) in
theorem runWith_ofData {Value : Type} (program : A1M Value) :
    (ofData program).runWith around.answers made =
      ((program.runWith (sdlAnswers around) made).1.map .sdl,
        .ok (program.runWith (sdlAnswers around) made).2) := by
  induction program generalizing made with
  | done value => rfl
  | raise error => rfl
  | call request next ih =>
      rw [ofData, Program.runWith_call, Program.runWith_call, ih]
      rfl

variable {loads : Bytes → Except LoadsError Json} {encodes : String → Bool}
variable {received : Received}

/-- An exception that the except clauses do not name. -/
def Escapes {Value : Type} (excepts : LoopError → Bool) (outcome : Except LoopError Value) : Prop :=
  ∃ error, outcome = .error error ∧ excepts error = false

theorem loadsCaught_of_ok {msg : Msg} {pay : Json} (loaded : loadPayload loads msg = .ok pay) :
    LoadsCaught loads msg := by
  intro bytes error found failed
  simp [loadPayload, found, failed, Except.mapError] at loaded

theorem loadPayload_error {msg : Msg} {error : LoopError}
    (failed : loadPayload loads msg = .error error) :
    (∃ missing, error = .item missing) ∧ LoadsCaught loads msg ∨
      ∃ cause, error = .loads cause ∧ (LoadsCaught loads msg ↔ cause = .jsonDecodeError) := by
  cases found : msg.payload with
  | error missing =>
      left
      simp only [loadPayload, found] at failed
      cases failed
      refine ⟨⟨missing, rfl⟩, ?_⟩
      intro bytes _ same
      rw [found] at same
      cases same
  | ok bytes =>
      cases loaded : loads bytes with
      | ok pay => simp [loadPayload, found, loaded, Except.mapError] at failed
      | error cause =>
          right
          simp only [loadPayload, found, loaded, Except.mapError] at failed
          cases failed
          refine ⟨cause, rfl, ?_⟩
          constructor
          · intro caught
            exact caught bytes cause found loaded
          · intro decode other error same raised
            rw [found] at same
            cases same
            rw [loaded] at raised
            cases raised
            exact decode

theorem bind_error {Value Next : Type} {first : Except LoopError Value}
    {rest : Value → Except LoopError Next} {error : LoopError}
    (failed : (first >>= rest) = .error error) :
    first = .error error ∨ ∃ value, first = .ok value ∧ rest value = .error error := by
  cases first with
  | error cause =>
      cases failed
      exact .inl rfl
  | ok value => exact .inr ⟨value, rfl, failed⟩

theorem item_error {value : Json} {key : String} {error : LoopError}
    (failed : item value key = .error error) : ∃ missing, error = .item missing := by
  cases found : value.getItem key with
  | ok inner => simp [item, found, Except.mapError] at failed
  | error missing =>
      simp only [item, found, Except.mapError] at failed
      exact ⟨missing, (Except.error.inj failed).symm⟩

/-- Reading the payload and then subscripting it: clauses that name the subscripts' errors and
the decoding error let nothing else pass. -/
theorem subscripts_excepted {Value : Type} {excepts : LoopError → Bool}
    (items : ∀ missing, excepts (.item missing) = true)
    (decodes : ∀ kind, excepts (.loads kind) = true ↔ kind = .jsonDecodeError) {msg : Msg}
    {rest : Json → Except LoopError Value} {error : LoopError}
    (subscripts : ∀ pay, rest pay = .error error → ∃ missing, error = .item missing)
    (failed : (loadPayload loads msg >>= rest) = .error error) :
    excepts error = true ↔ LoadsCaught loads msg := by
  rcases bind_error failed with unloaded | ⟨pay, loaded, failed⟩
  · rcases loadPayload_error unloaded with ⟨⟨missing, rfl⟩, caught⟩ | ⟨kind, rfl, caught⟩
    · exact ⟨fun _ => caught, fun _ => items missing⟩
    · rw [caught]
      exact decodes kind
  · rcases subscripts pay failed with ⟨missing, rfl⟩
    exact ⟨fun _ => loadsCaught_of_ok loaded, fun _ => items missing⟩

theorem statusUpdate_error {msg : Msg} {error : LoopError}
    (failed : statusUpdate loads msg = .error error) :
    responseExcepts error = true ↔ LoadsCaught loads msg := by
  apply subscripts_excepted (fun _ => rfl) _ _ failed
  · intro kind
    cases kind <;> simp [responseExcepts]
  · intro pay failed
    rcases bind_error failed with first | ⟨policyTypeId, _, failed⟩
    · exact item_error first
    rcases bind_error failed with second | ⟨policyInstanceId, _, failed⟩
    · exact item_error second
    rcases bind_error failed with third | ⟨handlerId, _, failed⟩
    · exact item_error third
    rcases bind_error failed with fourth | ⟨status, _, failed⟩
    · exact item_error fourth
    · cases failed

theorem queryType_error {msg : Msg} {error : LoopError}
    (failed : (loadPayload loads msg >>= fun pay => item pay "policy_type_id") = .error error) :
    queryExcepts error = true ↔ LoadsCaught loads msg := by
  apply subscripts_excepted (fun _ => rfl) _ _ failed
  · intro kind
    cases kind <;> simp [queryExcepts]
  · intro pay missing
    exact item_error missing

theorem subscripts_ok {Value : Type} {msg : Msg} {rest : Json → Except LoopError Value}
    {value : Value} (loaded : (loadPayload loads msg >>= rest) = .ok value) :
    LoadsCaught loads msg := by
  cases first : loadPayload loads msg with
  | error cause =>
      rw [first] at loaded
      cases loaded
  | ok pay => exact loadsCaught_of_ok first

variable [ToString Json]

variable (around made) in
theorem typeIsValid_runWith (policyTypeId : Json) :
    (typeIsValid policyTypeId).runWith (sdlAnswers around) made =
      ([.get (generateTypeKey policyTypeId)],
        if ((around.worlds made).sdl.get (generateTypeKey policyTypeId)).isSome then .ok ()
        else .error (.policyTypeNotFound (toString policyTypeId))) := by
  simp only [typeIsValid, sdlGet, Program.call_bind, Program.done_bind, Program.runWith_call]
  cases held : (around.worlds made).sdl.get (generateTypeKey policyTypeId) with
  | none => simp [sdlAnswers, held, raise]
  | some body => simp [sdlAnswers, held]

variable (around made) in
theorem instanceIsValid_runWith (policyTypeId : Json) {InstanceId : Type} [ToString InstanceId]
    (policyInstanceId : InstanceId) :
    (instanceIsValid policyTypeId policyInstanceId).runWith (sdlAnswers around) made =
      if ((around.worlds made).sdl.get (generateTypeKey policyTypeId)).isSome then
        ([.get (generateTypeKey policyTypeId),
            .get (generateInstanceKey policyTypeId policyInstanceId)],
          if ((around.worlds (made + 1)).sdl.get
            (generateInstanceKey policyTypeId policyInstanceId)).isSome then .ok ()
          else .error (.policyInstanceNotFound (toString policyTypeId)))
      else
        ([.get (generateTypeKey policyTypeId)],
          .error (.policyTypeNotFound (toString policyTypeId))) := by
  have first := typeIsValid_runWith around made policyTypeId
  split
  · next typed =>
      rw [if_pos typed] at first
      rw [instanceIsValid, Program.runWith_bind_ok _ first]
      simp only [sdlGet, Program.call_bind, Program.done_bind, Program.runWith_call]
      cases held : (around.worlds (made + 1)).sdl.get
          (generateInstanceKey policyTypeId policyInstanceId) with
      | none => simp [sdlAnswers, held, raise]
      | some body => simp [sdlAnswers, held]
  · next untyped =>
      rw [if_neg untyped] at first
      rw [instanceIsValid, Program.runWith_bind_error _ first]

theorem setPolicyInstanceStatus_excepted (pay : StatusUpdate) {error : A1Error}
    (failed : ((setPolicyInstanceStatus pay.policyTypeId pay.policyInstanceId pay.handlerId
      pay.status).runWith (sdlAnswers around) made).2 = .error error) :
    responseExcepts (.data error) = true := by
  have first := typeIsValid_runWith around made pay.policyTypeId
  split at first
  · have second := instanceIsValid_runWith around (made + 1) pay.policyTypeId
      pay.policyInstanceId
    rw [setPolicyInstanceStatus, Program.runWith_bind_ok _ first] at failed
    split at second
    · split at second
      · rw [List.length_singleton, Program.runWith_bind_ok _ second] at failed
        cases failed
      · rw [List.length_singleton, Program.runWith_bind_error _ second] at failed
        cases failed
        rfl
    · rw [List.length_singleton, Program.runWith_bind_error _ second] at failed
      cases failed
      rfl
  · rw [setPolicyInstanceStatus, Program.runWith_bind_error _ first] at failed
    cases failed
    rfl

theorem setPolicyInstanceStatus_writes (pay : StatusUpdate)
    (typed : ((around.worlds 0).sdl.get (generateTypeKey pay.policyTypeId)).isSome)
    (still : ((around.worlds 1).sdl.get (generateTypeKey pay.policyTypeId)).isSome)
    (held : ((around.worlds 2).sdl.get
      (generateInstanceKey pay.policyTypeId pay.policyInstanceId)).isSome) :
    .set (generateHandlerKey pay.policyTypeId pay.policyInstanceId pay.handlerId) pay.status ∈
      ((setPolicyInstanceStatus pay.policyTypeId pay.policyInstanceId pay.handlerId
        pay.status).runWith (sdlAnswers around) 0).1 := by
  have first := typeIsValid_runWith around 0 pay.policyTypeId
  have second := instanceIsValid_runWith around (0 + 1) pay.policyTypeId
    pay.policyInstanceId
  rw [if_pos typed] at first
  rw [if_pos still, if_pos held] at second
  rw [setPolicyInstanceStatus, Program.runWith_bind_ok _ first, List.length_singleton,
    Program.runWith_bind_ok _ second]
  simp [sdlSet]

variable (loads received) in
theorem policyResponse_spec (sbuf : Buffer) :
    ∃ calls outcome, (policyResponse loads received.msg sbuf).runWith
        received.around.answers 0 = (calls, .ok (sbuf, outcome)) ∧
      Tracks received.around.buffers 0 sbuf calls sbuf ∧
      (Escapes responseExcepts outcome ↔ ¬ LoadsCaught loads received.msg) ∧
      Applied loads received calls := by
  cases parsed : statusUpdate loads received.msg with
  | error error =>
      refine ⟨[], .error error, by rw [policyResponse, parsed]; rfl, tracks_sdl [], ?_, ?_⟩
      · rw [← statusUpdate_error parsed, Bool.not_eq_true]
        constructor
        · intro escapes
          rcases escapes with ⟨same, raised, unnamed⟩
          cases raised
          exact unnamed
        · intro unnamed
          exact ⟨error, rfl, unnamed⟩
      · intro pay _ loaded
        rw [parsed] at loaded
        cases loaded
  | ok pay =>
      have ran := runWith_ofData received.around 0
        (setPolicyInstanceStatus pay.policyTypeId pay.policyInstanceId pay.handlerId pay.status)
      refine ⟨_, _, by rw [policyResponse, parsed]; exact Program.runWith_bind_ok _ ran, ?_, ?_, ?_⟩
      · rw [Program.pure_eq, Program.runWith_done, List.append_nil]
        exact tracks_sdl _
      · have caught := subscripts_ok parsed
        simp only [caught, not_true_eq_false, iff_false]
        intro escapes
        rcases escapes with ⟨error, raised, unnamed⟩
        cases ended : ((setPolicyInstanceStatus pay.policyTypeId pay.policyInstanceId
            pay.handlerId pay.status).runWith (sdlAnswers received.around) 0).2 with
        | ok _ =>
            rw [ended] at raised
            cases raised
        | error cause =>
            have named := setPolicyInstanceStatus_excepted pay ended
            rw [ended] at raised
            cases raised
            rw [named] at unnamed
            cases unnamed
      · intro other _ loaded typed still held
        rw [parsed] at loaded
        cases loaded
        have written := setPolicyInstanceStatus_writes pay typed still held
        apply List.mem_append_left
        exact List.mem_map_of_mem written

variable (around made) in
theorem getPolicyInstance_runWith (pti : Json) (pii : String) :
    (getPolicyInstance pti pii).runWith (sdlAnswers around) made =
      if ((around.worlds made).sdl.get (generateTypeKey pti)).isSome then
        if ((around.worlds (made + 1)).sdl.get (generateInstanceKey pti pii)).isSome then
          ([.get (generateTypeKey pti), .get (generateInstanceKey pti pii),
              .get (generateInstanceKey pti pii)],
            .ok ((around.worlds (made + 2)).sdl.get (generateInstanceKey pti pii)))
        else
          ([.get (generateTypeKey pti), .get (generateInstanceKey pti pii)],
            .error (.policyInstanceNotFound (toString pti)))
      else
        ([.get (generateTypeKey pti)], .error (.policyTypeNotFound (toString pti))) := by
  have checked := instanceIsValid_runWith around made pti pii
  split at checked
  · next typed =>
      rw [if_pos typed]
      split at checked
      · next held =>
          rw [if_pos held, getPolicyInstance, Program.runWith_bind_ok _ checked]
          rfl
      · next missing =>
          rw [if_neg missing, getPolicyInstance, Program.runWith_bind_error _ checked]
  · next untyped => rw [if_neg untyped, getPolicyInstance, Program.runWith_bind_error _ checked]

def instanceCalls (pti : Json) (pii : String) (found : Option Json) (sbuf : Buffer) :
    List RmrCall :=
  [.sdl (.get (generateTypeKey pti)), .sdl (.get (generateInstanceKey pti pii)),
    .sdl (.get (generateInstanceKey pti pii)),
    .rts sbuf (.dumped (a1ToHandler "CREATE" pti pii (found.getD .null))) A1_POLICY_REQUEST]

theorem sendInstances_sent {pti : Json} {pii : String} (rest : List String) (sbuf : Buffer)
    (typed : ((around.worlds made).sdl.get (generateTypeKey pti)).isSome = true)
    (held : ((around.worlds (made + 1)).sdl.get (generateInstanceKey pti pii)).isSome = true) :
    (sendInstances pti (pii :: rest) sbuf).runWith around.answers made =
      (instanceCalls pti pii ((around.worlds (made + 2)).sdl.get (generateInstanceKey pti pii)) sbuf ++
          ((sendInstances pti rest (around.buffers (made + 3))).runWith around.answers
            (made + 4)).1,
        ((sendInstances pti rest (around.buffers (made + 3))).runWith around.answers
          (made + 4)).2) := by
  have read := runWith_ofData around made (getPolicyInstance pti pii)
  rw [getPolicyInstance_runWith, if_pos typed, if_pos held] at read
  rw [sendInstances, Program.runWith_bind_ok _ read]
  rfl

theorem sendInstances_stopped {pti : Json} {pii : String} (rest : List String) (sbuf : Buffer)
    {calls : List Call} {error : A1Error}
    (failed : (getPolicyInstance pti pii).runWith (sdlAnswers around) made =
      (calls, .error error)) :
    (sendInstances pti (pii :: rest) sbuf).runWith around.answers made =
      (calls.map .sdl, .ok (sbuf, .error (.data error))) := by
  have read := runWith_ofData around made (getPolicyInstance pti pii)
  rw [failed] at read
  rw [sendInstances, Program.runWith_bind_ok _ read]
  simp

variable (around) in
theorem sendInstances_spec (pti : Json) (ids : List String) (made : Nat) (sbuf : Buffer) :
    ∃ calls last outcome, (sendInstances pti ids sbuf).runWith around.answers made =
        (calls, .ok (last, outcome)) ∧
      Tracks around.buffers made sbuf calls last ∧
      (Escapes queryExcepts outcome ↔ ¬ StillHeld around.worlds pti made ids) := by
  induction ids generalizing made sbuf with
  | nil =>
      refine ⟨[], sbuf, .ok (), rfl, tracks_sdl [], ?_⟩
      simp [Escapes, StillHeld]
  | cons pii rest ih =>
      have read := getPolicyInstance_runWith around made pti pii
      rw [StillHeld]
      by_cases typed : ((around.worlds made).sdl.get (generateTypeKey pti)).isSome = true
      · have present : (around.worlds made).sdl.get (generateTypeKey pti) ≠ none :=
          Option.isSome_iff_ne_none.mp typed
        by_cases held : ((around.worlds (made + 1)).sdl.get
            (generateInstanceKey pti pii)).isSome = true
        · rcases ih (made + 4) (around.buffers (made + 3)) with
            ⟨calls, last, outcome, ran, tracks, escapes⟩
          have whole := sendInstances_sent rest sbuf typed held
          rw [ran] at whole
          refine ⟨_, last, outcome, whole, ?_, ?_⟩
          · have start : Tracks around.buffers made sbuf (instanceCalls pti pii
                ((around.worlds (made + 2)).sdl.get (generateInstanceKey pti pii)) sbuf)
                  (around.buffers (made + 3)) := ⟨by simp [instanceCalls, RmrCall.isFree], rfl⟩
            exact start.append tracks
          · rw [escapes]
            simp [present, held]
        · rw [if_pos typed, if_neg held] at read
          refine ⟨_, sbuf, _, sendInstances_stopped rest sbuf read, tracks_sdl _, ?_⟩
          simp [Escapes, queryExcepts, present, held]
      · rw [if_neg typed] at read
        refine ⟨_, sbuf, _, sendInstances_stopped rest sbuf read, tracks_sdl _, ?_⟩
        have absent : (around.worlds made).sdl.get (generateTypeKey pti) = none :=
          Option.not_isSome_iff_eq_none.mp typed
        simp [Escapes, queryExcepts, absent]

variable (around made) in
theorem getInstanceList_runWith (pti : Json) :
    (getInstanceList pti).runWith (sdlAnswers around) made =
      if ((around.worlds made).sdl.get (generateTypeKey pti)).isSome then
        ([.get (generateTypeKey pti), .findAndGet (prefixesForType pti)],
          .ok (((around.worlds (made + 1)).sdl.findAndGet (prefixesForType pti)).map
            (fun entry => instanceIdOfKey (prefixesForType pti) entry.1)))
      else
        ([.get (generateTypeKey pti)], .error (.policyTypeNotFound (toString pti))) := by
  have checked := typeIsValid_runWith around made pti
  split
  · next typed =>
      rw [if_pos typed] at checked
      rw [getInstanceList, Program.runWith_bind_ok _ checked]
      rfl
  · next untyped =>
      rw [if_neg untyped] at checked
      rw [getInstanceList, Program.runWith_bind_error _ checked]

variable (loads received) in
theorem policyQuery_spec (sbuf : Buffer) :
    ∃ calls last outcome, (policyQuery loads received.msg sbuf).runWith
        received.around.answers 0 = (calls, .ok (last, outcome)) ∧
      Tracks received.around.buffers 0 sbuf calls last ∧
      (Escapes queryExcepts outcome ↔ ¬ QuerySafe loads received) := by
  cases parsed : loadPayload loads received.msg >>= fun pay => item pay "policy_type_id" with
  | error error =>
      refine ⟨[], sbuf, .error error, by rw [policyQuery, parsed]; rfl, tracks_sdl [], ?_⟩
      have safe : QuerySafe loads received ↔ LoadsCaught loads received.msg := by
        constructor
        · intro safe
          exact safe.1
        · intro caught
          refine ⟨caught, ?_⟩
          intro pti loaded
          rw [parsed] at loaded
          cases loaded
      rw [safe, ← queryType_error parsed, Bool.not_eq_true]
      constructor
      · intro escapes
        rcases escapes with ⟨same, raised, unnamed⟩
        cases raised
        exact unnamed
      · intro unnamed
        exact ⟨error, rfl, unnamed⟩
  | ok pti =>
      have listed := runWith_ofData received.around 0 (getInstanceList pti)
      rw [getInstanceList_runWith] at listed
      have caught := subscripts_ok parsed
      by_cases typed : ((received.around.worlds 0).sdl.get (generateTypeKey pti)).isSome = true
      · rw [if_pos typed] at listed
        rcases sendInstances_spec received.around pti
          (((received.around.worlds 1).sdl.findAndGet (prefixesForType pti)).map
            (fun entry => instanceIdOfKey (prefixesForType pti) entry.1)) 2 sbuf with
          ⟨calls, last, outcome, ran, tracks, escapes⟩
        have whole : (policyQuery loads received.msg sbuf).runWith received.around.answers 0 =
            ([.sdl (.get (generateTypeKey pti)), .sdl (.findAndGet (prefixesForType pti))] ++ calls,
              .ok (last, outcome)) := by
          rw [policyQuery, parsed]
          simp only
          rw [Program.runWith_bind_ok _ listed]
          simp only [List.length_map, List.length_cons, List.length_nil, Nat.zero_add]
          rw [ran]
          rfl
        refine ⟨_, last, outcome, whole, ?_, ?_⟩
        · have start : Tracks received.around.buffers 0 sbuf ([Call.get (generateTypeKey pti),
              .findAndGet (prefixesForType pti)].map .sdl) sbuf := tracks_sdl _
          exact start.append tracks
        · rw [escapes, QuerySafe, parsed]
          constructor
          · intro gone safe
            exact gone (safe.2 pti rfl typed)
          · intro unsafe_ held
            apply unsafe_
            refine ⟨caught, ?_⟩
            intro other same _
            cases same
            exact held
      · rw [if_neg typed] at listed
        refine ⟨_, sbuf, .error (.data (.policyTypeNotFound (toString pti))), ?_, tracks_sdl
          [.get (generateTypeKey pti)], ?_⟩
        · rw [policyQuery, parsed]
          simp only
          rw [Program.runWith_bind_ok _ listed]
          rfl
        · have safe : QuerySafe loads received := by
            refine ⟨caught, ?_⟩
            intro other same still
            rw [parsed] at same
            cases same
            exact absurd still typed
          simp [Escapes, queryExcepts, safe]

omit [ToString Json] in
/-- The branch of a message ends, with a buffer to free, exactly under a condition. -/
structure EndsIff (around : Surroundings) (sbuf : Buffer) (branch : RmrM Buffer) (safe : Prop) :
    Prop where
  tracks : ∀ last, (branch.runWith around.answers 0).2 = .ok last →
    Tracks around.buffers 0 sbuf (branch.runWith around.answers 0).1 last
  ends : (∃ last, (branch.runWith around.answers 0).2 = .ok last) ↔ safe

omit [ToString Json] in
theorem tryExcept_runWith {excepts : LoopError → Bool}
    {block : RmrM (Buffer × Except LoopError Unit)} {calls : List RmrCall} {last : Buffer}
    {outcome : Except LoopError Unit}
    (ran : block.runWith around.answers 0 = (calls, .ok (last, outcome))) :
    (tryExcept excepts block).runWith around.answers 0 =
      (calls, match outcome with
        | .ok () => .ok last
        | .error error => if excepts error then .ok last else .error error) := by
  rw [tryExcept, Program.runWith_bind_ok _ ran]
  cases outcome with
  | ok _ => simp
  | error error =>
      by_cases named : excepts error = true
      · simp [named]
      · simp [named]

omit [ToString Json] in
theorem tryExcept_endsIff {excepts : LoopError → Bool}
    {block : RmrM (Buffer × Except LoopError Unit)} {calls : List RmrCall} {sbuf last : Buffer}
    {outcome : Except LoopError Unit} {safe : Prop}
    (ran : block.runWith around.answers 0 = (calls, .ok (last, outcome)))
    (tracks : Tracks around.buffers 0 sbuf calls last)
    (escapes : Escapes excepts outcome ↔ ¬ safe) :
    EndsIff around sbuf (tryExcept excepts block) safe := by
  have safeIff : safe ↔ ¬ Escapes excepts outcome := by rw [escapes, not_not]
  constructor
  · intro ended returned
    rw [tryExcept_runWith ran] at returned ⊢
    cases outcome with
    | ok _ =>
        cases returned
        exact tracks
    | error error =>
        simp only at returned
        split at returned
        · cases returned
          exact tracks
        · cases returned
  · rw [safeIff, tryExcept_runWith ran]
    cases outcome with
    | ok _ => simp [Escapes]
    | error error =>
        by_cases named : excepts error = true
        · simp [Escapes, named]
        · simp [Escapes, named]

omit [ToString Json] in
theorem eiQueryAll_endsIff (sbuf : Buffer) :
    EndsIff around sbuf (eiQueryAll sbuf) ((around.responses 0).json.isSome = true) := by
  have answer : around.answers 0 (.requestsGet ESC_EI_TYPE_PATH) = around.responses 0 := rfl
  cases body : (around.responses 0).json with
  | none =>
      constructor
      · intro last ended
        simp [eiQueryAll, answer, body] at ended
      · simp [eiQueryAll, answer, body]
  | some value =>
      constructor
      · intro last ended
        simp only [eiQueryAll, Program.runWith_call, answer, body, rtsMsg,
          Program.runWith_done] at ended ⊢
        cases ended
        exact ⟨by simp [RmrCall.isFree], rfl⟩
      · simp [eiQueryAll, answer, body, rtsMsg]

omit [ToString Json] in
theorem endsIff_of_raise (error : LoopError) {sbuf : Buffer} {branch : RmrM Buffer} {safe : Prop}
    (raised : branch = .raise error) (unsafe_ : ¬ safe) : EndsIff around sbuf branch safe := by
  rw [raised]
  constructor
  · intro last ended
    cases ended
  · simp [unsafe_]

omit [ToString Json] in
theorem eiCreateJob_created {payload data : Json} {uuidStr : String} (sbuf : Buffer)
    (loaded : loadPayload loads received.msg = .ok payload)
    (named : payload.getItem "job-id" = .ok (.str uuidStr))
    (removed : payload.delItem "job-id" = .ok data) :
    EndsIff received.around sbuf (eiCreateJob loads encodes received.msg sbuf)
      (JobSafe loads encodes received) := by
  have safeIff : JobSafe loads encodes received ↔
      ((received.around.responses 0).statusCode = 201 ∨
        (received.around.responses 0).statusCode = 200 → encodes uuidStr = true) := by
    constructor
    · intro safe
      rcases safe with ⟨other, text, same, id, encodable⟩
      rw [loaded] at same
      cases same
      rw [named] at id
      cases id
      exact encodable
    · intro encodable
      exact ⟨payload, uuidStr, loaded, named, encodable⟩
  have answer : received.around.answers 0 (.requestsPut (ECS_EI_JOB_PATH ++ uuidStr) data) =
    received.around.responses 0 := rfl
  rw [safeIff, eiCreateJob]
  simp only [loaded, named, removed]
  by_cases refused : (received.around.responses 0).statusCode ≠ 201 ∧
      (received.around.responses 0).statusCode ≠ 200
  · constructor
    · intro last ended
      rw [Program.runWith_call, answer, if_pos refused] at ended ⊢
      cases ended
      exact ⟨by simp [RmrCall.isFree], rfl⟩
    · rw [Program.runWith_call, answer, if_pos refused]
      simp [refused.1, refused.2]
  · have created : (received.around.responses 0).statusCode = 201 ∨
        (received.around.responses 0).statusCode = 200 := by omega
    by_cases encodable : encodes uuidStr = true
    · constructor
      · intro last ended
        rw [Program.runWith_call, answer, if_neg refused, if_pos encodable] at ended ⊢
        cases ended
        exact ⟨by simp [rtsMsg, RmrCall.isFree], rfl⟩
      · rw [Program.runWith_call, answer, if_neg refused, if_pos encodable]
        simp [rtsMsg, encodable]
    · constructor
      · intro last ended
        rw [Program.runWith_call, answer, if_neg refused, if_neg encodable] at ended
        cases ended
      · rw [Program.runWith_call, answer, if_neg refused, if_neg encodable]
        simp [created, encodable]

omit [ToString Json] in
theorem eiCreateJob_endsIff (sbuf : Buffer) :
    EndsIff received.around sbuf (eiCreateJob loads encodes received.msg sbuf)
      (JobSafe loads encodes received) := by
  cases loaded : loadPayload loads received.msg with
  | error error =>
      apply endsIff_of_raise error (by rw [eiCreateJob, loaded])
      intro safe
      rcases safe with ⟨payload, uuidStr, same, _⟩
      rw [loaded] at same
      cases same
  | ok payload =>
      have unnamed : (∀ uuidStr, payload.getItem "job-id" ≠ .ok (.str uuidStr)) →
          ¬ JobSafe loads encodes received := by
        intro none safe
        rcases safe with ⟨other, uuidStr, same, id, _⟩
        rw [loaded] at same
        cases same
        exact none uuidStr id
      cases named : payload.getItem "job-id" with
      | error missing =>
          apply endsIff_of_raise (.item missing) (by
            simp only [eiCreateJob, loaded, named])
          apply unnamed
          intro uuidStr same
          rw [named] at same
          cases same
      | ok uuid =>
          rcases Json.delItem_of_getItem named with ⟨data, removed⟩
          cases uuid with
          | str uuidStr => exact eiCreateJob_created sbuf loaded named removed
          | _ =>
              apply endsIff_of_raise (.item .typeError) (by
                simp only [eiCreateJob, loaded, named, removed])
              apply unnamed
              intro uuidStr same
              rw [named] at same
              cases same

variable (loads encodes received) in
/-- A message gets through the branch of a type exactly under the condition of that branch. -/
theorem handle_endsIff (mtype : Int) :
    EndsIff received.around received.sbuf
      (handle loads encodes mtype received.msg received.sbuf)
      (SafeAs loads encodes mtype received) := by
  rw [handle, SafeAs]
  split
  · rcases policyResponse_spec loads received received.sbuf with
      ⟨calls, outcome, ran, tracks, escapes, _⟩
    exact tryExcept_endsIff ran tracks escapes
  · split
    · rcases policyQuery_spec loads received received.sbuf with
        ⟨calls, last, outcome, ran, tracks, escapes⟩
      exact tryExcept_endsIff ran tracks escapes
    · split
      · exact eiQueryAll_endsIff received.sbuf
      · split
        · exact eiCreateJob_endsIff received.sbuf
        · constructor
          · intro last ended
            cases ended
            exact tracks_sdl []
          · simp

end Branches

section Mailbox

variable [ToString Json] {loads : Bytes → Except LoadsError Json} {encodes : String → Bool}
variable {received : Received} {mtype : Option Int}

variable (mtype) in
theorem processPair_safe {handled : Int} (typed : received.msg.messageType = some handled)
    (safe : SafeAs loads encodes handled received) :
    ∃ calls, (processPair loads encodes mtype received.msg received.sbuf).runWith
        received.around.answers 0 = (calls, .ok handled) ∧
      Handled loads received ⟨some handled, calls⟩ := by
  have endsIff := handle_endsIff loads encodes received handled
  rcases endsIff.ends.mpr safe with ⟨last, ended⟩
  have tracks := endsIff.tracks last ended
  cases ran : (handle loads encodes handled received.msg received.sbuf).runWith
      received.around.answers 0 with
  | mk calls outcome =>
      rw [ran] at ended tracks
      cases ended
      refine ⟨calls ++ [.free last], ?_, typed.symm, ⟨calls, ?_, tracks.keeps⟩, ?_⟩
      · rw [processPair, typed, Option.some_or]
        simp only
        rw [Program.runWith_bind_ok _ ran]
        rfl
      · rw [tracks.live]
      · intro pay response loaded typedThere still held
        have same : handled = A1_POLICY_RESPONSE := Option.some.inj (typed.symm.trans response)
        rcases policyResponse_spec loads received received.sbuf with
          ⟨blockCalls, outcome, blockRan, _, _, applied⟩
        rw [handle, if_pos same, tryExcept_runWith blockRan] at ran
        injection ran with callsSame _
        apply List.mem_append_left
        rw [← callsSame]
        exact applied pay response loaded typedThere still held

variable (mtype) in
/-- A pair that is not safe ends the loop or is handled under a type that it does not carry. -/
theorem processPair_not_safe (unsafe_ : ¬ Safe loads encodes received) :
    (∃ error, ((processPair loads encodes mtype received.msg received.sbuf).runWith
        received.around.answers 0).2 = .error error) ∨ received.msg.messageType = none := by
  cases typed : received.msg.messageType with
  | none => exact .inr rfl
  | some handled =>
      left
      have notEnded := mt (handle_endsIff loads encodes received handled).ends.mp
        (fun safe => unsafe_ ⟨handled, typed, safe⟩)
      cases ended : ((handle loads encodes handled received.msg received.sbuf).runWith
          received.around.answers 0).2 with
      | ok last => exact absurd ⟨last, ended⟩ notEnded
      | error error =>
          refine ⟨error, ?_⟩
          have ran : (handle loads encodes handled received.msg received.sbuf).runWith
              received.around.answers 0 = (_, .error error) := Prod.ext rfl ended
          rw [processPair, typed, Option.some_or]
          simp only
          rw [Program.runWith_bind_error _ ran]

theorem survives_cons_safe {rest : List Received} {handled : Int}
    (typed : received.msg.messageType = some handled)
    (safe : SafeAs loads encodes handled received) :
    Survives loads encodes mtype (received :: rest) ↔
      Survives loads encodes (some handled) rest := by
  rcases processPair_safe mtype typed safe with ⟨calls, ran, fine⟩
  have unfolded : mailboxLoop loads encodes mtype (received :: rest) =
      (⟨some handled, calls⟩ :: (mailboxLoop loads encodes (some handled) rest).1,
        (mailboxLoop loads encodes (some handled) rest).2) := by
    rw [mailboxLoop, ran]
  constructor
  · intro survives
    have returns := survives.returns
    have all := survives.handled
    rw [unfolded] at returns all
    exact ⟨returns, (List.forall₂_cons.mp all).2⟩
  · intro survives
    constructor
    · rw [unfolded]
      exact survives.returns
    · rw [unfolded]
      exact List.Forall₂.cons fine survives.handled

theorem not_survives_of_not_safe {rest : List Received}
    (unsafe_ : ¬ Safe loads encodes received) :
    ¬ Survives loads encodes mtype (received :: rest) := by
  intro survives
  cases ran : (processPair loads encodes mtype received.msg received.sbuf).runWith
      received.around.answers 0 with
  | mk calls outcome =>
      cases outcome with
      | error error =>
          rcases survives.returns with ⟨left, returned⟩
          rw [mailboxLoop, ran] at returned
          cases returned
      | ok handled =>
          rcases processPair_not_safe mtype unsafe_ with ⟨error, ended⟩ | untyped
          · rw [ran] at ended
            cases ended
          · have all := survives.handled
            rw [mailboxLoop, ran] at all
            have own := (List.forall₂_cons.mp all).1.own
            rw [untyped] at own
            cases own

end Mailbox

/-- A mailbox is survived, whatever type an earlier message has left, exactly where each of its
pairs has a message type whose branch takes it. -/
theorem survives_iff_all_safe [ToString Json] (loads : Bytes → Except LoadsError Json)
    (encodes : String → Bool) (mtype : Option Int) (mailbox : List Received) :
    Survives loads encodes mtype mailbox ↔
      ∀ received ∈ mailbox, Safe loads encodes received := by
  induction mailbox generalizing mtype with
  | nil =>
      constructor
      · intro _ received member
        exact absurd member List.not_mem_nil
      · intro _
        exact ⟨⟨mtype, rfl⟩, List.Forall₂.nil⟩
  | cons received rest ih =>
      rw [List.forall_mem_cons]
      by_cases safe : Safe loads encodes received
      · rcases safe with ⟨handled, typed, branch⟩
        rw [survives_cons_safe typed branch, ih]
        constructor
        · intro others
          exact ⟨⟨handled, typed, branch⟩, others⟩
        · intro both
          exact both.2
      · constructor
        · intro survives
          exact absurd survives (not_survives_of_not_safe safe)
        · intro both
          exact absurd both.1 safe

/-- A message without a type, first in the mailbox: the local variable is not bound. -/
theorem untyped_message_ends_loop :
    let _ : ToString Json := ⟨fun _ => ""⟩
    let quiet : Surroundings := ⟨fun _ => World.empty, fun _ => 0, fun _ => ⟨200, [], none⟩⟩
    ¬ Survives (fun _ => .error .jsonDecodeError) (fun _ => true) none
      [⟨.unsubscriptable, 7, quiet⟩] := by
  intro _ quiet survives
  rcases survives.returns with ⟨left, returned⟩
  cases returned

end NearRtRic.A1
