import NearRtRic.A1.Data
import NearRtRic.Library.Oracle

/-! The mailbox half of `_RmrLoop.loop`: one list of received messages. -/

namespace NearRtRic.A1

def A1_POLICY_RESPONSE : Int := 20011
def A1_POLICY_QUERY : Int := 20012
def A1_EI_QUERY_ALL : Int := 20013
def AI_EI_QUERY_ALL_RESP : Int := 20014
def A1_EI_CREATE_JOB : Int := 20015
def A1_EI_CREATE_JOB_RESP : Int := 20016

/-- The default of the environment variable. -/
def ECS_SERVICE_HOST : String := "http://ecs-service:8083"
def ESC_EI_TYPE_PATH : String := ECS_SERVICE_HOST ++ "/A1-EI/v1/eitypes"
def ECS_EI_JOB_PATH : String := ECS_SERVICE_HOST ++ "/A1-EI/v1/eijobs/"

abbrev Bytes := List UInt8

/-- A received message: a summary with its fields, or a value that cannot be subscripted. -/
inductive Msg where
  | unsubscriptable
  | summary (messageType : Option Int) (payload : Option Bytes)
  deriving DecidableEq

namespace Msg

/-- `msg[rmr.RMR_MS_MSG_TYPE]`; none where it raises. -/
def messageType : Msg → Option Int
  | .unsubscriptable => none
  | .summary messageType _ => messageType

/-- `msg[rmr.RMR_MS_PAYLOAD]` -/
def payload : Msg → Except Json.ItemError Bytes
  | .unsubscriptable => .error .typeError
  | .summary _ none => .error (.keyError "payload")
  | .summary _ (some bytes) => .ok bytes

end Msg

/-- What `json.loads` raises on bytes. -/
inductive LoadsError where
  | jsonDecodeError
  | unicodeDecodeError
  | recursionError
  deriving DecidableEq, Repr

inductive LoopError where
  | unboundLocalError
  | item (error : Json.ItemError)
  | loads (error : LoadsError)
  | data (error : A1Error)
  | responseNotJson
  | unicodeEncodeError
  deriving DecidableEq

abbrev Buffer := Nat

/-- A response of the EI service; `json` is its body when that parses. -/
structure EiResponse where
  statusCode : Nat
  content : Bytes
  json : Option Json
  deriving DecidableEq

inductive RtsPayload where
  | dumped (value : Json)
  | content (bytes : Bytes)
  | encoded (text : String)
  deriving DecidableEq

/-- The calls of the loop. `rts` is `_rts_msg` with its retries. -/
inductive RmrCall where
  | sdl (call : Call)
  | rts (sbuf : Buffer) (pay : RtsPayload) (mtype : Int)
  | free (sbuf : Buffer)
  | requestsGet (url : String)
  | requestsPut (url : String) (data : Json)
  deriving DecidableEq

@[reducible] def RmrAnswer : RmrCall → Type
  | .sdl call => Answer call
  | .rts _ _ _ => Buffer
  | .free _ => Unit
  | .requestsGet _ | .requestsPut _ _ => EiResponse

abbrev RmrM (Value : Type) := Program RmrCall RmrAnswer LoopError Value

def ofData {Value : Type} : A1M Value → RmrM (Except A1Error Value)
  | .done value => .done (.ok value)
  | .raise error => .done (.error error)
  | .call request next => .call (.sdl request) (fun answer => ofData (next answer))

def rtsMsg (pay : RtsPayload) (sbuf : Buffer) (mtype : Int) : RmrM Buffer :=
  .call (.rts sbuf pay mtype) .done

def freeMsg (sbuf : Buffer) : RmrM Unit := .call (.free sbuf) .done

def item (value : Json) (key : String) : Except LoopError Json :=
  (value.getItem key).mapError .item

structure StatusUpdate where
  policyTypeId : Json
  policyInstanceId : Json
  handlerId : Json
  status : Json
  deriving DecidableEq

section Loop

/-! `str` of a JSON value, `json.loads` and whether `str.encode` takes a text are parameters. -/

variable [ToString Json] (loads : Bytes → Except LoadsError Json) (encodes : String → Bool)

/-- `json.loads(msg[rmr.RMR_MS_PAYLOAD])` -/
def loadPayload (msg : Msg) : Except LoopError Json :=
  match msg.payload with
  | .error error => .error (.item error)
  | .ok bytes => (loads bytes).mapError .loads

def statusUpdate (msg : Msg) : Except LoopError StatusUpdate := do
  let pay ← loadPayload loads msg
  let policyTypeId ← item pay "policy_type_id"
  let policyInstanceId ← item pay "policy_instance_id"
  let handlerId ← item pay "handler_id"
  let status ← item pay "status"
  pure ⟨policyTypeId, policyInstanceId, handlerId, status⟩

/-- A try block that ended with a buffer, and perhaps with an exception, in front of its clauses. -/
def tryExcept (excepts : LoopError → Bool) (block : RmrM (Buffer × Except LoopError Unit)) :
    RmrM Buffer := do
  let ended ← block
  match ended.2 with
  | .ok () => pure ended.1
  | .error error => if excepts error then pure ended.1 else .raise error

def policyResponse (msg : Msg) (sbuf : Buffer) : RmrM (Buffer × Except LoopError Unit) :=
  match statusUpdate loads msg with
  | .error error => pure (sbuf, .error error)
  | .ok pay => do
      let updated ← ofData (setPolicyInstanceStatus pay.policyTypeId pay.policyInstanceId
        pay.handlerId pay.status)
      pure (sbuf, updated.mapError .data)

/-- `except (PolicyTypeNotFound, PolicyInstanceNotFound)` and
`except (KeyError, TypeError, json.decoder.JSONDecodeError)` -/
def responseExcepts : LoopError → Bool
  | .data (.policyTypeNotFound _) | .data (.policyInstanceNotFound _) => true
  | .item _ | .loads .jsonDecodeError => true
  | _ => false

/-- The loop over the listed instances; `sbuf` keeps what the try block made of it. -/
def sendInstances (pti : Json) : List String → Buffer → RmrM (Buffer × Except LoopError Unit)
  | [], sbuf => pure (sbuf, .ok ())
  | pii :: rest, sbuf => do
      match ← ofData (getPolicyInstance pti pii) with
      | .error error => pure (sbuf, .error (.data error))
      | .ok found =>
          let sbuf ← rtsMsg (.dumped (a1ToHandler "CREATE" pti pii (found.getD .null))) sbuf
            A1_POLICY_REQUEST
          sendInstances pti rest sbuf

def policyQuery (msg : Msg) (sbuf : Buffer) : RmrM (Buffer × Except LoopError Unit) :=
  match loadPayload loads msg >>= fun pay => item pay "policy_type_id" with
  | .error error => pure (sbuf, .error error)
  | .ok pti => do
      match ← ofData (getInstanceList pti) with
      | .error error => pure (sbuf, .error (.data error))
      | .ok instanceList => sendInstances pti instanceList sbuf

/-- `except (PolicyTypeNotFound)` and `except (KeyError, TypeError, json.decoder.JSONDecodeError)` -/
def queryExcepts : LoopError → Bool
  | .data (.policyTypeNotFound _) => true
  | .item _ | .loads .jsonDecodeError => true
  | _ => false

def eiQueryAll (sbuf : Buffer) : RmrM Buffer :=
  .call (.requestsGet ESC_EI_TYPE_PATH) fun resp =>
    -- the debug message reads `resp.json()` whatever the status code is
    match resp.json with
    | none => .raise .responseNotJson
    | some _ => rtsMsg (.content resp.content) sbuf AI_EI_QUERY_ALL_RESP

def rmrData (uuidStr : String) : String :=
  "\x7b\n                                \"ei_job_id\": \"" ++ uuidStr ++
    "\"\n                                \x7d"

def eiCreateJob (msg : Msg) (sbuf : Buffer) : RmrM Buffer :=
  match loadPayload loads msg with
  | .error error => .raise error
  | .ok payload =>
      match payload.getItem "job-id", payload.delItem "job-id" with
      | .error error, _ | _, .error error => .raise (.item error)
      | .ok (.str uuidStr), .ok data =>
          .call (.requestsPut (ECS_EI_JOB_PATH ++ uuidStr) data) fun r =>
            if r.statusCode ≠ 201 ∧ r.statusCode ≠ 200 then
              .done sbuf
            else if encodes uuidStr then
              rtsMsg (.encoded (rmrData uuidStr)) sbuf A1_EI_CREATE_JOB_RESP
            else
              .raise .unicodeEncodeError
      -- a text and another value do not concatenate
      | .ok _, .ok _ => .raise (.item .typeError)

/-- The chain of branches; its answer is the buffer to free. -/
def handle (mtype : Int) (msg : Msg) (sbuf : Buffer) : RmrM Buffer :=
  if mtype = A1_POLICY_RESPONSE then
    tryExcept responseExcepts (policyResponse loads msg sbuf)
  else if mtype = A1_POLICY_QUERY then
    tryExcept queryExcepts (policyQuery loads msg sbuf)
  else if mtype = A1_EI_QUERY_ALL then
    eiQueryAll sbuf
  else if mtype = A1_EI_CREATE_JOB then
    eiCreateJob loads encodes msg sbuf
  else
    pure sbuf

/-- The body of the mailbox loop. The local variable `mtype` is not bound before the first message
that has one, and keeps the type of an earlier message where this one has none. -/
def processPair (mtype : Option Int) (msg : Msg) (sbuf : Buffer) : RmrM Int :=
  match msg.messageType.or mtype with
  | none => .raise .unboundLocalError
  | some mtype => do
      let sbuf ← handle loads encodes mtype msg sbuf
      freeMsg sbuf
      pure mtype

/-- What other threads, RMR and the EI service answer while one pair is processed, call by call. -/
structure Surroundings where
  worlds : Nat → World
  buffers : Nat → Buffer
  responses : Nat → EiResponse

def Surroundings.answers (around : Surroundings) (made : Nat) : (call : RmrCall) → RmrAnswer call
  | .sdl call => service.answer call (around.worlds made)
  | .rts _ _ _ => around.buffers made
  | .free _ => ()
  | .requestsGet _ => around.responses made
  | .requestsPut _ _ => around.responses made

/-- A received pair, with what happens around its processing. -/
structure Received where
  msg : Msg
  sbuf : Buffer
  around : Surroundings

/-- The type under which a pair was handled, if any, and the calls made for it. -/
structure PairRun where
  handledAs : Option Int
  calls : List RmrCall

/-- One mailbox: the pairs processed, and the `mtype` left behind or the exception that left the
loop. -/
def mailboxLoop : Option Int → List Received → List PairRun × Except LoopError (Option Int)
  | mtype, [] => ([], .ok mtype)
  | mtype, received :: rest =>
      match (processPair loads encodes mtype received.msg received.sbuf).runWith
        received.around.answers 0 with
      | (calls, .ok handled) =>
          let later := mailboxLoop (some handled) rest
          (⟨some handled, calls⟩ :: later.1, later.2)
      | (calls, .error error) => ([⟨received.msg.messageType.or mtype, calls⟩], .error error)

end Loop

end NearRtRic.A1
