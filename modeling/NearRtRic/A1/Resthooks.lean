import Mathlib.Data.List.DropRight
import NearRtRic.A1.Keys
import NearRtRic.Library.CInteger
import NearRtRic.Library.JsonInterface
import NearRtRic.Library.KeyValue

/-! The policy types of A1 in Go: the hooks behind its REST interface, over the namespace that
SDL holds. -/

namespace NearRtRic.A1.Resthook

open JsonText CInteger

abbrev PolicyTypeID := Int64

/-- A null pointer is `none`, and a nil interface is the value `null`. -/
structure PolicyTypeSchema where
  createSchema : { value : Value // IsInterface value } := ⟨.null, trivial⟩
  description : Option String := none
  name : Option String := none
  policyTypeID : Option Int64 := none

namespace PolicyTypeSchema

def orNull {Content : Type} (write : Content → Value) : Option Content → Value
  | none => .null
  | some content => write content

def shapes : List Shape :=
  [⟨"CreateSchema", "create_schema"⟩, ⟨"Description", "description"⟩, ⟨"Name", "name"⟩,
    ⟨"PolicyTypeID", "policy_type_id"⟩]

def values (schema : PolicyTypeSchema) : List Value :=
  [schema.createSchema.val, orNull .string schema.description, orNull .string schema.name,
    orNull (fun id : Int64 => .number (integer id.toInt)) schema.policyTypeID]

/-- `MarshalBinary`, which fails for no value that has come as JSON. -/
def marshalBinary (schema : PolicyTypeSchema) : List Char :=
  write (ofStruct (shapes.zip schema.values))

/-- A value stored through a `*string`: one of another type is an error, which leaves the string
that the pointer then points to. -/
def storeString (held : Option String) : Value → Option String
  | .null => none
  | .string text => some text
  | _ => some (held.getD "")

/-- A value stored through an `*int64`, likewise. -/
def storeInt64 (held : Option Int64) : Value → Option Int64
  | .null => none
  | .number number =>
      match decimalInteger number.literal with
      | some value =>
          if -2 ^ 63 ≤ value ∧ value < 2 ^ 63 then some (Int64.ofInt value)
          else some (held.getD 0)
      | none => some (held.getD 0)
  | _ => some (held.getD 0)

/-- One key of an object, as `MarshalBinary` spells it, and its value. -/
def storeField (item : PolicyTypeSchema) (field : String × Value) : PolicyTypeSchema :=
  if field.1 = "create_schema" then
    { item with createSchema := ⟨toInterface field.2, toInterface_isInterface field.2⟩ }
  else if field.1 = "description" then
    { item with description := storeString item.description field.2 }
  else if field.1 = "name" then { item with name := storeString item.name field.2 }
  else if field.1 = "policy_type_id" then
    { item with policyTypeID := storeInt64 item.policyTypeID field.2 }
  else item

/-- `json.Unmarshal` into a zero `item`, whose error is ignored. -/
def unmarshal (text : List Char) : PolicyTypeSchema :=
  match readText text with
  | some (.object fields) => fields.foldl storeField {}
  | _ => {}

end PolicyTypeSchema

inductive Panic
  | panic
  deriving DecidableEq, Repr

abbrev Outcome (Result : Type) := Except Panic Result

/-- The namespace `A1m_ns`. -/
abbrev Sdl := KeyValue (List Char)

def setIfNotExists (db : Sdl) (key : String) (data : List Char) : Bool × Sdl :=
  if (db.get key).isSome then (false, db) else (true, db.set key data)

/-- `a1PolicyPrefix + strconv.FormatInt(int64(policyTypeId), 10)` -/
def typeKey (policyTypeId : PolicyTypeID) : String :=
  TYPE_PREFIX ++ String.ofList (decimal policyTypeId.toInt)

inductive CreateError
  | typeAlreadyError
  | typeMismatchError
  deriving DecidableEq, Repr

def CreateError.text : CreateError → String
  | .typeAlreadyError => "Policy Type already exists"
  | .typeMismatchError => "Policytype Mismatch"

def createPolicyType (policyTypeId : PolicyTypeID) (httprequest : PolicyTypeSchema) (db : Sdl) :
    Outcome (Option CreateError) × Sdl :=
  match httprequest.policyTypeID with
  | none => (.error .panic, db)
  | some requestID =>
      if policyTypeId ≠ requestID then (.ok (some .typeMismatchError), db)
      else
        match setIfNotExists db (typeKey policyTypeId) httprequest.marshalBinary with
        | (true, db) => (.ok none, db)
        | (false, db) => (.ok (some .typeAlreadyError), db)

def backQuote : Char := '\x60'

/-- `strconv.Unquote` of a text in back quotes. -/
def unquote (quoted : List Char) : Option (List Char) :=
  match quoted with
  | [] => none
  | quote :: rest =>
      if quote = backQuote ∧ rest.getLast? = some backQuote then
        if backQuote ∈ rest.dropLast then none
        else some (rest.dropLast.filter fun char => char ≠ '\r')
      else none

def getPolicyType (policyTypeId : PolicyTypeID) (db : Sdl) : Outcome (Option PolicyTypeSchema) :=
  match db.get (typeKey policyTypeId) with
  | none => pure none
  | some valStr =>
      match unquote (backQuote :: (valStr ++ [backQuote])) with
      | none => throw .panic
      | some valToUnmarshall => pure (some (.unmarshal valToUnmarshall))

def isBlank (char : Char) : Bool := char == ' '

def trimLeft (key : String) : String := String.ofList (key.toList.dropWhile isBlank)

def trim (key : String) : String :=
  String.ofList ((key.toList.dropWhile isBlank).rdropWhile isBlank)

/-- The value of `strconv.ParseInt(text, 10, 64)`, without its error. -/
def parseInt (text : String) : Int64 :=
  match decimalInteger text.toList with
  | some value => Int64.ofInt (saturated 63 value)
  | none => 0

/-- The loop over the keys that SDL lists. -/
def getAllPolicyType : List String → Outcome (List PolicyTypeID)
  | [] => pure []
  | key :: keys =>
      if Text.startswith (trimLeft key) TYPE_PREFIX then
        match (Text.split (trim key) TYPE_PREFIX)[1]? with
        | none => throw .panic
        | some pti => do
            let policyTypeIDs ← getAllPolicyType keys
            pure (parseInt pti :: policyTypeIDs)
      else getAllPolicyType keys

inductive Call
  | createPolicyType (policyTypeId : PolicyTypeID) (httprequest : PolicyTypeSchema)
  | getPolicyType (policyTypeId : PolicyTypeID)
  | getAllPolicyType

def Call.id : Call → Option PolicyTypeID
  | .createPolicyType policyTypeId _ => some policyTypeId
  | .getPolicyType policyTypeId => some policyTypeId
  | .getAllPolicyType => none

def step (db : Sdl) : Call → Sdl
  | .createPolicyType policyTypeId httprequest =>
      (Resthook.createPolicyType policyTypeId httprequest db).2
  | _ => db

end NearRtRic.A1.Resthook
