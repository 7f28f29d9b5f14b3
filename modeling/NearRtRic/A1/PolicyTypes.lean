import Mathlib.Tactic
import NearRtRic.A1.Resthooks
import NearRtRic.Library.Runs

/-! A policy type that was created is read back, and the policy types are listed. -/

namespace NearRtRic.A1.Resthook

open JsonText CInteger

theorem natural_digits (value : Nat) : CInteger.natural (digits value) = some (value : Int) := by
  have nonempty : digits value ≠ [] := Nat.toDigits_ne_nil
  have allDigits : (digits value).all Char.isDigit = true :=
    List.all_eq_true.mpr fun char member => isDigit_of_mem_digits member
  have whole : CInteger.decimal (digits value) = value := Nat.ofDigitChars_ten_toDigits
  rw [CInteger.natural, if_pos ⟨nonempty, allDigits⟩, whole]

theorem decimalInteger_digits (value : Nat) :
    decimalInteger (digits value) = some (value : Int) := by
  unfold decimalInteger
  split
  · next rest same =>
    have digit := isDigit_of_mem_digits (same ▸ List.mem_cons_self : '-' ∈ digits value)
    cases digit
  · next rest same =>
    have digit := isDigit_of_mem_digits (same ▸ List.mem_cons_self : '+' ∈ digits value)
    cases digit
  · exact natural_digits value

theorem decimalInteger_decimal (value : Int) :
    decimalInteger (JsonText.decimal value) = some value := by
  rw [JsonText.decimal]
  split
  · next negative =>
    calc decimalInteger ('-' :: digits value.natAbs)
        = (CInteger.natural (digits value.natAbs)).map (- ·) := rfl
      _ = some (-(value.natAbs : Int)) := by rw [natural_digits, Option.map_some]
      _ = some value := by rw [Int.ofNat_natAbs_of_nonpos negative.le, neg_neg]
  · next nonneg => rw [decimalInteger_digits, Int.natAbs_of_nonneg (not_lt.mp nonneg)]

namespace PolicyTypeSchema

/-- The strings of a schema that a client chooses. -/
def texts (schema : PolicyTypeSchema) : List String :=
  strings schema.createSchema.val ++ schema.description.toList ++ schema.name.toList

/-- What is left of a schema that was written and read. -/
def restored (schema : PolicyTypeSchema) : PolicyTypeSchema :=
  { schema with
    createSchema := ⟨toInterface schema.createSchema.val, toInterface_isInterface _⟩ }

variable (schema : PolicyTypeSchema)

theorem ofStruct_values :
    ofStruct (shapes.zip schema.values) = .object ((shapes.map Shape.tag).zip schema.values) := by
  have names : (shapes.zip schema.values).map Prod.fst = shapes := rfl
  have kept : shapes.all (keeps shapes) = true := by decide +kernel
  rw [ofStruct_of_all kept names]
  rfl

theorem storeString_orNull (held content : Option String) :
    storeString held (orNull .string content) = content := by
  cases content <;> rfl

theorem storeInt64_orNull (held content : Option Int64) :
    storeInt64 held (orNull (fun id : Int64 => .number (integer id.toInt)) content) = content := by
  cases content with
  | none => rfl
  | some id =>
      have bounds : -2 ^ 63 ≤ id.toInt ∧ id.toInt < 2 ^ 63 :=
        ⟨id.le_toInt, id.toInt_lt⟩
      simp only [orNull, storeInt64, integer, decimalInteger_decimal, if_pos bounds]
      rw [Int64.ofInt_toInt]

section Keys

variable (item : PolicyTypeSchema) (value : Value)

theorem storeField_createSchema : storeField item ("create_schema", value) =
    { item with createSchema := ⟨toInterface value, toInterface_isInterface value⟩ } :=
  if_pos rfl

theorem storeField_description : storeField item ("description", value) =
    { item with description := storeString item.description value } := by
  simp [storeField]

theorem storeField_name : storeField item ("name", value) =
    { item with name := storeString item.name value } := by
  simp [storeField]

theorem storeField_policyTypeID : storeField item ("policy_type_id", value) =
    { item with policyTypeID := storeInt64 item.policyTypeID value } := by
  simp [storeField]

end Keys

theorem unmarshal_marshalBinary : unmarshal schema.marshalBinary = schema.restored := by
  rw [unmarshal, marshalBinary, readText_write, ofStruct_values]
  change List.foldl storeField {} [("create_schema", _), ("description", _), ("name", _),
    ("policy_type_id", _)] = _
  simp only [List.foldl_cons, List.foldl_nil, storeField_createSchema, storeField_description,
    storeField_name, storeField_policyTypeID, storeString_orNull, storeInt64_orNull]
  rfl

theorem backQuote_mem_iff :
    backQuote ∈ schema.marshalBinary ↔ ∃ text ∈ schema.texts, backQuote ∈ text.toList := by
  have plain : isSyntax backQuote = false := by decide
  have notCoded : isCoded backQuote = false := by decide
  have own : ∀ name ∈ shapes.map Shape.tag,
      ¬(backQuote ∈ name.toList ∧ isCoded backQuote = false) := by decide
  have ownKeys : strings (.object ((shapes.map Shape.tag).zip schema.values)) =
      "create_schema" :: (strings schema.createSchema.val ++ "description" ::
        (schema.description.toList ++ "name" :: (schema.name.toList ++ ["policy_type_id"]))) := by
    rcases schema with ⟨createSchema, description, name, policyTypeID⟩
    cases description <;> cases name <;> cases policyTypeID <;> rfl
  have none : ¬Shown backQuote [] := by simp [Shown]
  rw [marshalBinary, ofStruct_values, mem_write plain, ownKeys]
  simp only [shown_cons, shown_append, own "create_schema" (by decide),
    own "description" (by decide), own "name" (by decide), own "policy_type_id" (by decide), none,
    false_or, or_false]
  simp only [← shown_append, ← List.append_assoc]
  exact and_iff_right notCoded

theorem carriageReturn_not_mem : '\r' ∉ schema.marshalBinary := by
  have plain : isSyntax '\r' = false := by decide
  rw [marshalBinary, mem_write plain, Shown]
  exact fun shown => Bool.noConfusion shown.1

end PolicyTypeSchema

theorem unquote_quoted (text : List Char) :
    unquote (backQuote :: (text ++ [backQuote])) =
      if backQuote ∈ text then none else some (text.filter fun char => char ≠ '\r') := by
  simp [unquote]

/-- What a schema must be to survive: no back quote, and no number beyond the range of a float64,
in the place of which `json.Unmarshal` stores nothing. -/
structure PolicyTypeSchema.Restorable (schema : PolicyTypeSchema) : Prop where
  unquoted : ∀ text ∈ schema.texts, backQuote ∉ text.toList
  inRange : ∀ number ∈ numbers schema.createSchema.val, number.InFloat64Range

theorem PolicyTypeSchema.restored_eq_iff (schema : PolicyTypeSchema) :
    schema.restored = schema ↔
      ∀ number ∈ numbers schema.createSchema.val, number.InFloat64Range := by
  rw [← toInterface_eq_iff schema.createSchema.val schema.createSchema.property]
  constructor
  · intro same
    exact congrArg (fun schema : PolicyTypeSchema => schema.createSchema.val) same
  · intro same
    have hcreateSchema : (⟨toInterface schema.createSchema.val, toInterface_isInterface _⟩ :
        { value : Value // IsInterface value }) = schema.createSchema := Subtype.ext same
    rw [restored, hcreateSchema]

theorem typeKey_injective : Function.Injective typeKey := by
  intro first second same
  have texts := String.toList_inj.mpr (Text.append_left_cancel same)
  rw [String.toList_ofList, String.toList_ofList] at texts
  exact Int64.toInt_inj.mp (decimal_injective texts)

section Create

variable {policyTypeId : PolicyTypeID} {request : PolicyTypeSchema} {db : Sdl}

/-- What a call can do: it returns nil and stores the schema, or it stores nothing. -/
theorem createPolicyType_cases (policyTypeId : PolicyTypeID) (request : PolicyTypeSchema)
    (db : Sdl) :
    ((request.policyTypeID = some policyTypeId ∧ db.get (typeKey policyTypeId) = none) ∧
      createPolicyType policyTypeId request db =
        (.ok none, db.set (typeKey policyTypeId) request.marshalBinary)) ∨
    (¬ (request.policyTypeID = some policyTypeId ∧ db.get (typeKey policyTypeId) = none) ∧
      (createPolicyType policyTypeId request db).1 ≠ .ok none ∧
      (createPolicyType policyTypeId request db).2 = db) := by
  rw [createPolicyType]
  cases hid : request.policyTypeID with
  | none => simp
  | some requestID =>
      by_cases same : policyTypeId = requestID
      · subst same
        cases held : db.get (typeKey policyTypeId) with
        | none => simp [setIfNotExists, held]
        | some text => simp [setIfNotExists, held]
      · simp [same, Ne.symm same]

theorem createPolicyType_ok_iff :
    (createPolicyType policyTypeId request db).1 = .ok none ↔
      request.policyTypeID = some policyTypeId ∧ db.get (typeKey policyTypeId) = none := by
  rcases createPolicyType_cases policyTypeId request db with ⟨fresh, created⟩ | ⟨taken, refused, -⟩
  · exact iff_of_true (congrArg Prod.fst created) fresh
  · exact iff_of_false refused taken

theorem createPolicyType_stores
    (created : (createPolicyType policyTypeId request db).1 = .ok none) :
    (createPolicyType policyTypeId request db).2 =
      db.set (typeKey policyTypeId) request.marshalBinary := by
  rcases createPolicyType_cases policyTypeId request db with ⟨-, stored⟩ | ⟨-, refused, -⟩
  · exact congrArg Prod.snd stored
  · exact absurd created refused

theorem createPolicyType_unchanged
    (refused : (createPolicyType policyTypeId request db).1 ≠ .ok none) :
    (createPolicyType policyTypeId request db).2 = db := by
  rcases createPolicyType_cases policyTypeId request db with ⟨-, created⟩ | ⟨-, -, unchanged⟩
  · exact absurd (congrArg Prod.fst created) refused
  · exact unchanged

/-- A call keeps what is stored under the keys of other ids. -/
theorem createPolicyType_get_other {key : String} (other : key ≠ typeKey policyTypeId) :
    (createPolicyType policyTypeId request db).2.get key = db.get key := by
  by_cases created : (createPolicyType policyTypeId request db).1 = .ok none
  · rw [createPolicyType_stores created, KeyValue.get_set_other db _ other]
  · rw [createPolicyType_unchanged created]

end Create

theorem step_get {db : Sdl} {call : Call} {policyTypeId : PolicyTypeID}
    (other : call.id ≠ some policyTypeId) :
    (step db call).get (typeKey policyTypeId) = db.get (typeKey policyTypeId) := by
  cases call with
  | createPolicyType otherId request =>
      apply createPolicyType_get_other
      intro same
      exact other (congrArg some (typeKey_injective same).symm)
  | getPolicyType otherId => rfl
  | getAllPolicyType => rfl

theorem run_get {db : Sdl} {calls : List Call} {policyTypeId : PolicyTypeID}
    (others : ∀ call ∈ calls, call.id ≠ some policyTypeId) :
    (Runs.run step db calls).get (typeKey policyTypeId) = db.get (typeKey policyTypeId) := by
  induction calls generalizing db with
  | nil => rfl
  | cons call calls ih =>
      calc (Runs.run step db (call :: calls)).get (typeKey policyTypeId)
          = (step db call).get (typeKey policyTypeId) :=
            ih fun later member => others later (by simp [member])
        _ = db.get (typeKey policyTypeId) := step_get (others call (by simp))

/-- What a read returns after a schema was stored. -/
theorem getPolicyType_stored {db : Sdl} {policyTypeId : PolicyTypeID} {schema : PolicyTypeSchema}
    (stored : db.get (typeKey policyTypeId) = some schema.marshalBinary) :
    getPolicyType policyTypeId db =
      if backQuote ∈ schema.marshalBinary then .error .panic
      else .ok (some schema.restored) := by
  simp only [getPolicyType, stored, unquote_quoted]
  by_cases quoted : backQuote ∈ schema.marshalBinary
  · simp only [if_pos quoted]
    rfl
  · have kept : schema.marshalBinary.filter (fun char => char ≠ '\r') = schema.marshalBinary := by
      apply List.filter_eq_self.mpr
      intro char member
      have differs : char ≠ '\r' := by
        rintro rfl
        exact schema.carriageReturn_not_mem member
      simpa using differs
    simp only [if_neg quoted, kept, PolicyTypeSchema.unmarshal_marshalBinary]
    rfl

/-- A type whose creation has returned nil is read back, whatever is called on other ids in
between, exactly if its schema is restorable. -/
theorem created_type_read_back_iff (db : Sdl) (policyTypeId : PolicyTypeID)
    (schema : PolicyTypeSchema)
    (created : (createPolicyType policyTypeId schema db).1 = .ok none) (calls : List Call)
    (others : ∀ call ∈ calls, call.id ≠ some policyTypeId) :
    getPolicyType policyTypeId
        (Runs.run step (createPolicyType policyTypeId schema db).2 calls) = .ok (some schema) ↔
      schema.Restorable := by
  have stored : (Runs.run step (createPolicyType policyTypeId schema db).2 calls).get
      (typeKey policyTypeId) = some schema.marshalBinary := by
    rw [run_get others, createPolicyType_stores created, KeyValue.get_set_same]
  have quoted : backQuote ∈ schema.marshalBinary ↔
      ¬∀ text ∈ schema.texts, backQuote ∉ text.toList := by
    rw [schema.backQuote_mem_iff]
    simp
  rw [getPolicyType_stored stored]
  by_cases unquoted : ∀ text ∈ schema.texts, backQuote ∉ text.toList
  · rw [if_neg fun member => quoted.mp member unquoted, Except.ok.injEq, Option.some.injEq,
      schema.restored_eq_iff]
    exact ⟨fun inRange => ⟨unquoted, inRange⟩, fun restorable => restorable.inRange⟩
  · rw [if_pos (quoted.mpr unquoted)]
    exact iff_of_false nofun fun restorable => unquoted restorable.unquoted

theorem boundFields_sorted :
    Sorted [("maximum", .number (integer 60)), ("type", .string "integer")] := by
  change List.Pairwise (· < ·) ["maximum", "type"]
  decide

/-- A schema with a name and a bound of 60. -/
def namedSchema (name : String) (policyTypeId : PolicyTypeID) : PolicyTypeSchema where
  createSchema := ⟨.object [("maximum", .number (integer 60)), ("type", .string "integer")],
    boundFields_sorted, trivial, trivial, trivial⟩
  description := some "admission of dual connection"
  name := some name
  policyTypeID := some policyTypeId

theorem admissionControl_read_back :
    getPolicyType 20001
        (Runs.run step (createPolicyType 20001 (namedSchema "admission_control" 20001) ∅).2
          [.createPolicyType 20000 (namedSchema "other" 20000), .getAllPolicyType]) =
      .ok (some (namedSchema "admission_control" 20001)) := by
  have hcreated : (createPolicyType 20001 (namedSchema "admission_control" 20001) ∅).1 =
      .ok none := createPolicyType_ok_iff.mpr ⟨rfl, KeyValue.get_empty _⟩
  have hrestorable : (namedSchema "admission_control" 20001).Restorable :=
    ⟨by decide +kernel, by decide +kernel⟩
  apply (created_type_read_back_iff ∅ 20001 _ hcreated _ ?_).mpr hrestorable
  decide

/-- A schema whose name is one back quote is created, and reading it panics. -/
theorem backQuote_panics :
    (createPolicyType 20001 (namedSchema "\x60" 20001) ∅).1 = .ok none ∧
    getPolicyType 20001 (createPolicyType 20001 (namedSchema "\x60" 20001) ∅).2 =
      .error .panic := by
  have hcreated : (createPolicyType 20001 (namedSchema "\x60" 20001) ∅).1 = .ok none :=
    createPolicyType_ok_iff.mpr ⟨rfl, KeyValue.get_empty _⟩
  have hquoted : backQuote ∈ (namedSchema "\x60" 20001).marshalBinary :=
    (namedSchema "\x60" 20001).backQuote_mem_iff.mpr
      ⟨"\x60", by simp [PolicyTypeSchema.texts, namedSchema], by decide⟩
  have hstored : (createPolicyType 20001 (namedSchema "\x60" 20001) ∅).2.get (typeKey 20001) =
      some (namedSchema "\x60" 20001).marshalBinary := by
    rw [createPolicyType_stores hcreated, KeyValue.get_set_same]
  exact ⟨hcreated, by rw [getPolicyType_stored hstored, if_pos hquoted]⟩

end NearRtRic.A1.Resthook
