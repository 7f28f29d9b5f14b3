import NearRtRic.A1.PolicyTypes

/-! The policy types that SDL lists are those that were created. -/

namespace NearRtRic.A1.Resthook

open JsonText CInteger

/-- A key of an instance, of its metadata or of a handler's status. -/
def IsMediatorKey (key : String) : Prop :=
  ∃ start ∈ [INSTANCE_PREFIX, METADATA_PREFIX, HANDLER_PREFIX], ∃ rest, key = start ++ rest

theorem digit_or_minus_of_mem_decimal {value : Int} {char : Char}
    (member : char ∈ JsonText.decimal value) : char.isDigit = true ∨ char = '-' := by
  rw [JsonText.decimal] at member
  split at member
  · rcases List.mem_cons.mp member with same | digit
    · exact .inr same
    · exact .inl (isDigit_of_mem_digits digit)
  · exact .inl (isDigit_of_mem_digits member)

theorem typeKey_toList (policyTypeId : PolicyTypeID) :
    (typeKey policyTypeId).toList =
      TYPE_PREFIX.toList ++ JsonText.decimal policyTypeId.toInt := by
  rw [typeKey, String.toList_append, String.toList_ofList]

theorem typeKey_not_blank (policyTypeId : PolicyTypeID) :
    ∀ char ∈ (typeKey policyTypeId).toList, isBlank char = false := by
  intro char member
  rw [typeKey_toList] at member
  rcases List.mem_append.mp member with inPrefix | inDecimal
  · have own : (TYPE_PREFIX.toList.all fun char => !isBlank char) = true := by decide
    simpa using List.all_eq_true.mp own char inPrefix
  · rcases digit_or_minus_of_mem_decimal inDecimal with digit | rfl
    · have blank : char ≠ ' ' := by
        rintro rfl
        cases digit
      simpa [isBlank] using blank
    · rfl

theorem trimLeft_of_not_blank {key : String}
    (first : ∀ char ∈ key.toList.head?, isBlank char = false) : trimLeft key = key := by
  rw [trimLeft]
  cases same : key.toList with
  | nil => rw [List.dropWhile_nil, ← same, String.ofList_toList]
  | cons char rest =>
      have hfirst : isBlank char = false := first char (by rw [same]; rfl)
      rw [List.dropWhile_cons_of_neg (by simp [hfirst]), ← same, String.ofList_toList]

theorem trim_of_not_blank {key : String}
    (none : ∀ char ∈ key.toList, isBlank char = false) : trim key = key := by
  have left : key.toList.dropWhile isBlank = key.toList :=
    List.dropWhile_eq_self_iff.mpr fun nonempty => by
      simpa using none _ (List.getElem_mem nonempty)
  have right : key.toList.rdropWhile isBlank = key.toList :=
    List.rdropWhile_eq_self_iff.mpr fun nonempty => by
      simpa using none _ (List.getLast_mem nonempty)
  rw [trim, left, right, String.ofList_toList]

theorem split_typeKey (policyTypeId : PolicyTypeID) :
    (Text.split (typeKey policyTypeId) TYPE_PREFIX)[1]? =
      some (String.ofList (JsonText.decimal policyTypeId.toInt)) := by
  have nonempty : TYPE_PREFIX.toList ≠ [] := by decide
  have plain : ¬TYPE_PREFIX.toList <:+: JsonText.decimal policyTypeId.toInt := by
    intro inside
    have first : 'a' ∈ TYPE_PREFIX.toList := by decide
    rcases digit_or_minus_of_mem_decimal (inside.subset first) with digit | minus
    · cases digit
    · cases minus
  rw [Text.split, typeKey_toList, Text.splitFrom_leading _ _ nonempty,
    Text.splitFrom_plain _ _ _ plain]
  rfl

theorem parseInt_decimal (policyTypeId : PolicyTypeID) :
    parseInt (String.ofList (JsonText.decimal policyTypeId.toInt)) = policyTypeId := by
  rw [parseInt, String.toList_ofList, decimalInteger_decimal]
  simp only [saturated_of_range policyTypeId.le_toInt policyTypeId.toInt_lt]
  exact Int64.ofInt_toInt policyTypeId

theorem getAllPolicyType_typeKey (policyTypeId : PolicyTypeID) (keys : List String) :
    getAllPolicyType (typeKey policyTypeId :: keys) = (do
      let policyTypeIDs ← getAllPolicyType keys
      pure (policyTypeId :: policyTypeIDs)) := by
  have left : trimLeft (typeKey policyTypeId) = typeKey policyTypeId :=
    trimLeft_of_not_blank fun char member =>
      typeKey_not_blank policyTypeId char (List.mem_of_mem_head? member)
  rw [getAllPolicyType, left, typeKey, if_pos (Text.startswith_append _ _), ← typeKey,
    trim_of_not_blank (typeKey_not_blank policyTypeId), split_typeKey]
  simp only [parseInt_decimal]

theorem mediatorKey_apart {key : String} (mediator : IsMediatorKey key) :
    trimLeft key = key ∧ Text.startswith key TYPE_PREFIX = false := by
  rcases mediator with ⟨start, member, rest, rfl⟩
  have own : ∀ start ∈ [INSTANCE_PREFIX, METADATA_PREFIX, HANDLER_PREFIX],
      (Text.startswith start TYPE_PREFIX = false ∧ Text.startswith TYPE_PREFIX start = false) ∧
        start.toList.head? = some 'a' := by decide
  constructor
  · apply trimLeft_of_not_blank
    intro char first
    rw [String.toList_append, List.head?_append, (own start member).2] at first
    cases first
    rfl
  · simpa using Text.startswith_of_incomparable (own start member).1 rest ""

theorem getAllPolicyType_mediatorKey {key : String} (mediator : IsMediatorKey key)
    (keys : List String) : getAllPolicyType (key :: keys) = getAllPolicyType keys := by
  rcases mediatorKey_apart mediator with ⟨left, other⟩
  rw [getAllPolicyType, left, other]
  rfl

theorem typeKey_ne_mediatorKey {key : String} (mediator : IsMediatorKey key)
    (policyTypeId : PolicyTypeID) : typeKey policyTypeId ≠ key :=
  Text.ne_of_startswith (Text.startswith_append _ _) (mediatorKey_apart mediator).2

/-- Of keys of types and of the mediator, the ids of the types are listed. -/
theorem getAllPolicyType_listed {keys : List String}
    (known : ∀ key ∈ keys, IsMediatorKey key ∨ ∃ policyTypeId, key = typeKey policyTypeId)
    (distinct : keys.Nodup) :
    ∃ ids, getAllPolicyType keys = .ok ids ∧ ids.Nodup ∧
      ∀ policyTypeId, policyTypeId ∈ ids ↔ typeKey policyTypeId ∈ keys := by
  induction keys with
  | nil => exact ⟨[], rfl, .nil, by simp⟩
  | cons key keys ih =>
      rw [List.nodup_cons] at distinct
      rcases ih (fun other member => known other (by simp [member])) distinct.2 with
        ⟨ids, listed, nodup, exact_⟩
      rcases known key (by simp) with mediator | ⟨policyTypeId, rfl⟩
      · refine ⟨ids, (getAllPolicyType_mediatorKey mediator keys).trans listed, nodup, ?_⟩
        intro other
        rw [exact_ other, List.mem_cons, or_iff_right (typeKey_ne_mediatorKey mediator other)]
      · refine ⟨policyTypeId :: ids, ?_, ?_, ?_⟩
        · rw [getAllPolicyType_typeKey, listed]
          rfl
        · exact List.nodup_cons.mpr ⟨fun member => distinct.1 ((exact_ policyTypeId).mp member), nodup⟩
        · intro other
          rw [List.mem_cons, List.mem_cons, exact_ other, typeKey_injective.eq_iff]

abbrev Creation := PolicyTypeID × PolicyTypeSchema

def createStep (db : Sdl) (creation : Creation) : Sdl :=
  (createPolicyType creation.1 creation.2 db).2

/-- A call for the id has returned nil. -/
def Created : Sdl → List Creation → PolicyTypeID → Prop
  | _, [], _ => False
  | db, creation :: creations, policyTypeId =>
      (creation.1 = policyTypeId ∧ (createPolicyType creation.1 creation.2 db).1 = .ok none) ∨
        Created (createStep db creation) creations policyTypeId

theorem createStep_get (db : Sdl) (creation : Creation) (key : String) :
    ((createStep db creation).get key).isSome ↔ (db.get key).isSome ∨
      (key = typeKey creation.1 ∧ (createPolicyType creation.1 creation.2 db).1 = .ok none) := by
  by_cases same : key = typeKey creation.1
  · subst same
    by_cases created : (createPolicyType creation.1 creation.2 db).1 = .ok none
    · rw [createStep, createPolicyType_stores created]
      simp [created]
    · rw [createStep, createPolicyType_unchanged created]
      simp [created]
  · rw [createStep, createPolicyType_get_other same]
    simp [same]

/-- What is held behind the calls was held before or is of a type that was created. -/
theorem run_isSome_iff (db : Sdl) (creations : List Creation) (key : String) :
    ((Runs.run createStep db creations).get key).isSome ↔ (db.get key).isSome ∨
      ∃ policyTypeId, key = typeKey policyTypeId ∧ Created db creations policyTypeId := by
  induction creations generalizing db with
  | nil => simp [Created]
  | cons creation creations ih =>
      rw [Runs.run_cons, ih, createStep_get, or_assoc]
      apply or_congr_right
      constructor
      · rintro (⟨same, created⟩ | ⟨policyTypeId, same, later⟩)
        · exact ⟨creation.1, same, .inl ⟨rfl, created⟩⟩
        · exact ⟨policyTypeId, same, .inr later⟩
      · rintro ⟨policyTypeId, same, ⟨rfl, created⟩ | later⟩
        · exact .inl ⟨same, created⟩
        · exact .inr ⟨policyTypeId, same, later⟩

theorem typeKey_held_iff {db : Sdl} (mediator : ∀ key, (db.get key).isSome → IsMediatorKey key)
    (creations : List Creation) (policyTypeId : PolicyTypeID) :
    ((Runs.run createStep db creations).get (typeKey policyTypeId)).isSome ↔
      Created db creations policyTypeId := by
  have fresh : ¬(db.get (typeKey policyTypeId)).isSome = true := fun held =>
    typeKey_ne_mediatorKey (mediator _ held) policyTypeId rfl
  rw [run_isSome_iff, or_iff_right fresh]
  constructor
  · rintro ⟨other, same, created⟩
    exact typeKey_injective same ▸ created
  · exact fun created => ⟨policyTypeId, rfl, created⟩

/-- Over any sequence of creations in a namespace of the mediator's other keys, the ids listed are
those of the calls that returned nil, each once, and a call returns nil exactly if the id of its
body matches and no earlier call has stored it. -/
theorem policy_types_listed_exactly (db : Sdl)
    (mediator : ∀ key, (db.get key).isSome → IsMediatorKey key) (creations : List Creation) :
    (∀ keys : List String, keys.Nodup →
      (∀ key, key ∈ keys ↔ ((Runs.run createStep db creations).get key).isSome) →
      ∃ ids, getAllPolicyType keys = .ok ids ∧ ids.Nodup ∧
        ∀ policyTypeId, policyTypeId ∈ ids ↔ Created db creations policyTypeId) ∧
    ∀ earlier policyTypeId request later,
      creations = earlier ++ (policyTypeId, request) :: later →
      ((createPolicyType policyTypeId request (Runs.run createStep db earlier)).1 = .ok none ↔
        request.policyTypeID = some policyTypeId ∧ ¬Created db earlier policyTypeId) := by
  constructor
  · intro keys distinct complete
    have known : ∀ key ∈ keys, IsMediatorKey key ∨ ∃ policyTypeId, key = typeKey policyTypeId := by
      intro key member
      rcases (run_isSome_iff db creations key).mp ((complete key).mp member) with held | created
      · exact .inl (mediator key held)
      · exact .inr (created.imp fun _ both => both.1)
    rcases getAllPolicyType_listed known distinct with ⟨ids, listed, nodup, same⟩
    refine ⟨ids, listed, nodup, fun policyTypeId => ?_⟩
    rw [same, complete, typeKey_held_iff mediator]
  · intro earlier policyTypeId request later _
    rw [createPolicyType_ok_iff, ← typeKey_held_iff mediator earlier policyTypeId,
      Option.not_isSome_iff_eq_none]

/-- The key of an instance of the type 20000. -/
def qosInstanceKey : String := INSTANCE_PREFIX ++ "20000.qos"

/-- The type 20000 is created, and a second call for it is made. -/
def qosCreations : List Creation :=
  [(20000, namedSchema "qos" 20000), (20000, namedSchema "qos2" 20000)]

theorem qosInstance_listed :
    (∃ ids, getAllPolicyType [qosInstanceKey, typeKey 20000] = .ok ids ∧ ids.Nodup ∧
      ∀ policyTypeId, policyTypeId ∈ ids ↔ policyTypeId = 20000) ∧
    (createPolicyType 20000 (namedSchema "qos2" 20000) (createStep
      (KeyValue.set ∅ qosInstanceKey ['1']) (20000, namedSchema "qos" 20000))).1 ≠ .ok none := by
  have held : ∀ key, ((KeyValue.set (∅ : Sdl) qosInstanceKey ['1']).get key).isSome ↔
      key = qosInstanceKey := by
    intro key
    rw [KeyValue.get_set]
    by_cases same : key = qosInstanceKey
    · simp [same]
    · simp [same]
  have mediator : ∀ key, ((KeyValue.set (∅ : Sdl) qosInstanceKey ['1']).get key).isSome →
      IsMediatorKey key := fun key present =>
    ⟨INSTANCE_PREFIX, by simp, "20000.qos", (held key).mp present⟩
  have apart : typeKey 20000 ≠ qosInstanceKey :=
    typeKey_ne_mediatorKey (mediator _ ((held _).mpr rfl)) 20000
  have listing := policy_types_listed_exactly _ mediator qosCreations
  have returned := (listing.2 [] 20000 (namedSchema "qos" 20000)
    [(20000, namedSchema "qos2" 20000)] rfl).mpr ⟨rfl, id⟩
  have refused : (createPolicyType 20000 (namedSchema "qos2" 20000) (createStep
      (KeyValue.set ∅ qosInstanceKey ['1']) (20000, namedSchema "qos" 20000))).1 ≠ .ok none := by
    intro again
    have fresh := (listing.2 [(20000, namedSchema "qos" 20000)] 20000
      (namedSchema "qos2" 20000) [] rfl).mp again
    exact fresh.2 (.inl ⟨rfl, returned⟩)
  have created : ∀ policyTypeId, Created (KeyValue.set ∅ qosInstanceKey ['1']) qosCreations
      policyTypeId ↔ policyTypeId = 20000 := by
    intro policyTypeId
    have first : (createPolicyType 20000 (namedSchema "qos" 20000)
        (KeyValue.set ∅ qosInstanceKey ['1'])).1 = .ok none := returned
    simp only [Created, qosCreations, first, refused, and_true, and_false, or_false, eq_comm]
  refine ⟨?_, refused⟩
  rcases listing.1 [qosInstanceKey, typeKey 20000] (by simpa using apart.symm) (fun key => by
    rw [run_isSome_iff, held]
    simp [created]) with ⟨ids, listed, nodup, same⟩
  exact ⟨ids, listed, nodup, fun policyTypeId => (same policyTypeId).trans (created policyTypeId)⟩

end NearRtRic.A1.Resthook
