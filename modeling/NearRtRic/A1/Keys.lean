import NearRtRic.Library.Text

/-! The keys of A1's namespace and what their prefixes can match. -/

namespace NearRtRic.A1

def TYPE_PREFIX : String := "a1.policy_type."
def INSTANCE_PREFIX : String := "a1.policy_instance."
def METADATA_PREFIX : String := "a1.policy_inst_metadata."
def HANDLER_PREFIX : String := "a1.policy_handler."

section Generate

variable {TypeId InstanceId HandlerId : Type}
variable [ToString TypeId] [ToString InstanceId] [ToString HandlerId]

def generateTypeKey (policyTypeId : TypeId) : String :=
  TYPE_PREFIX ++ toString policyTypeId

def generateInstanceKey (policyTypeId : TypeId) (policyInstanceId : InstanceId) : String :=
  INSTANCE_PREFIX ++ toString policyTypeId ++ "." ++ toString policyInstanceId

def generateInstanceMetadataKey (policyTypeId : TypeId) (policyInstanceId : InstanceId) : String :=
  METADATA_PREFIX ++ toString policyTypeId ++ "." ++ toString policyInstanceId

def generateHandlerPrefix (policyTypeId : TypeId) (policyInstanceId : InstanceId) : String :=
  HANDLER_PREFIX ++ toString policyTypeId ++ "." ++ toString policyInstanceId ++ "."

def generateHandlerKey (policyTypeId : TypeId) (policyInstanceId : InstanceId)
    (handlerId : HandlerId) : String :=
  generateHandlerPrefix policyTypeId policyInstanceId ++ toString handlerId

/-- The prefix of the instance keys of a type. -/
def prefixesForType (policyTypeId : TypeId) : String :=
  INSTANCE_PREFIX ++ toString policyTypeId ++ "."

end Generate

/-! A type id is written in decimal digits, so the separator ends it. -/

theorem dot_not_mem_digits (number : Nat) : '.' ∉ (toString number).toList := by
  intro member
  have digits : (toString number).toList = Nat.toDigits 10 number := Nat.toList_repr
  rw [digits] at member
  have digit := Nat.isDigit_of_mem_toDigits (by decide) (by decide) member
  exact absurd digit (by decide)

theorem digits_injective {first second : Nat}
    (equal : (toString first).toList = (toString second).toList) : first = second := by
  have digits : Nat.toDigits 10 first = Nat.toDigits 10 second :=
    Nat.toList_repr.symm.trans (equal.trans Nat.toList_repr)
  have values := congrArg (fun chars => Nat.ofDigitChars 10 chars 0) digits
  simpa only [Nat.ofDigitChars_ten_toDigits] using values

/-- What the prefix of a pair glued from a type id and a further text can match. -/
theorem startswith_glued (common : String) (first second : Nat) (text start : String) :
    Text.startswith (common ++ toString first ++ "." ++ text)
        (common ++ toString second ++ "." ++ start) = true ↔
      second = first ∧ start.toList <+: text.toList := by
  have reassociate : ∀ (number : Nat) (rest : String),
      common ++ toString number ++ "." ++ rest = common ++ (toString number ++ "." ++ rest) := by
    intro number rest
    simp only [String.append_assoc]
  rw [reassociate, reassociate, Text.startswith_append_append, Text.startswith,
    List.isPrefixOf_iff_prefix]
  simp only [String.toList_append, List.append_assoc]
  apply (Text.prefix_fields (dot_not_mem_digits second) (dot_not_mem_digits first)).trans
  constructor
  · intro fields
    exact ⟨digits_injective fields.1, fields.2⟩
  · intro fields
    exact ⟨congrArg (fun number => (toString number).toList) fields.1, fields.2⟩

theorem glued_injective (common : String) {first second : Nat} {text other : String}
    (equal : common ++ toString first ++ "." ++ text = common ++ toString second ++ "." ++ other) :
    first = second ∧ text = other := by
  have starts : Text.startswith (common ++ toString first ++ "." ++ text)
      (common ++ toString second ++ "." ++ other) = true :=
    (Text.startswith_iff _ _).mpr ⟨"", by rw [equal, String.append_empty]⟩
  obtain ⟨rfl, _⟩ := (startswith_glued common first second text other).mp starts
  exact ⟨rfl, Text.append_left_cancel equal⟩

theorem type_key_injective {first second : Nat}
    (equal : generateTypeKey first = generateTypeKey second) : first = second :=
  digits_injective (congrArg String.toList (Text.append_left_cancel equal))

theorem instance_key_injective {first second : Nat} {text other : String}
    (equal : generateInstanceKey first text = generateInstanceKey second other) :
    first = second ∧ text = other :=
  glued_injective INSTANCE_PREFIX equal

theorem metadata_key_injective {first second : Nat} {text other : String}
    (equal : generateInstanceMetadataKey first text = generateInstanceMetadataKey second other) :
    first = second ∧ text = other :=
  glued_injective METADATA_PREFIX equal

@[simp] theorem type_key_eq_iff (first second : Nat) :
    generateTypeKey first = generateTypeKey second ↔ first = second :=
  ⟨type_key_injective, congrArg _⟩

@[simp] theorem instance_key_eq_iff (first second : Nat) (text other : String) :
    generateInstanceKey first text = generateInstanceKey second other ↔
      first = second ∧ text = other :=
  ⟨instance_key_injective, fun ⟨same, equal⟩ => by rw [same, equal]⟩

@[simp] theorem metadata_key_eq_iff (first second : Nat) (text other : String) :
    generateInstanceMetadataKey first text = generateInstanceMetadataKey second other ↔
      first = second ∧ text = other :=
  ⟨metadata_key_injective, fun ⟨same, equal⟩ => by rw [same, equal]⟩

/-! The four families share no key: of two of the prefixes, neither starts the other. -/

theorem ne_of_not_starts {family otherFamily a b : String}
    (apart : Text.startswith family otherFamily = false ∧
      Text.startswith otherFamily family = false) : family ++ a ≠ otherFamily ++ b := by
  intro equal
  have starts := Text.startswith_append otherFamily b
  have never := Text.startswith_of_incomparable apart a ""
  rw [equal, String.append_empty, starts] at never
  exact Bool.noConfusion never

section Reported

/-! The handler key of a status whose ids are of any type. -/

variable {TypeId InstanceId HandlerId : Type}
variable [ToString TypeId] [ToString InstanceId] [ToString HandlerId]
variable (policyTypeId : TypeId) (policyInstanceId : InstanceId) (handlerId : HandlerId)

theorem type_ne_reported (other : Nat) :
    generateTypeKey other ≠ generateHandlerKey policyTypeId policyInstanceId handlerId := by
  simp only [generateTypeKey, generateHandlerKey, generateHandlerPrefix, String.append_assoc]
  exact ne_of_not_starts (by decide)

theorem instance_ne_reported (other : Nat) (text : String) :
    generateInstanceKey other text ≠
      generateHandlerKey policyTypeId policyInstanceId handlerId := by
  simp only [generateInstanceKey, generateHandlerKey, generateHandlerPrefix, String.append_assoc]
  exact ne_of_not_starts (by decide)

end Reported

section Families

variable (first second : Nat) (text other handler : String)

@[simp] theorem type_key_not_handler :
    Text.startswith (generateTypeKey first) (generateHandlerPrefix second other) = false := by
  simp only [generateTypeKey, generateHandlerPrefix, String.append_assoc]
  exact Text.startswith_of_incomparable (by decide) _ _

@[simp] theorem instance_key_not_handler :
    Text.startswith (generateInstanceKey first text) (generateHandlerPrefix second other) =
      false := by
  simp only [generateInstanceKey, generateHandlerPrefix, String.append_assoc]
  exact Text.startswith_of_incomparable (by decide) _ _

@[simp] theorem metadata_key_not_handler :
    Text.startswith (generateInstanceMetadataKey first text)
      (generateHandlerPrefix second other) = false := by
  simp only [generateInstanceMetadataKey, generateHandlerPrefix, String.append_assoc]
  exact Text.startswith_of_incomparable (by decide) _ _

@[simp] theorem type_key_not_instance :
    Text.startswith (generateTypeKey first) (prefixesForType second) = false := by
  simp only [generateTypeKey, prefixesForType, String.append_assoc]
  exact Text.startswith_of_incomparable (by decide) _ _

@[simp] theorem metadata_key_not_instance :
    Text.startswith (generateInstanceMetadataKey first text) (prefixesForType second) = false := by
  simp only [generateInstanceMetadataKey, prefixesForType, String.append_assoc]
  exact Text.startswith_of_incomparable (by decide) _ _

@[simp] theorem handler_key_not_instance :
    Text.startswith (generateHandlerKey first text handler) (prefixesForType second) = false := by
  simp only [generateHandlerKey, generateHandlerPrefix, prefixesForType, String.append_assoc]
  exact Text.startswith_of_incomparable (by decide) _ _

@[simp] theorem handler_key_starts :
    Text.startswith (generateHandlerKey first text handler) (generateHandlerPrefix first text) =
      true :=
  Text.startswith_append _ _

@[simp] theorem instance_ne_metadata :
    generateInstanceKey first text ≠ generateInstanceMetadataKey second other := by
  simp only [generateInstanceKey, generateInstanceMetadataKey, String.append_assoc]
  exact ne_of_not_starts (by decide)

@[simp] theorem type_ne_instance :
    generateTypeKey first ≠ generateInstanceKey second other := by
  simp only [generateTypeKey, generateInstanceKey, String.append_assoc]
  exact ne_of_not_starts (by decide)

@[simp] theorem type_ne_metadata :
    generateTypeKey first ≠ generateInstanceMetadataKey second other := by
  simp only [generateTypeKey, generateInstanceMetadataKey, String.append_assoc]
  exact ne_of_not_starts (by decide)

@[simp] theorem type_ne_handler :
    generateTypeKey first ≠ generateHandlerKey second other handler :=
  type_ne_reported second other handler first

@[simp] theorem instance_ne_handler :
    generateInstanceKey first text ≠ generateHandlerKey second other handler :=
  instance_ne_reported second other handler first text

@[simp] theorem metadata_ne_handler :
    generateInstanceMetadataKey first text ≠ generateHandlerKey second other handler :=
  (Text.ne_of_startswith (handler_key_starts second other handler)
    (metadata_key_not_handler first second text other)).symm

end Families

/-- The search of `_get_instance_list` meets instance keys of the type only. -/
theorem startswith_prefixesForType (policyTypeId : Nat) (key : String) :
    Text.startswith key (prefixesForType policyTypeId) = true ↔
      ∃ policyInstanceId : String, key = generateInstanceKey policyTypeId policyInstanceId :=
  Text.startswith_iff _ _

theorem instance_key_startswith (first second : Nat) (text : String) :
    Text.startswith (generateInstanceKey first text) (prefixesForType second) = true ↔
      second = first := by
  have glued := startswith_glued INSTANCE_PREFIX first second text ""
  rw [String.append_empty] at glued
  refine glued.trans ?_
  simp

/-- The search for the handlers of an instance meets every key whose glued text starts with
the instance id and the separator, whoever wrote it. -/
theorem handler_key_startswith (first second : Nat) (text other handler : String) :
    Text.startswith (generateHandlerKey first text handler)
        (generateHandlerPrefix second other) = true ↔
      second = first ∧ other.toList ++ ['.'] <+: text.toList ++ '.' :: handler.toList := by
  have key : generateHandlerKey first text handler =
      HANDLER_PREFIX ++ toString first ++ "." ++ (text ++ "." ++ handler) := by
    simp only [generateHandlerKey, generateHandlerPrefix, String.append_assoc]
    rfl
  have start : generateHandlerPrefix second other =
      HANDLER_PREFIX ++ toString second ++ "." ++ (other ++ ".") := by
    simp only [generateHandlerPrefix, String.append_assoc]
    rfl
  rw [key, start, startswith_glued]
  simp [String.toList_append]

/-- A handler search finds only keys of the same instance where no id holds the separator. -/
theorem handler_key_plain {first second : Nat} {text other handler : String}
    (plainText : '.' ∉ text.toList) (plainHandler : '.' ∉ handler.toList)
    (starts : Text.startswith (generateHandlerKey first text handler)
      (generateHandlerPrefix second other) = true) : second = first ∧ other = text := by
  obtain ⟨rfl, glued⟩ := (handler_key_startswith _ _ _ _ _).mp starts
  exact ⟨rfl, String.toList_inj.mp (Text.plain_fields_prefix plainText plainHandler glued)⟩

/-- An id with the separator in it lets the search of another instance find the key. -/
theorem handler_key_mixed {policyTypeId : Nat} {text handler : String}
    (mixed : '.' ∈ text.toList ∨ '.' ∈ handler.toList) :
    ∃ other : String, other ≠ text ∧
      Text.startswith (generateHandlerKey policyTypeId text handler)
        (generateHandlerPrefix policyTypeId other) = true := by
  obtain ⟨other, differ, starts⟩ := Text.fields_prefix_of_separator mixed
  refine ⟨String.ofList other, ?_, ?_⟩
  · intro equal
    exact differ (by rw [← equal, String.toList_ofList])
  · rw [handler_key_startswith, String.toList_ofList]
    exact ⟨rfl, starts⟩

end NearRtRic.A1
