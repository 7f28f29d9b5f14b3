import Mathlib.Data.String.Basic
import NearRtRic.Library.JsonText

/-! What `json.Unmarshal` stores in an `interface{}`, and the characters of a written value. -/

namespace NearRtRic.JsonText

namespace Number

variable (number : Number)

def natural (digits : List Char) : Nat := Nat.ofDigitChars 10 digits 0

def integerDigits : List Char := (afterSign number.literal).takeWhile Char.isDigit

def behindInteger : List Char := (afterSign number.literal).dropWhile Char.isDigit

def fractionDigits : List Char :=
  match number.behindInteger with
  | '.' :: rest => rest.takeWhile Char.isDigit
  | _ => []

def exponent : Int :=
  match afterFraction number.behindInteger with
  | [] => 0
  | _ :: '-' :: digits => -(natural digits)
  | _ :: '+' :: digits => natural digits
  | _ :: digits => natural digits

/-- The digits as one number, which is multiplied with ten to the power of `scale`. -/
def mantissa : Nat := natural (number.integerDigits ++ number.fractionDigits)

def scale : Int := number.exponent - number.fractionDigits.length

/-- The least magnitude that is nearer to `2 ^ 1024` than to any float64; not to be unfolded by
unification, which would count to it. -/
@[irreducible] def float64Overflow : Nat := 2 ^ 1024 - 2 ^ 970

/-- `strconv.ParseFloat` finds a finite float64 that is nearest. -/
def InFloat64Range : Prop :=
  number.mantissa * 10 ^ number.scale.toNat < float64Overflow * 10 ^ (-number.scale).toNat

instance : Decidable number.InFloat64Range := inferInstanceAs (Decidable (_ < _))

end Number

abbrev Fields := List (String × Value)

/-- The keys of a map, in the order in which `json.Marshal` writes them. -/
def Sorted (fields : Fields) : Prop := (fields.map Prod.fst).Pairwise (· < ·)

def insertField (key : String) (value : Value) : Fields → Fields
  | [] => [(key, value)]
  | (other, held) :: fields =>
      if key < other then (key, value) :: (other, held) :: fields
      else if key = other then (key, value) :: fields
      else (other, held) :: insertField key value fields

/-- The map of the fields; the last one of a key stays. -/
def toMap (fields : Fields) : Fields :=
  fields.foldl (fun map field => insertField field.1 field.2 map) []

theorem insertField_mem {key : String} {value : Value} {map : Fields} {field : String × Value}
    (member : field ∈ insertField key value map) : field = (key, value) ∨ field ∈ map := by
  induction map with
  | nil => exact .inl (List.mem_singleton.mp member)
  | cons first map ih =>
      rw [insertField] at member
      split at member
      · simpa using member
      · split at member
        · rcases List.mem_cons.mp member with same | later
          · exact .inl same
          · exact .inr (List.mem_cons_of_mem _ later)
        · rcases List.mem_cons.mp member with same | later
          · exact .inr (by simp [same])
          · rcases ih later with same | old
            · exact .inl same
            · exact .inr (List.mem_cons_of_mem _ old)

theorem insertField_sorted {map : Fields} (sorted : Sorted map) (key : String) (value : Value) :
    Sorted (insertField key value map) := by
  induction map with
  | nil => simp [insertField, Sorted]
  | cons first map ih =>
      rcases first with ⟨other, held⟩
      rw [Sorted, List.map_cons, List.pairwise_cons] at sorted
      rw [insertField]
      split
      · next before =>
        rw [Sorted, List.map_cons, List.pairwise_cons]
        refine ⟨?_, List.pairwise_cons.mpr sorted⟩
        intro later member
        rcases List.mem_cons.mp member with rfl | member
        · exact before
        · exact before.trans (sorted.1 later member)
      · split
        · next same => exact List.pairwise_cons.mpr ⟨same ▸ sorted.1, sorted.2⟩
        · next notBefore notSame =>
          rw [Sorted, List.map_cons, List.pairwise_cons]
          refine ⟨?_, ih sorted.2⟩
          intro later member
          rcases List.mem_map.mp member with ⟨field, hfield, rfl⟩
          rcases insertField_mem hfield with rfl | old
          · exact lt_of_le_of_ne (not_lt.mp notBefore) (Ne.symm notSame)
          · exact sorted.1 field.1 (List.mem_map_of_mem old)

theorem foldl_insertField_sorted (fields : Fields) {map : Fields} (sorted : Sorted map) :
    Sorted (fields.foldl (fun map field => insertField field.1 field.2 map) map) := by
  induction fields generalizing map with
  | nil => exact sorted
  | cons field fields ih => exact ih (insertField_sorted sorted field.1 field.2)

theorem toMap_sorted (fields : Fields) : Sorted (toMap fields) :=
  foldl_insertField_sorted fields .nil

theorem foldl_insertField_mem {fields map : Fields} {field : String × Value}
    (member : field ∈ fields.foldl (fun map field => insertField field.1 field.2 map) map) :
    field ∈ fields ∨ field ∈ map := by
  induction fields generalizing map with
  | nil => exact .inr member
  | cons first fields ih =>
      rcases ih member with later | inserted
      · exact .inl (List.mem_cons_of_mem _ later)
      · rcases insertField_mem inserted with same | old
        · exact .inl (by simp [same])
        · exact .inr old

theorem toMap_mem {fields : Fields} {field : String × Value} (member : field ∈ toMap fields) :
    field ∈ fields := by
  rcases foldl_insertField_mem member with inside | inside
  · exact inside
  · cases inside

theorem insertField_last {key : String} {value : Value} {map : Fields}
    (last : ∀ field ∈ map, field.1 < key) :
    insertField key value map = map ++ [(key, value)] := by
  induction map with
  | nil => rfl
  | cons first map ih =>
      have hfirst := last first (by simp)
      rw [insertField, if_neg hfirst.not_gt, if_neg hfirst.ne',
        ih fun field member => last field (by simp [member])]
      rfl

theorem foldl_insertField_of_sorted {fields map : Fields} (sorted : Sorted (map ++ fields)) :
    fields.foldl (fun map field => insertField field.1 field.2 map) map = map ++ fields := by
  induction fields generalizing map with
  | nil => simp
  | cons field fields ih =>
      have hlast : ∀ other ∈ map, other.1 < field.1 := by
        intro other member
        rw [Sorted, List.map_append, List.pairwise_append] at sorted
        exact sorted.2.2 other.1 (List.mem_map_of_mem member) field.1 (by simp)
      calc
        List.foldl (fun map field => insertField field.1 field.2 map) map (field :: fields)
            = fields.foldl (fun map field => insertField field.1 field.2 map) (map ++ [field]) := by
          rw [List.foldl_cons, insertField_last hlast]
        _ = map ++ [field] ++ fields := ih (by simpa [Sorted] using sorted)
        _ = map ++ field :: fields := by simp

theorem toMap_of_sorted {fields : Fields} (sorted : Sorted fields) : toMap fields = fields :=
  foldl_insertField_of_sorted sorted

mutual

/-- What an `interface{}` holds of a value. A number becomes the float64 nearest to it, for which
its literal stands; beyond the range of a float64 there is an error, and nothing is stored. -/
def toInterface : Value → Value
  | .null => .null
  | .bool value => .bool value
  | .number number => if number.InFloat64Range then .number number else .null
  | .string text => .string text
  | .array items => .array (toInterfaces items)
  | .object fields => .object (toMap (toInterfaceFields fields))

def toInterfaces : List Value → List Value
  | [] => []
  | item :: items => toInterface item :: toInterfaces items

def toInterfaceFields : List (String × Value) → List (String × Value)
  | [] => []
  | (key, value) :: fields => (key, toInterface value) :: toInterfaceFields fields

end

mutual

/-- Every object is a map. -/
def IsInterface : Value → Prop
  | .array items => AreInterfaces items
  | .object fields => Sorted fields ∧ FieldsAreInterfaces fields
  | _ => True

def AreInterfaces : List Value → Prop
  | [] => True
  | item :: items => IsInterface item ∧ AreInterfaces items

def FieldsAreInterfaces : List (String × Value) → Prop
  | [] => True
  | (_, value) :: fields => IsInterface value ∧ FieldsAreInterfaces fields

end

mutual

/-- The strings in a value, the keys of its objects among them. -/
def strings : Value → List String
  | .string text => [text]
  | .array items => stringsOfItems items
  | .object fields => stringsOfFields fields
  | _ => []

def stringsOfItems : List Value → List String
  | [] => []
  | item :: items => strings item ++ stringsOfItems items

def stringsOfFields : List (String × Value) → List String
  | [] => []
  | (key, value) :: fields => key :: (strings value ++ stringsOfFields fields)

end

mutual

def numbers : Value → List Number
  | .number number => [number]
  | .array items => numbersOfItems items
  | .object fields => numbersOfFields fields
  | _ => []

def numbersOfItems : List Value → List Number
  | [] => []
  | item :: items => numbers item ++ numbersOfItems items

def numbersOfFields : List (String × Value) → List Number
  | [] => []
  | (_, value) :: fields => numbers value ++ numbersOfFields fields

end

theorem fieldsAreInterfaces_iff {fields : Fields} :
    FieldsAreInterfaces fields ↔ ∀ field ∈ fields, IsInterface field.2 := by
  induction fields with
  | nil => simp [FieldsAreInterfaces]
  | cons field fields ih => simp [FieldsAreInterfaces, ih]

theorem toInterfaceFields_keys (fields : Fields) :
    (toInterfaceFields fields).map Prod.fst = fields.map Prod.fst := by
  induction fields with
  | nil => rfl
  | cons field fields ih => simp [toInterfaceFields, ih]

mutual

theorem toInterface_isInterface : (value : Value) → IsInterface (toInterface value)
  | .null => trivial
  | .bool _ => trivial
  | .number number => by
      rw [toInterface]
      split
      · exact trivial
      · exact trivial
  | .string _ => trivial
  | .array items => toInterfaces_areInterfaces items
  | .object fields => by
      have held := fieldsAreInterfaces_iff.mp (toInterfaceFields_areInterfaces fields)
      rw [toInterface, IsInterface]
      exact ⟨toMap_sorted _, fieldsAreInterfaces_iff.mpr fun field member =>
        held field (toMap_mem member)⟩

theorem toInterfaces_areInterfaces : (items : List Value) → AreInterfaces (toInterfaces items)
  | [] => trivial
  | item :: items => ⟨toInterface_isInterface item, toInterfaces_areInterfaces items⟩

theorem toInterfaceFields_areInterfaces : (fields : List (String × Value)) →
    FieldsAreInterfaces (toInterfaceFields fields)
  | [] => trivial
  | (_, value) :: fields =>
      ⟨toInterface_isInterface value, toInterfaceFields_areInterfaces fields⟩

end

mutual

/-- A value of maps is kept exactly if a float64 can hold each of its numbers. -/
theorem toInterface_eq_iff : (value : Value) → IsInterface value →
    (toInterface value = value ↔ ∀ number ∈ numbers value, number.InFloat64Range)
  | .null, _ => by simp [toInterface, numbers]
  | .bool _, _ => by simp [toInterface, numbers]
  | .number number, _ => by
      rw [toInterface]
      split
      · next inside => simp [numbers, inside]
      · next outside => simp [numbers, outside]
  | .string _, _ => by simp [toInterface, numbers]
  | .array items, held => by
      rw [toInterface, Value.array.injEq, numbers]
      exact toInterfaces_eq_iff items held
  | .object fields, held => by
      have sorted : Sorted (toInterfaceFields fields) := by
        rw [Sorted, toInterfaceFields_keys]
        exact held.1
      rw [toInterface, toMap_of_sorted sorted, Value.object.injEq, numbers]
      exact toInterfaceFields_eq_iff fields held.2

theorem toInterfaces_eq_iff : (items : List Value) → AreInterfaces items →
    (toInterfaces items = items ↔ ∀ number ∈ numbersOfItems items, number.InFloat64Range)
  | [], _ => by simp [toInterfaces, numbersOfItems]
  | item :: items, held => by
      rw [toInterfaces, List.cons.injEq, toInterface_eq_iff item held.1,
        toInterfaces_eq_iff items held.2, numbersOfItems]
      simp only [List.mem_append, or_imp, forall_and]

theorem toInterfaceFields_eq_iff : (fields : List (String × Value)) →
    FieldsAreInterfaces fields →
    (toInterfaceFields fields = fields ↔
      ∀ number ∈ numbersOfFields fields, number.InFloat64Range)
  | [], _ => by simp [toInterfaceFields, numbersOfFields]
  | (key, value) :: fields, held => by
      rw [toInterfaceFields, List.cons.injEq, Prod.mk.injEq, toInterface_eq_iff value held.1,
        toInterfaceFields_eq_iff fields held.2, numbersOfFields]
      simp only [true_and, List.mem_append, or_imp, forall_and]

end

/-- The characters with which values are written whatever their strings are. -/
def isSyntax (char : Char) : Bool :=
  isNumberChar char || char == openBrace || char == closeBrace ||
    ['"', '\\', ',', ':', '[', ']', 'a', 'b', 'c', 'd', 'e', 'f', 'l', 'n', 'r', 's', 't',
      'u'].contains char

theorem ne_of_isSyntax {char other : Char} (plain : isSyntax char = false)
    (used : isSyntax other = true) : char ≠ other := by
  rintro rfl
  rw [plain] at used
  cases used

theorem not_mem_of_isSyntax {char : Char} {text : List Char} (plain : isSyntax char = false)
    (used : text.all isSyntax = true) : char ∉ text :=
  fun member => ne_of_isSyntax plain (List.all_eq_true.mp used char member) rfl

theorem isSyntax_hexDigit (value : Nat) : isSyntax (hexDigit value) = true := by
  have each : ∀ digit < 16, isSyntax (Nat.digitChar digit) = true := by decide
  exact each _ (Nat.mod_lt _ (by decide))

theorem isSyntax_unicodeEscape (code : Nat) : (unicodeEscape code).all isSyntax = true := by
  have opening : ['\\', 'u'].all isSyntax = true := by decide
  rw [List.all_eq_true] at opening ⊢
  intro char member
  simp only [unicodeEscape, List.mem_cons, List.not_mem_nil, or_false] at member
  rcases member with rfl | rfl | rfl | rfl | rfl | rfl
  · exact opening _ (by simp)
  · exact opening _ (by simp)
  all_goals exact isSyntax_hexDigit _

section Characters

variable {char : Char}

theorem mem_escape (plain : isSyntax char = false) (other : Char) :
    char ∈ escape other ↔ char = other ∧ isCoded other = false := by
  have apart : ∀ text : List Char, text.all isSyntax = true →
      (char = other → isCoded other = true ∨ isSyntax other = true) →
      (char ∈ text ↔ char = other ∧ isCoded other = false) := by
    intro text used special
    refine iff_of_false (not_mem_of_isSyntax plain used) ?_
    rintro ⟨same, notCoded⟩
    rcases special same with coded | syntactic
    · rw [coded] at notCoded
      cases notCoded
    · exact ne_of_isSyntax plain syntactic same
  unfold escape
  split
  · next quote => exact apart _ (by decide) fun _ => .inr (quote ▸ by decide)
  · split
    · next slash => exact apart _ (by decide) fun _ => .inr (slash ▸ by decide)
    · split
      · next line => exact apart _ (by decide) fun _ => .inl (line ▸ by decide)
      · split
        · next back => exact apart _ (by decide) fun _ => .inl (back ▸ by decide)
        · split
          · next tab => exact apart _ (by decide) fun _ => .inl (tab ▸ by decide)
          · split
            · next coded => exact apart _ (isSyntax_unicodeEscape _) fun _ => .inl coded
            · next notCoded => simp [notCoded]

theorem mem_quoted (plain : isSyntax char = false) (text : String) :
    char ∈ quoted text ↔ char ∈ text.toList ∧ isCoded char = false := by
  have quote : char ≠ '"' := ne_of_isSyntax plain (by decide)
  simp only [quoted, List.mem_cons, List.mem_append, List.mem_flatMap, List.not_mem_nil, or_false,
    quote, false_or, mem_escape plain]
  constructor
  · rintro ⟨other, member, rfl, notCoded⟩
    exact ⟨member, notCoded⟩
  · rintro ⟨member, notCoded⟩
    exact ⟨char, member, rfl, notCoded⟩

/-- A character beyond the syntax that is not written by its code. -/
def Shown (char : Char) (texts : List String) : Prop :=
  isCoded char = false ∧ ∃ text ∈ texts, char ∈ text.toList

theorem shown_append (first second : List String) :
    Shown char (first ++ second) ↔ Shown char first ∨ Shown char second := by
  simp only [Shown, List.mem_append, or_and_right, exists_or, and_or_left]

theorem shown_cons (text : String) (texts : List String) :
    Shown char (text :: texts) ↔
      (char ∈ text.toList ∧ isCoded char = false) ∨ Shown char texts := by
  simp only [Shown, List.mem_cons, or_and_right, exists_or, exists_eq_left, and_or_left, and_comm]

mutual

/-- It is in the text of a value exactly if it is in one of its strings. -/
theorem mem_write (plain : isSyntax char = false) : (value : Value) →
    (char ∈ write value ↔ Shown char (strings value))
  | .null => iff_of_false (not_mem_of_isSyntax plain (by decide)) (by simp [Shown, strings])
  | .bool true => iff_of_false (not_mem_of_isSyntax plain (by decide)) (by simp [Shown, strings])
  | .bool false => iff_of_false (not_mem_of_isSyntax plain (by decide)) (by simp [Shown, strings])
  | .number number => by
      refine iff_of_false (not_mem_of_isSyntax plain ?_) (by simp [Shown, strings])
      rw [List.all_eq_true]
      intro other member
      have used := List.all_eq_true.mp number.chars other member
      simp [isSyntax, used]
  | .string text => by
      rw [write, mem_quoted plain, strings, shown_cons]
      simp [Shown]
  | .array [] =>
      iff_of_false (not_mem_of_isSyntax plain (by decide))
        (by simp [Shown, strings, stringsOfItems])
  | .array (item :: items) => by
      have bracket : char ≠ '[' := ne_of_isSyntax plain (by decide)
      rw [write, strings, stringsOfItems, shown_append, ← mem_write plain item,
        ← mem_writeItems plain items]
      simp [bracket]
  | .object [] =>
      iff_of_false (not_mem_of_isSyntax plain (by decide))
        (by simp [Shown, strings, stringsOfFields])
  | .object ((key, value) :: fields) => by
      have brace : char ≠ openBrace := ne_of_isSyntax plain (by decide)
      have colon : char ≠ ':' := ne_of_isSyntax plain (by decide)
      rw [write, strings, stringsOfFields, shown_cons, shown_append, ← mem_write plain value,
        ← mem_writeFields plain fields, ← mem_quoted plain]
      simp [brace, colon]

theorem mem_writeItems (plain : isSyntax char = false) : (items : List Value) →
    (char ∈ writeItems items ↔ Shown char (stringsOfItems items))
  | [] => iff_of_false (not_mem_of_isSyntax plain (by decide)) (by simp [Shown, stringsOfItems])
  | item :: items => by
      have comma : char ≠ ',' := ne_of_isSyntax plain (by decide)
      rw [writeItems, stringsOfItems, shown_append, ← mem_write plain item,
        ← mem_writeItems plain items]
      simp [comma]

theorem mem_writeFields (plain : isSyntax char = false) : (fields : List (String × Value)) →
    (char ∈ writeFields fields ↔ Shown char (stringsOfFields fields))
  | [] => iff_of_false (not_mem_of_isSyntax plain (by decide)) (by simp [Shown, stringsOfFields])
  | (key, value) :: fields => by
      have comma : char ≠ ',' := ne_of_isSyntax plain (by decide)
      have colon : char ≠ ':' := ne_of_isSyntax plain (by decide)
      rw [writeFields, stringsOfFields, shown_cons, shown_append, ← mem_write plain value,
        ← mem_writeFields plain fields, ← mem_quoted plain]
      simp [comma, colon]

end

end Characters

end NearRtRic.JsonText
