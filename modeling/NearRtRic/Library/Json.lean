import Mathlib.Tactic

/-! JSON values as Python holds them after `json.loads`. -/

namespace NearRtRic

/-- A float stands by its `repr`, an object by its items in insertion order. -/
inductive Json where
  | null
  | bool (value : Bool)
  | int (value : Int)
  | float (repr : String)
  | str (text : String)
  | arr (items : List Json)
  | obj (fields : List (String × Json))
  deriving Repr, Inhabited

namespace Json

mutual

def decEq : (a b : Json) → Decidable (a = b)
  | .null, .null => isTrue rfl
  | .bool a, .bool b => decidable_of_iff (a = b) (by simp)
  | .int a, .int b => decidable_of_iff (a = b) (by simp)
  | .float a, .float b => decidable_of_iff (a = b) (by simp)
  | .str a, .str b => decidable_of_iff (a = b) (by simp)
  | .arr a, .arr b => have := decEqItems a b; decidable_of_iff (a = b) (by simp)
  | .obj a, .obj b => have := decEqFields a b; decidable_of_iff (a = b) (by simp)
  | .null, .bool _ | .null, .int _ | .null, .float _ | .null, .str _ | .null, .arr _
  | .null, .obj _ | .bool _, .null | .bool _, .int _ | .bool _, .float _ | .bool _, .str _
  | .bool _, .arr _ | .bool _, .obj _ | .int _, .null | .int _, .bool _ | .int _, .float _
  | .int _, .str _ | .int _, .arr _ | .int _, .obj _ | .float _, .null | .float _, .bool _
  | .float _, .int _ | .float _, .str _ | .float _, .arr _ | .float _, .obj _ | .str _, .null
  | .str _, .bool _ | .str _, .int _ | .str _, .float _ | .str _, .arr _ | .str _, .obj _
  | .arr _, .null | .arr _, .bool _ | .arr _, .int _ | .arr _, .float _ | .arr _, .str _
  | .arr _, .obj _ | .obj _, .null | .obj _, .bool _ | .obj _, .int _ | .obj _, .float _
  | .obj _, .str _ | .obj _, .arr _ => isFalse (by simp)

def decEqItems : (a b : List Json) → Decidable (a = b)
  | [], [] => isTrue rfl
  | a :: as, b :: bs =>
      have := decEq a b
      have := decEqItems as bs
      decidable_of_iff (a = b ∧ as = bs) (by simp)
  | [], _ :: _ | _ :: _, [] => isFalse (by simp)

def decEqFields : (a b : List (String × Json)) → Decidable (a = b)
  | [], [] => isTrue rfl
  | (k, a) :: as, (l, b) :: bs =>
      have := decEq a b
      have := decEqFields as bs
      decidable_of_iff ((k = l ∧ a = b) ∧ as = bs) (by simp)
  | [], _ :: _ | _ :: _, [] => isFalse (by simp)

end

instance : DecidableEq Json := decEq

inductive ItemError where
  | keyError (key : String)
  | typeError
  deriving DecidableEq, Repr

/-- `value[key]` -/
def getItem (value : Json) (key : String) : Except ItemError Json :=
  match value with
  | .obj fields =>
      match fields.find? (fun field => field.1 == key) with
      | some field => .ok field.2
      | none => .error (.keyError key)
  | _ => .error .typeError

/-- `value[key] = item` -/
def setItem (value : Json) (key : String) (item : Json) : Except ItemError Json :=
  match value with
  | .obj fields =>
      if fields.any (fun field => field.1 == key) then
        .ok (.obj (fields.map (fun field => if field.1 == key then (key, item) else field)))
      else
        .ok (.obj (fields ++ [(key, item)]))
  | _ => .error .typeError

theorem getItem_setItem {value stored item : Json} {key : String}
    (set : value.setItem key item = .ok stored) : stored.getItem key = .ok item := by
  cases value with
  | obj fields =>
      rw [setItem] at set
      split at set
      · next present =>
          cases set
          have sameField : ((fun field : String × Json => field.1 == key) ∘ fun field =>
              if field.1 == key then (key, item) else field) = fun field => field.1 == key := by
            funext field
            by_cases named : field.1 = key
            · simp [named]
            · simp [named]
          rw [getItem, List.find?_map, sameField]
          cases found : fields.find? (fun field => field.1 == key) with
          | none =>
              rcases List.any_eq_true.mp present with ⟨field, member, named⟩
              exact absurd named (List.find?_eq_none.mp found field member)
          | some field =>
              have named := List.find?_some found
              have sameKey : field.1 = key := by simpa using named
              simp [sameKey]
      · next absent =>
          cases set
          have missing : fields.find? (fun field => field.1 == key) = none := by
            rw [List.find?_eq_none]
            intro field member named
            exact absent (List.any_eq_true.mpr ⟨field, member, named⟩)
          simp [getItem, missing]
  | _ => cases set

/-- `del value[key]` -/
def delItem (value : Json) (key : String) : Except ItemError Json :=
  match value with
  | .obj fields =>
      if fields.any (fun field => field.1 == key) then
        .ok (.obj (fields.filter (fun field => field.1 != key)))
      else
        .error (.keyError key)
  | _ => .error .typeError

theorem delItem_of_getItem {value item : Json} {key : String}
    (found : value.getItem key = .ok item) : ∃ rest, value.delItem key = .ok rest := by
  cases value with
  | obj fields =>
      have present : fields.any (fun field => field.1 == key) = true := by
        by_contra absent
        have missing : fields.find? (fun field => field.1 == key) = none := by
          rw [List.find?_eq_none]
          intro field member same
          exact absent (List.any_eq_true.mpr ⟨field, member, same⟩)
        simp [getItem, missing] at found
      exact ⟨_, by simp only [delItem, present, if_true]; rfl⟩
  | _ => simp [getItem] at found

end Json

end NearRtRic
