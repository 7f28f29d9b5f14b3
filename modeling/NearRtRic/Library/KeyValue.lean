import Mathlib.Data.List.AList
import NearRtRic.Library.Text

/-! A key-value store with a search by key prefix. -/

namespace NearRtRic

/-- No key is held twice: the invariant is part of the association list's type. -/
abbrev KeyValue (Value : Type) := AList (fun _ : String => Value)

namespace KeyValue

variable {Value : Type}

def get (store : KeyValue Value) (key : String) : Option Value :=
  store.lookup key

def set (store : KeyValue Value) (key : String) (value : Value) : KeyValue Value :=
  store.insert key value

def delete (store : KeyValue Value) (key : String) : KeyValue Value :=
  store.erase key

/-- The entries whose key starts with `start`. -/
def findAndGet (store : KeyValue Value) (start : String) : List (String × Value) :=
  (store.entries.filter (fun entry => Text.startswith entry.1 start)).map
    (fun entry => (entry.1, entry.2))

/-- The store after one deletion for each of the keys. -/
def deleteAll (store : KeyValue Value) (keys : List String) : KeyValue Value :=
  keys.foldl delete store

theorem entries_delete (store : KeyValue Value) (key : String) :
    (store.delete key).entries = List.kerase key store.entries := rfl

theorem entries_set (store : KeyValue Value) (key : String) (value : Value) :
    (store.set key value).entries = ⟨key, value⟩ :: (store.delete key).entries := rfl

@[simp] theorem get_empty (key : String) : get (∅ : KeyValue Value) key = none := by
  simp [get]

@[simp] theorem get_set_same (store : KeyValue Value) (key : String) (value : Value) :
    (store.set key value).get key = some value := by
  simp [get, set]

theorem get_set_other (store : KeyValue Value) {key other : String} (value : Value)
    (differ : other ≠ key) : (store.set key value).get other = store.get other := by
  simp [get, set, AList.lookup_insert_ne differ]

@[simp] theorem get_delete_same (store : KeyValue Value) (key : String) :
    (store.delete key).get key = none := by
  simp [get, delete]

theorem get_delete_other (store : KeyValue Value) {key other : String} (differ : other ≠ key) :
    (store.delete key).get other = store.get other := by
  simp [get, delete, AList.lookup_erase_ne differ]

theorem get_set (store : KeyValue Value) (key other : String) (value : Value) :
    (store.set key value).get other = if other = key then some value else store.get other := by
  split
  · next same => rw [same, get_set_same]
  · next differ => exact get_set_other store value differ

theorem get_delete (store : KeyValue Value) (key other : String) :
    (store.delete key).get other = if other = key then none else store.get other := by
  split
  · next same => rw [same, get_delete_same]
  · next differ => exact get_delete_other store differ

theorem get_deleteAll (store : KeyValue Value) (keys : List String) (other : String) :
    (store.deleteAll keys).get other = if other ∈ keys then none else store.get other := by
  induction keys generalizing store with
  | nil => simp [deleteAll]
  | cons key keys ih =>
      have rest := ih (store.delete key)
      rw [deleteAll, List.foldl_cons, ← deleteAll, rest, get_delete]
      by_cases later : other ∈ keys <;> by_cases now : other = key <;> simp [later, now]

theorem mem_findAndGet (store : KeyValue Value) (start key : String) (value : Value) :
    (key, value) ∈ store.findAndGet start ↔
      store.get key = some value ∧ Text.startswith key start = true := by
  simp only [get, findAndGet, List.mem_map, List.mem_filter, Prod.mk.injEq]
  constructor
  · rintro ⟨⟨held, item⟩, ⟨member, starts⟩, rfl, rfl⟩
    exact ⟨AList.mem_lookup_iff.mpr member, starts⟩
  · rintro ⟨member, starts⟩
    exact ⟨⟨key, value⟩, ⟨AList.mem_lookup_iff.mp member, starts⟩, rfl, rfl⟩

theorem mem_findAndGet_keys (store : KeyValue Value) (start key : String) :
    key ∈ (store.findAndGet start).map Prod.fst ↔
      (store.get key).isSome ∧ Text.startswith key start = true := by
  simp only [List.mem_map, Prod.exists, exists_and_right, exists_eq_right, mem_findAndGet,
    Option.isSome_iff_exists]

theorem findAndGet_keys_nodup (store : KeyValue Value) (start : String) :
    ((store.findAndGet start).map Prod.fst).Nodup := by
  have sublist : ((store.findAndGet start).map Prod.fst).Sublist store.keys := by
    rw [findAndGet, List.map_map]
    exact (List.filter_sublist (l := store.entries)).map Sigma.fst
  exact sublist.nodup store.nodupKeys

theorem findAndGet_eq_nil (store : KeyValue Value) (start : String) :
    store.findAndGet start = [] ↔
      ∀ key, Text.startswith key start = true → store.get key = none := by
  rw [List.eq_nil_iff_forall_not_mem]
  constructor
  · intro absent key starts
    cases held : store.get key with
    | none => rfl
    | some value => exact absurd ((mem_findAndGet _ _ _ _).mpr ⟨held, starts⟩) (absent _)
  · rintro absent ⟨key, value⟩ member
    obtain ⟨held, starts⟩ := (mem_findAndGet _ _ _ _).mp member
    simp [absent key starts] at held

/-- Entries under other prefixes are found as before. -/
theorem findAndGet_delete_other (store : KeyValue Value) {key start : String}
    (outside : Text.startswith key start = false) :
    (store.delete key).findAndGet start = store.findAndGet start := by
  have filtered : ∀ entries : List (Sigma fun _ : String => Value),
      (List.kerase key entries).filter (fun entry => Text.startswith entry.1 start) =
        entries.filter (fun entry => Text.startswith entry.1 start) := by
    intro entries
    induction entries with
    | nil => rfl
    | cons entry entries ih =>
        by_cases same : key = entry.1
        · rw [List.kerase_cons_eq same, List.filter_cons_of_neg]
          rw [← same, outside]
          exact Bool.false_ne_true
        · rw [List.kerase_cons_ne same]
          simp only [List.filter_cons, ih]
  simp only [findAndGet, entries_delete, filtered]

theorem findAndGet_set_other (store : KeyValue Value) {key start : String} (value : Value)
    (outside : Text.startswith key start = false) :
    (store.set key value).findAndGet start = store.findAndGet start := by
  rw [← findAndGet_delete_other store outside]
  simp only [findAndGet, entries_set]
  rw [List.filter_cons_of_neg (by simp [outside])]

/-- A key that was not held is found first, before what was found without it. -/
theorem findAndGet_set_fresh (store : KeyValue Value) {key start : String} (value : Value)
    (absent : store.get key = none) (inside : Text.startswith key start = true) :
    (store.set key value).findAndGet start = (key, value) :: store.findAndGet start := by
  have unheld : key ∉ store.entries.keys := by
    intro member
    exact absurd absent (Option.isSome_iff_ne_none.mp (AList.lookup_isSome.mpr member))
  rw [findAndGet, entries_set, entries_delete, List.kerase_of_notMem_keys unheld]
  simp [findAndGet, inside]

theorem findAndGet_deleteAll_other (store : KeyValue Value) (keys : List String) {start : String}
    (outside : ∀ key ∈ keys, Text.startswith key start = false) :
    (store.deleteAll keys).findAndGet start = store.findAndGet start := by
  induction keys generalizing store with
  | nil => rfl
  | cons key keys ih =>
      rw [deleteAll, List.foldl_cons, ← deleteAll,
        ih _ (fun other member => outside other (List.mem_cons_of_mem key member)),
        findAndGet_delete_other store (outside key List.mem_cons_self)]

end KeyValue

end NearRtRic
