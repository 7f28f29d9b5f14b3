import Mathlib.Data.List.AList

/-! Dictionaries that are built key by key, and dictionaries with the same keys and related
values. -/

namespace NearRtRic

/-- The entries in their order, each key once. -/
abbrev Dict (Key Value : Type) := AList fun _ : Key => Value

namespace Dict

variable {Key Value Result : Type}

theorem keys_map {f : Key → Value → Result} (entries : List (Σ _ : Key, Value)) :
    (entries.map fun entry => (⟨entry.1, f entry.1 entry.2⟩ : Σ _ : Key, Result)).keys =
      entries.keys := by
  rw [List.keys, List.map_map]
  exact List.map_congr_left fun _ _ => rfl

theorem nodupKeys_of_keys_eq {entries : List (Σ _ : Key, Value)}
    {results : List (Σ _ : Key, Result)} (same : results.keys = entries.keys)
    (nodup : entries.NodupKeys) : results.NodupKeys := by
  rw [List.NodupKeys, same]
  exact nodup

def mapValues (f : Key → Value → Result) (dict : Dict Key Value) : Dict Key Result where
  entries := dict.entries.map fun entry => ⟨entry.1, f entry.1 entry.2⟩
  nodupKeys := nodupKeys_of_keys_eq (keys_map dict.entries) dict.nodupKeys

theorem mapValues_mapValues {Last : Type} (f : Key → Value → Result) (g : Key → Result → Last)
    (dict : Dict Key Value) :
    (dict.mapValues f).mapValues g = dict.mapValues fun key value => g key (f key value) :=
  AList.ext List.map_map

/-- The new entry of a key, or the failure to compute its value. -/
def newEntry (f : Key → Value → Option Result) (entry : Σ _ : Key, Value) :
    Option (Σ _ : Key, Result) :=
  (f entry.1 entry.2).map fun result => ⟨entry.1, result⟩

theorem keys_of_mapM {f : Key → Value → Option Result} {entries : List (Σ _ : Key, Value)}
    {results : List (Σ _ : Key, Result)} (run : entries.mapM (newEntry f) = some results) :
    results.keys = entries.keys := by
  induction entries generalizing results with
  | nil =>
      rw [← Option.some.inj run]
      rfl
  | cons entry entries ih =>
      simp only [List.mapM_cons, Option.bind_eq_bind, Option.bind_eq_some_iff] at run
      rcases run with ⟨first, hfirst, rest, hrest, equal⟩
      rcases Option.map_eq_some_iff.mp hfirst with ⟨result, -, rfl⟩
      rw [← Option.some.inj equal, List.keys_cons, List.keys_cons, ih hrest]

/-- The dictionary of the results, or the first failure in the order of the keys. -/
def traverse (f : Key → Value → Option Result) (dict : Dict Key Value) :
    Option (Dict Key Result) :=
  match run : dict.entries.mapM (newEntry f) with
  | none => none
  | some results => some ⟨results, nodupKeys_of_keys_eq (keys_of_mapM run) dict.nodupKeys⟩

theorem traverse_eq_some_iff {f : Key → Value → Option Result} {dict : Dict Key Value}
    {result : Dict Key Result} :
    dict.traverse f = some result ↔ dict.entries.mapM (newEntry f) = some result.entries := by
  rw [traverse]
  split
  · rename_i failure
    simp [failure]
  · rename_i results success
    calc some (⟨results, _⟩ : Dict Key Result) = some result
        ↔ results = result.entries := by rw [Option.some.injEq, AList.ext_iff]
      _ ↔ dict.entries.mapM (newEntry f) = some result.entries := by
        rw [success, Option.some.injEq]

theorem mapM_eq_map {Entry Other : Type} {f : Entry → Option Other} {g : Entry → Other}
    {entries : List Entry} (succeeds : ∀ entry ∈ entries, f entry = some (g entry)) :
    entries.mapM f = some (entries.map g) := by
  induction entries with
  | nil => rfl
  | cons entry entries ih =>
      have later := ih fun other member => succeeds other (List.mem_cons_of_mem entry member)
      rw [List.mapM_cons, succeeds entry List.mem_cons_self, later]
      rfl

theorem traverse_eq_mapValues {f : Key → Value → Option Result} {g : Key → Value → Result}
    {dict : Dict Key Value}
    (succeeds : ∀ entry ∈ dict.entries, f entry.1 entry.2 = some (g entry.1 entry.2)) :
    dict.traverse f = some (dict.mapValues g) :=
  traverse_eq_some_iff.mpr <| mapM_eq_map fun entry member => by
    rw [newEntry, succeeds entry member, Option.map_some]

theorem traverse_mapValues {Last : Type} (f : Key → Value → Result)
    (g : Key → Result → Option Last) (dict : Dict Key Value) :
    (dict.mapValues f).traverse g = dict.traverse fun key value => g key (f key value) := by
  refine Option.ext fun result => ?_
  rw [traverse_eq_some_iff, traverse_eq_some_iff]
  rw [mapValues, List.mapM_map]
  rfl

theorem lookup_mapValues [DecidableEq Key] (f : Key → Value → Result) (dict : Dict Key Value)
    (key : Key) : (dict.mapValues f).lookup key = (dict.lookup key).map (f key) := by
  refine Option.ext fun result => ?_
  calc (dict.mapValues f).lookup key = some result
      ↔ (⟨key, result⟩ : Σ _ : Key, Result) ∈ (dict.mapValues f).entries := AList.mem_lookup_iff
    _ ↔ ∃ value, (⟨key, value⟩ : Σ _ : Key, Value) ∈ dict.entries ∧ f key value = result := by
        simp [mapValues, Sigma.exists, eq_comm]
    _ ↔ ∃ value, dict.lookup key = some value ∧ f key value = result := by
        simp only [← AList.mem_lookup_iff, Option.mem_def]
    _ ↔ (dict.lookup key).map (f key) = some result := Option.map_eq_some_iff.symm

theorem lookup_of_mem [DecidableEq Key] {dict : Dict Key Value} {entry : Σ _ : Key, Value}
    (member : entry ∈ dict.entries) : dict.lookup entry.1 = some entry.2 :=
  AList.mem_lookup_iff.mpr member

/-- The same keys in the same order, with related values. -/
def Related (related : Value → Value → Prop) (dict other : Dict Key Value) : Prop :=
  List.Forall₂ (fun entry changed => entry.1 = changed.1 ∧ related entry.2 changed.2)
    dict.entries other.entries

variable {related : Value → Value → Prop} {dict other : Dict Key Value}

theorem map_eq_of_forall₂ {Entry Other : Type} {relation : Entry → Entry → Prop}
    {f : Entry → Other} {entries changed : List Entry}
    (pairs : List.Forall₂ relation entries changed)
    (same : ∀ entry change, relation entry change → f entry = f change) :
    entries.map f = changed.map f := by
  induction pairs with
  | nil => rfl
  | cons hrelated _ ih => rw [List.map_cons, List.map_cons, same _ _ hrelated, ih]

theorem Related.map_eq {f : (Σ _ : Key, Value) → Result} (hrelated : Related related dict other)
    (same : ∀ key value change, related value change → f ⟨key, value⟩ = f ⟨key, change⟩) :
    dict.entries.map f = other.entries.map f := by
  refine map_eq_of_forall₂ hrelated ?_
  rintro ⟨key, value⟩ ⟨_, change⟩ ⟨rfl, hvalue⟩
  exact same key value change hvalue

theorem Related.mapValues_eq {f : Key → Value → Result} (hrelated : Related related dict other)
    (same : ∀ key value change, related value change → f key value = f key change) :
    dict.mapValues f = other.mapValues f :=
  AList.ext (hrelated.map_eq fun key value change hvalue => by rw [same key value change hvalue])

theorem forall_of_forall₂ {Entry : Type} {relation : Entry → Entry → Prop}
    {property : Entry → Prop} {entries changed : List Entry}
    (pairs : List.Forall₂ relation entries changed)
    (passes : ∀ entry change, relation entry change → property entry → property change)
    (holds : ∀ entry ∈ entries, property entry) : ∀ change ∈ changed, property change := by
  induction pairs with
  | nil => exact holds
  | cons hrelated _ ih =>
      rw [List.forall_mem_cons] at holds ⊢
      exact ⟨passes _ _ hrelated holds.1, ih holds.2⟩

/-- What holds of the values, and passes to related values, holds of the other values. -/
theorem Related.forall_entries {property : Value → Prop} (hrelated : Related related dict other)
    (passes : ∀ value change, related value change → property value → property change)
    (holds : ∀ entry ∈ dict.entries, property entry.2) :
    ∀ changed ∈ other.entries, property changed.2 :=
  forall_of_forall₂ hrelated (fun _ _ pair => passes _ _ pair.2) holds

end Dict

end NearRtRic
