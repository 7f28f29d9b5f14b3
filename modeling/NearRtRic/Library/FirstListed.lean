import Mathlib.Data.List.Induction
import Mathlib.Data.List.Nodup

/-! A loop that keeps an item when no earlier item has its key, and drops the items without
one. -/

namespace NearRtRic.FirstListed

variable {Item Key : Type} [DecidableEq Key] {key : Item → Option Key} {items : List Item}
variable {kept : List (Key × Item)} {own : Key} {item other : Item}

def keepFirst (key : Item → Option Key) (kept : List (Key × Item)) (item : Item) :
    List (Key × Item) :=
  match key item with
  | none => kept
  | some own => if own ∈ kept.map Prod.fst then kept else kept ++ [(own, item)]

theorem keepFirst_keyless (hkey : key item = none) : keepFirst key kept item = kept := by
  rw [keepFirst, hkey]

theorem keepFirst_listed (hkey : key item = some own) (listed : own ∈ kept.map Prod.fst) :
    keepFirst key kept item = kept := by
  rw [keepFirst, hkey]
  exact if_pos listed

theorem keepFirst_fresh (hkey : key item = some own) (fresh : own ∉ kept.map Prod.fst) :
    keepFirst key kept item = kept ++ [(own, item)] := by
  rw [keepFirst, hkey]
  exact if_neg fresh

def firsts (key : Item → Option Key) (items : List Item) : List (Key × Item) :=
  items.foldl (keepFirst key) []

/-- The first item with a key. -/
def first (key : Item → Option Key) (own : Key) (items : List Item) : Option Item :=
  items.find? fun item => key item = some own

theorem first_concat : first key own (items ++ [item]) =
    (first key own items).or (if key item = some own then some item else none) := by
  simp [first, List.find?_append, List.find?_singleton]

theorem first_concat_other (other : key item ≠ some own) :
    first key own (items ++ [item]) = first key own items := by
  rw [first_concat, if_neg other, Option.or_none]

theorem first_isSome_iff : (first key own items).isSome ↔ ∃ item ∈ items, key item = some own := by
  simp [first, List.find?_isSome]

/-- What is kept: each key once, with the first item that has it. -/
structure KeepsFirsts (key : Item → Option Key) (items : List Item) (kept : List (Key × Item)) :
    Prop where
  nodup : (kept.map Prod.fst).Nodup
  mem_iff : ∀ own item, (own, item) ∈ kept ↔ first key own items = some item

theorem KeepsFirsts.mem_keys_iff (keeps : KeepsFirsts key items kept) :
    own ∈ kept.map Prod.fst ↔ ∃ item ∈ items, key item = some own := by
  calc own ∈ kept.map Prod.fst ↔ ∃ item, (own, item) ∈ kept := by simp
    _ ↔ ∃ item, first key own items = some item := by simp only [keeps.mem_iff]
    _ ↔ (first key own items).isSome := Option.isSome_iff_exists.symm
    _ ↔ ∃ item ∈ items, key item = some own := first_isSome_iff

theorem KeepsFirsts.same_item (keeps : KeepsFirsts key items kept)
    (hitem : (own, item) ∈ kept) (hother : (own, other) ∈ kept) : item = other := by
  have first_item := (keeps.mem_iff own item).mp hitem
  have first_other := (keeps.mem_iff own other).mp hother
  exact Option.some.inj (first_item.symm.trans first_other)

theorem keepsFirsts_nil : KeepsFirsts key [] [] where
  nodup := List.nodup_nil
  mem_iff own item := by simp [first]

/-- An item whose key is listed, or that has none, changes no first item. -/
theorem KeepsFirsts.passOver (keeps : KeepsFirsts key items kept)
    (listed : ∀ own, key item = some own → own ∈ kept.map Prod.fst) :
    KeepsFirsts key (items ++ [item]) kept where
  nodup := keeps.nodup
  mem_iff own listedItem := by
    rw [keeps.mem_iff, first_concat]
    by_cases same : key item = some own
    · have before : (first key own items).isSome :=
        first_isSome_iff.mpr (keeps.mem_keys_iff.mp (listed own same))
      rw [Option.or_of_isSome before]
    · rw [if_neg same, Option.or_none]

/-- An item with a new key is the first one that has it. -/
theorem KeepsFirsts.keep (keeps : KeepsFirsts key items kept) (hkey : key item = some own)
    (fresh : own ∉ kept.map Prod.fst) :
    KeepsFirsts key (items ++ [item]) (kept ++ [(own, item)]) where
  nodup := by
    rw [List.map_append, List.nodup_append]
    refine ⟨keeps.nodup, List.nodup_singleton own, ?_⟩
    intro listed hlisted new hnew same
    rw [List.map_singleton, List.mem_singleton] at hnew
    rw [same, hnew] at hlisted
    exact fresh hlisted
  mem_iff listedKey listedItem := by
    rw [List.mem_append, List.mem_singleton, keeps.mem_iff]
    by_cases same : listedKey = own
    · subst same
      have absent : first key listedKey items = none := by
        rw [← Option.not_isSome_iff_eq_none, first_isSome_iff]
        exact mt keeps.mem_keys_iff.mpr fresh
      rw [first_concat, absent, if_pos hkey]
      simp [eq_comm]
    · have different : key item ≠ some listedKey := by
        rw [hkey]
        exact fun equal => same (Option.some.inj equal).symm
      rw [first_concat_other different]
      simp [same]

theorem KeepsFirsts.step (keeps : KeepsFirsts key items kept) (item : Item) :
    KeepsFirsts key (items ++ [item]) (keepFirst key kept item) := by
  cases hkey : key item with
  | none =>
      rw [keepFirst_keyless hkey]
      exact keeps.passOver fun own hown => by simp [hkey] at hown
  | some own =>
      by_cases listed : own ∈ kept.map Prod.fst
      · rw [keepFirst_listed hkey listed]
        refine keeps.passOver fun same hsame => ?_
        rwa [← Option.some.inj (hkey.symm.trans hsame)]
      · rw [keepFirst_fresh hkey listed]
        exact keeps.keep hkey listed

theorem firsts_keep (key : Item → Option Key) (items : List Item) :
    KeepsFirsts key items (firsts key items) := by
  induction items using List.reverseRecOn with
  | nil => exact keepsFirsts_nil
  | append_singleton items item ih =>
      rw [firsts, List.foldl_append, List.foldl_cons, List.foldl_nil]
      exact ih.step item

/-- A record of the loop that is a view of what is kept. -/
theorem foldl_view {Record : Type} (view : List (Key × Item) → Record)
    {step : Record → Item → Record}
    (follows : ∀ kept item, step (view kept) item = view (keepFirst key kept item))
    (items : List Item) : items.foldl step (view []) = view (firsts key items) :=
  List.foldl_hom view follows

end NearRtRic.FirstListed
