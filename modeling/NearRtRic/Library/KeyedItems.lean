import Mathlib.Data.List.Nodup
import NearRtRic.Library.CMemory

/-! A record filled by a loop over items, each of which writes the fields of its key. With every
key at most once, the order of the items does not matter. -/

namespace NearRtRic.KeyedItems

open NearRtRic.CMemory

variable {Item Key Record Field : Type} {key : Item → Key} {own : Key}
variable {step : Record → Item → Run Record} {read : Record → Field}
variable {write : Item → Field → Field} {items : List Item} {before after : Record}

/-- A step writes the field for an item of the key `own`, and leaves it alone for another. -/
structure Writes (key : Item → Key) (own : Key) (step : Record → Item → Run Record)
    (read : Record → Field) (write : Item → Field → Field) : Prop where
  atKey : ∀ {before item after}, step before item = .ok after → key item = own →
    read after = write item (read before)
  elsewhere : ∀ {before item after}, step before item = .ok after → key item ≠ own →
    read after = read before

theorem foldlM_total (total : ∀ before item, ∃ after, step before item = .ok after)
    (items : List Item) (before : Record) : ∃ after, items.foldlM step before = .ok after := by
  induction items generalizing before with
  | nil => exact ⟨before, rfl⟩
  | cons item items ih =>
      rcases total before item with ⟨next, hnext⟩
      rcases ih next with ⟨after, hafter⟩
      exact ⟨after, by rw [List.foldlM_cons, hnext, bind_ok, hafter]⟩

theorem Writes.absent (writes : Writes key own step read write)
    (run : items.foldlM step before = .ok after) (none : ∀ item ∈ items, key item ≠ own) :
    read after = read before := by
  induction items generalizing before with
  | nil => rw [pure_ok_iff.mp run]
  | cons item items ih =>
      rw [List.foldlM_cons] at run
      rcases bind_ok_iff.mp run with ⟨next, hnext, hrest⟩
      calc read after = read next := ih hrest fun other member => none other (by simp [member])
        _ = read before := writes.elsewhere hnext (none item (by simp))

theorem Writes.present (writes : Writes key own step read write)
    (run : items.foldlM step before = .ok after) (distinct : (items.map key).Nodup) {item : Item}
    (member : item ∈ items) (keyed : key item = own) : read after = write item (read before) := by
  induction items generalizing before with
  | nil => cases member
  | cons first items ih =>
      rw [List.foldlM_cons] at run
      rcases bind_ok_iff.mp run with ⟨next, hnext, hrest⟩
      rw [List.map_cons, List.nodup_cons] at distinct
      rcases List.mem_cons.mp member with rfl | later
      · -- the key does not occur again
        have hothers : ∀ other ∈ items, key other ≠ own := by
          intro other hother same
          exact distinct.1 (List.mem_map.mpr ⟨other, hother, same.trans keyed.symm⟩)
        rw [writes.absent hrest hothers, writes.atKey hnext keyed]
      · have hfirst : key first ≠ own := by
          intro same
          exact distinct.1 (List.mem_map.mpr ⟨item, later, keyed.trans same.symm⟩)
        rw [ih hrest distinct.2 later, writes.elsewhere hnext hfirst]

end NearRtRic.KeyedItems
