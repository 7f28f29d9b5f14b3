import Mathlib.Tactic

/-! Items handed through a queue by producers and carriers that each hold one item at a time. -/

namespace NearRtRic

structure Relay (Item : Type) where
  produced : List Item
  waiting : List Item
  queue : List Item
  held : List Item
  delivered : List Item

namespace Relay

variable {Item Lane : Type} [DecidableEq Lane] (lane : Item → Lane)

/-- A step that leaves the items of a lane apart: while one waits for the queue no other is
produced, while one is held no other is taken. -/
inductive Step (relay : Relay Item) : Relay Item → Prop
  | produce (item : Item) (alone : ∀ other ∈ relay.waiting, lane other ≠ lane item) :
      Step relay { relay with
        produced := relay.produced ++ [item]
        waiting := relay.waiting ++ [item] }
  | enqueue (front back : List Item) (item : Item) (waits : relay.waiting = front ++ item :: back) :
      Step relay { relay with
        waiting := front ++ back
        queue := relay.queue ++ [item] }
  | take (front back rest : List Item) (item : Item) (queued : relay.queue = item :: rest)
      (others : relay.held = front ++ back)
      (alone : ∀ other ∈ relay.held, lane other ≠ lane item) :
      Step relay { relay with
        queue := rest
        held := front ++ item :: back }
  | deliver (front back : List Item) (item : Item) (holds : relay.held = front ++ item :: back) :
      Step relay { relay with
        held := front ++ back
        delivered := relay.delivered ++ [item] }

def on (items : List Item) (place : Lane) : List Item :=
  items.filter (fun item => lane item = place)

variable {lane} {place : Lane} {items front back : List Item} {item : Item}

@[simp] theorem on_nil : on lane [] place = [] := rfl

@[simp] theorem on_append (first second : List Item) :
    on lane (first ++ second) place = on lane first place ++ on lane second place :=
  List.filter_append _ _

theorem on_cons_same (same : lane item = place) :
    on lane (item :: items) place = item :: on lane items place :=
  List.filter_cons_of_pos (by simpa using same)

theorem on_cons_other (other : lane item ≠ place) :
    on lane (item :: items) place = on lane items place :=
  List.filter_cons_of_neg (by simpa using other)

theorem on_eq_nil (none : ∀ item ∈ items, lane item ≠ place) : on lane items place = [] := by
  rw [on, List.filter_eq_nil_iff]
  intro item member
  simpa using none item member

/-- With none of its lane in front of it, an item is the first of its lane. -/
theorem on_insert (first : lane item = place → on lane front place = []) :
    on lane (front ++ item :: back) place =
      on lane [item] place ++ on lane (front ++ back) place := by
  by_cases same : lane item = place
  · rw [on_append, on_append, on_cons_same same, on_cons_same same, first same]
    rfl
  · rw [on_append, on_append, on_cons_other same, on_cons_other same]
    rfl

theorem first_of_single (single : (on lane (front ++ item :: back) place).length ≤ 1)
    (same : lane item = place) : on lane front place = [] := by
  rw [on_append, on_cons_same same, List.length_append, List.length_cons] at single
  apply List.eq_nil_of_length_eq_zero
  omega

theorem single_removed (single : (on lane (front ++ item :: back) place).length ≤ 1) :
    (on lane (front ++ back) place).length ≤ 1 := by
  rw [on_insert (first_of_single single), List.length_append] at single
  omega

theorem single_inserted (alone : lane item = place → on lane (front ++ back) place = [])
    (single : (on lane (front ++ back) place).length ≤ 1) :
    (on lane (front ++ item :: back) place).length ≤ 1 := by
  by_cases same : lane item = place
  · have nothing := alone same
    rw [on_append, List.append_eq_nil_iff] at nothing
    rw [on_append, on_cons_same same, nothing.1, nothing.2]
    exact Nat.le_refl 1
  · rw [on_append, on_cons_other same, ← on_append]
    exact single

variable (lane) in
/-- In every lane the items are delivered in the order in which they were produced. -/
structure InOrder (relay : Relay Item) : Prop where
  order : ∀ place, on lane relay.produced place =
    on lane relay.delivered place ++ on lane relay.held place ++ on lane relay.queue place ++
      on lane relay.waiting place
  holdsOne : ∀ place, (on lane relay.held place).length ≤ 1
  waitsOne : ∀ place, (on lane relay.waiting place).length ≤ 1

theorem inOrder_step {relay after : Relay Item} (inOrder : InOrder lane relay)
    (step : Step lane relay after) : InOrder lane after := by
  rcases inOrder with ⟨order, holdsOne, waitsOne⟩
  cases step with
  | produce item alone =>
      refine ⟨?_, holdsOne, ?_⟩
      · intro place
        simp only [on_append, order place, List.append_assoc]
      · intro place
        apply single_inserted
        · intro same
          rw [List.append_nil]
          exact on_eq_nil (same ▸ alone)
        · rw [List.append_nil]
          exact waitsOne place
  | enqueue front back item waits =>
      have single : ∀ place, (on lane (front ++ item :: back) place).length ≤ 1 :=
        waits ▸ waitsOne
      refine ⟨?_, holdsOne, fun place => single_removed (single place)⟩
      intro place
      rw [order place, waits, on_insert (first_of_single (single place)), on_append relay.queue]
      simp only [List.append_assoc]
  | take front back rest item queued others alone =>
      have clear : ∀ place, lane item = place → on lane (front ++ back) place = [] :=
        fun place same => on_eq_nil (same ▸ others ▸ alone)
      refine ⟨?_, fun place => single_inserted (clear place) (others ▸ holdsOne place), waitsOne⟩
      intro place
      have taken : on lane relay.queue place = on lane [item] place ++ on lane rest place := by
        rw [queued, ← on_append]
        rfl
      by_cases same : lane item = place
      · -- nothing of the lane is held, so the item follows what has been delivered
        have nothing := clear place same
        rw [on_append, List.append_eq_nil_iff] at nothing
        rw [order place, others, taken, on_insert (fun _ => nothing.1), clear place same]
        simp only [List.append_assoc, List.nil_append]
      · have apart : on lane [item] place = [] := on_cons_other same
        rw [order place, others, taken, on_insert (fun equal => absurd equal same), apart]
        simp only [List.nil_append]
  | deliver front back item holds =>
      have single : ∀ place, (on lane (front ++ item :: back) place).length ≤ 1 :=
        holds ▸ holdsOne
      refine ⟨?_, fun place => single_removed (single place), waitsOne⟩
      intro place
      rw [order place, holds, on_insert (first_of_single (single place)),
        on_append relay.delivered]
      simp only [List.append_assoc]

theorem delivered_prefix {relay : Relay Item} (inOrder : InOrder lane relay) (place : Lane) :
    on lane relay.delivered place <+: on lane relay.produced place := by
  rw [inOrder.order place, List.append_assoc, List.append_assoc]
  exact List.prefix_append _ _

def Drained (relay : Relay Item) : Prop :=
  relay.waiting = [] ∧ relay.queue = [] ∧ relay.held = []

theorem delivered_of_drained {relay : Relay Item} (inOrder : InOrder lane relay)
    (drained : relay.Drained) (place : Lane) :
    on lane relay.delivered place = on lane relay.produced place := by
  rw [inOrder.order place, drained.1, drained.2.1, drained.2.2]
  simp

theorem split_set {Element : Type} {elements : List Element} {index : Nat} {element : Element}
    (found : elements[index]? = some element) :
    ∃ front back, elements = front ++ element :: back ∧
      ∀ other, elements.set index other = front ++ other :: back := by
  rcases List.getElem?_eq_some_iff.mp found with ⟨inside, same⟩
  refine ⟨elements.take index, elements.drop (index + 1), ?_, ?_⟩
  · rw [← same, List.getElem_cons_drop inside, List.take_append_drop]
  · intro other
    rw [List.set_eq_take_append_cons_drop, if_pos inside]

end Relay

end NearRtRic
