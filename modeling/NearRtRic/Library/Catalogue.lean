import NearRtRic.Library.Runs

/-! Entries filed under headings. An entry needs a heading that is open and whose description
admits it, and a heading is closed only with nothing left under it. -/

namespace NearRtRic

structure Catalogue (Heading Name Description Entry : Type) where
  heading : Heading → Option Description
  entry : Heading → Name → Option Entry

namespace Catalogue

open Runs

variable {Heading Name Description Entry State Event : Type}
variable (admits : Description → Entry → Prop)

/-- Every entry lies under an open heading that admits it. -/
def Sound (catalogue : Catalogue Heading Name Description Entry) : Prop :=
  ∀ heading name entry, catalogue.entry heading name = some entry →
    ∃ description, catalogue.heading heading = some description ∧ admits description entry

/-- What one step may do to each heading and to each entry. -/
structure Move (closes : Heading → Prop) (before after : Catalogue Heading Name Description Entry) :
    Prop where
  heading : ∀ heading, after.heading heading = before.heading heading ∨
    before.heading heading = none ∨
    (closes heading ∧ after.heading heading = none ∧ ∀ name, after.entry heading name = none)
  entry : ∀ heading name, after.entry heading name = before.entry heading name ∨
    after.entry heading name = none ∨
    ∃ description entry, after.entry heading name = some entry ∧
      before.heading heading = some description ∧ after.heading heading = some description ∧
        admits description entry

variable {admits} {closes : Heading → Prop}
variable {before after : Catalogue Heading Name Description Entry}

theorem Move.stay (headings : after.heading = before.heading)
    (entries : after.entry = before.entry) : Move admits closes before after where
  heading := fun heading => .inl (congrFun headings heading)
  entry := fun heading name => .inl (congrFun (congrFun entries heading) name)

theorem Move.weaken (move : Move admits closes before after) {closing : Heading → Prop}
    (implies : ∀ heading, closes heading → closing heading) : Move admits closing before after where
  heading := by
    intro heading
    rcases move.heading heading with same | absent | ⟨closed, gone⟩
    · exact .inl same
    · exact .inr (.inl absent)
    · exact .inr (.inr ⟨implies heading closed, gone⟩)
  entry := move.entry

theorem Move.sound (move : Move admits closes before after) (sound : before.Sound admits) :
    after.Sound admits := by
  intro heading name entry filed
  rcases move.entry heading name with kept | dropped | ⟨description, admitted, now, _, listed, fits⟩
  · rw [kept] at filed
    rcases sound heading name entry filed with ⟨description, listed, fits⟩
    rcases move.heading heading with same | absent | ⟨_, _, empty⟩
    · exact ⟨description, same.trans listed, fits⟩
    · rw [absent] at listed
      cases listed
    · -- a heading is not closed over an entry
      rw [← kept, empty name] at filed
      cases filed
  · rw [dropped] at filed
    cases filed
  · have same : admitted = entry := Option.some.inj (now.symm.trans filed)
    exact ⟨description, listed, same ▸ fits⟩

theorem Move.description (move : Move admits closes before after) {heading : Heading}
    {description : Description} (listed : before.heading heading = some description) :
    after.heading heading = some description ∨
      (closes heading ∧ after.heading heading = none) := by
  rcases move.heading heading with same | absent | ⟨closing, closed, _⟩
  · exact .inl (same.trans listed)
  · rw [absent] at listed
    cases listed
  · exact .inr ⟨closing, closed⟩

section Runs

/-! A machine whose steps are such moves of what it holds. -/

variable {step : State → Event → State} {closing : Event → Heading → Prop}
variable {view : State → Catalogue Heading Name Description Entry}
variable (moves : ∀ state event, Move admits (closing event) (view state) (view (step state event)))

include moves

theorem sound_run (state : State) (events : List Event) (sound : (view state).Sound admits) :
    (view (run step state events)).Sound admits := by
  apply run_invariant (fun reached => (view reached).Sound admits) _ state events sound
    (along_true state events)
  intro reached event held _
  exact (moves reached event).sound held

/-- A description stays as it is until an event closes its heading. -/
theorem description_run (heading : Heading) (description : Description) (state : State)
    (events : List Event) (listed : (view state).heading heading = some description) :
    (view (run step state events)).heading heading = some description ∨
      ∃ kept event rest, events = kept ++ event :: rest ∧ closing event heading ∧
        (∀ first, first <+: kept →
          (view (run step state first)).heading heading = some description) ∧
        (view (run step state (kept ++ [event]))).heading heading = none := by
  induction events generalizing state with
  | nil => exact .inl listed
  | cons event events ih =>
      rcases (moves state event).description listed with same | ⟨closes, closed⟩
      · rcases ih (step state event) same with
          still | ⟨kept, last, rest, split, closes, before, gone⟩
        · exact .inl still
        · refine .inr ⟨event :: kept, last, rest, by rw [split, List.cons_append], closes, ?_, gone⟩
          intro first within
          cases first with
          | nil => exact listed
          | cons other first =>
              have ⟨same, within⟩ := List.cons_prefix_cons.mp within
              rw [same]
              exact before first within
      · refine .inr ⟨[], event, events, rfl, closes, ?_, closed⟩
        intro first within
        rw [List.prefix_nil.mp within]
        exact listed

end Runs

end Catalogue

end NearRtRic
