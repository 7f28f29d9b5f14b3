import Mathlib.Tactic
import NearRtRic.Library.Runs

/-! A queue whose servers learn of arrivals by edges: an arrival sets a signal, the first server
that looks takes it away, and only the server that took it serves. -/

namespace NearRtRic.EdgeTrigger

open Runs

structure Source (Server Item : Type) where
  served : Nat
  waiting : List Item
  signalled : Bool
  /-- For a server that took a signal and has not served since, how many items had arrived
  by then. -/
  taken : Server → Option Nat

inductive Event (Server Item Service : Type)
  | arrive (item : Item)
  | wake (server : Server)
  | serve (server : Server) (service : Service)

/-- How many of the waiting items a service takes, from the front. -/
structure Serving (Item Service : Type) where
  count : Service → List Item → Nat
  count_le : ∀ service waiting, count service waiting ≤ waiting.length

variable {Server Item Service : Type}

namespace Source

def empty : Source Server Item where
  served := 0
  waiting := []
  signalled := false
  taken := fun _ => none

def arrived (source : Source Server Item) : Nat :=
  source.served + source.waiting.length

def advance (source : Source Server Item) (count : Nat) : Source Server Item :=
  { source with
    served := source.served + count
    waiting := source.waiting.drop count }

def before (source : Source Server Item) (mark : Nat) : List Item :=
  source.waiting.take (mark - source.served)

theorem before_arrived (source : Source Server Item) :
    source.before source.arrived = source.waiting := by
  have all : source.arrived - source.served = source.waiting.length := by
    rw [arrived, Nat.add_sub_cancel_left]
  rw [before, all, List.take_length]

theorem before_advance (source : Source Server Item) (count mark : Nat) :
    (source.advance count).before mark = (source.before mark).drop count := by
  simp only [before, advance, List.drop_take]
  congr 1
  omega

theorem arrived_advance (source : Source Server Item) (count : Nat)
    (enough : count ≤ source.waiting.length) :
    (source.advance count).arrived = source.arrived := by
  simp only [arrived, advance, List.length_drop]
  omega

end Source

variable [DecidableEq Server] (serving : Serving Item Service)

def step (source : Source Server Item) : Event Server Item Service → Source Server Item
  | .arrive item => { source with waiting := source.waiting ++ [item], signalled := true }
  | .wake server =>
      if source.signalled = true ∧ source.taken server = none then
        { source with
          signalled := false
          taken := Function.update source.taken server (some source.arrived) }
      else source
  | .serve server service =>
      match source.taken server with
      | none => source
      | some _ =>
          { source.advance (serving.count service source.waiting) with
            taken := Function.update source.taken server none }

/-- No item that had arrived when the server took its signal waits after its service. -/
def ServesAll (source : Source Server Item) : Event Server Item Service → Prop
  | .serve server service =>
      ∀ mark, source.taken server = some mark →
        (step serving source (.serve server service)).before mark = []
  | _ => True

/-- Somebody will look at what waits: the signal is set, or a server has taken the signal of
the last arrival. -/
def Watched (source : Source Server Item) : Prop :=
  source.waiting = [] ∨ source.signalled = true ∨
    ∃ server, source.taken server = some source.arrived

variable {serving}

theorem step_serve {source : Source Server Item} {server : Server} {mark : Nat}
    (holds : source.taken server = some mark) (service : Service) :
    step serving source (.serve server service) =
      { source.advance (serving.count service source.waiting) with
        taken := Function.update source.taken server none } := by
  simp only [step, holds]

theorem before_serve {source : Source Server Item} {server : Server} {mark : Nat}
    (holds : source.taken server = some mark) (service : Service) (other : Nat) :
    (step serving source (.serve server service)).before other =
      (source.before other).drop (serving.count service source.waiting) := by
  rw [step_serve holds, ← Source.before_advance]
  rfl

/-- A service leaves nothing of what it was called for when it takes at least as much. -/
theorem serve_leaves_none_iff {source : Source Server Item} {server : Server} {mark : Nat}
    (holds : source.taken server = some mark) (service : Service) :
    (step serving source (.serve server service)).before mark = [] ↔
      (source.before mark).length ≤ serving.count service source.waiting := by
  rw [before_serve holds, List.drop_eq_nil_iff]

theorem watched_arrive (source : Source Server Item) (item : Item) :
    Watched (step serving source (.arrive item)) :=
  .inr (.inl rfl)

theorem watched_wake (source : Source Server Item) (server : Server)
    (watched : Watched source) : Watched (step serving source (.wake server)) := by
  by_cases takes : source.signalled = true ∧ source.taken server = none
  · refine .inr (.inr ⟨server, ?_⟩)
    simp only [step, if_pos takes, Function.update_self]
    rfl
  · simpa only [step, if_neg takes] using watched

theorem watched_serve (source : Source Server Item) (server : Server) (service : Service)
    (watched : Watched source)
    (all : ServesAll serving source (.serve server service)) :
    Watched (step serving source (.serve server service)) := by
  cases holds : source.taken server with
  | none => simpa only [step, holds] using watched
  | some mark =>
      have enough := serving.count_le service source.waiting
      have after : step serving source (.serve server service) = _ := step_serve holds service
      rcases watched with idle | signalled | ⟨other, last⟩
      · exact .inl (by rw [after]; simp [Source.advance, idle])
      · exact .inr (.inl (by rw [after]; exact signalled))
      · by_cases same : other = server
        · subst same
          have none_left := all _ last
          have whole : (step serving source (.serve other service)).arrived = source.arrived :=
            by rw [after]; exact Source.arrived_advance source _ enough
          rw [← whole, Source.before_arrived] at none_left
          exact .inl none_left
        · refine .inr (.inr ⟨other, ?_⟩)
          rw [after]
          simp only [Function.update_of_ne same, last]
          exact congrArg some (Source.arrived_advance source _ enough).symm

theorem watched_step (source : Source Server Item) (event : Event Server Item Service)
    (watched : Watched source) (all : ServesAll serving source event) :
    Watched (step serving source event) := by
  cases event with
  | arrive item => exact watched_arrive source item
  | wake server => exact watched_wake source server watched
  | serve server service => exact watched_serve source server service watched all

/-- When every service takes all it was called for, nothing ever waits unwatched. -/
theorem watched_run (source : Source Server Item) (events : List (Event Server Item Service))
    (watched : Watched source) (all : Along (step serving) (ServesAll serving) source events) :
    Watched (run (step serving) source events) :=
  run_invariant Watched watched_step source events watched all

omit [DecidableEq Server] in
theorem Watched.idle {source : Source Server Item} (watched : Watched source)
    (quiet : source.signalled = false) (free : ∀ server, source.taken server = none) :
    source.waiting = [] := by
  rcases watched with idle | signalled | ⟨server, last⟩
  · exact idle
  · simp [quiet] at signalled
  · simp [free server] at last

end NearRtRic.EdgeTrigger
