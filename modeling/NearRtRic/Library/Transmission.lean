import Mathlib.Tactic

/-! Writers that append symbols and readers that consume them, related step by step.

An action carries the proof that it keeps its device valid and never ends in the fault, so
that a program put together from actions does too. A writer conveys to a reader what the reader
gets when it reads, from where the writer began, what the writer wrote, whatever stands behind
that. The relation is closed under running one step after the other: two programs of the same shape
are related by relating their steps. -/

namespace NearRtRic.Transmission

/-- What no action on the states of a device may do otherwise. -/
class Device (State : Type) (Stop : outParam Type) where
  Valid : State → Prop
  Moves : State → State → Prop
  fault : Stop
  refl : ∀ state, Moves state state
  trans : ∀ {first second third}, Moves first second → Moves second third → Moves first third

open Device

/-- What a run from a valid state may end with. -/
def Kept {State Stop Value : Type} [Device State Stop] (before : State) :
    Except Stop (Value × State) → Prop
  | .ok (_, after) => Valid after ∧ Moves before after
  | .error stop => stop ≠ fault State

@[ext] structure Action (State : Type) {Stop : Type} [Device State Stop] (Value : Type) where
  run : State → Except Stop (Value × State)
  keeps : ∀ before, Valid before → Kept before (run before)

section Actions

variable {State Stop Value Result : Type} [Device State Stop]

namespace Action

def stop (reason : Stop) (other : reason ≠ fault State) : Action State Value where
  run _ := .error reason
  keeps _ _ := other

def pure (value : Value) : Action State Value where
  run state := .ok (value, state)
  keeps state valid := ⟨valid, refl state⟩

def bind (first : Action State Value) (next : Value → Action State Result) :
    Action State Result where
  run before := first.run before >>= fun outcome => (next outcome.1).run outcome.2
  keeps before valid := by
    have kept := first.keeps before valid
    cases hfirst : first.run before with
    | error reason =>
        rw [hfirst] at kept
        exact kept
    | ok outcome =>
        rcases outcome with ⟨value, middle⟩
        rw [hfirst] at kept
        rcases kept with ⟨hvalid, hmoves⟩
        have rest := (next value).keeps middle hvalid
        change Kept before ((next value).run middle)
        cases hnext : (next value).run middle with
        | error reason =>
            rw [hnext] at rest
            exact rest
        | ok answer =>
            rw [hnext] at rest
            exact ⟨rest.1, trans hmoves rest.2⟩

def outcome (result : Except Stop Value) (other : result ≠ .error (fault State)) :
    Action State Value where
  run state := (fun value => (value, state)) <$> result
  keeps state valid := by
    cases result with
    | ok value => exact ⟨valid, refl state⟩
    | error reason => exact fun impossible => other (congrArg Except.error impossible)

def reading (next : State → Action State Value) : Action State Value where
  run state := (next state).run state
  keeps state valid := (next state).keeps state valid

instance : Monad (Action State) where
  pure := pure
  bind := bind

@[simp] theorem run_pure (value : Value) (state : State) :
    (Pure.pure value : Action State Value).run state = .ok (value, state) := rfl

theorem outcome_ok {result : Except Stop Value} {other : result ≠ .error (fault State)} {value : Value}
    (answers : result = .ok value) : outcome result other = (Pure.pure value : Action State Value) := by
  subst answers
  rfl

theorem pure_bind (value : Value) (next : Value → Action State Result) :
    (Pure.pure value : Action State Value) >>= next = next value := rfl

theorem bind_pure (action : Action State Value) : (action >>= Pure.pure) = action := by
  apply Action.ext
  funext state
  change (action.run state >>= fun outcome => .ok (outcome.1, outcome.2)) = action.run state
  cases action.run state with
  | error reason => rfl
  | ok outcome => rfl

theorem run_bind_ok_iff {first : Action State Value} {next : Value → Action State Result}
    {before : State} {answer : Result × State} :
    (first >>= next).run before = .ok answer ↔
      ∃ value middle, first.run before = .ok (value, middle) ∧
        (next value).run middle = .ok answer := by
  change (first.run before >>= fun outcome => (next outcome.1).run outcome.2) = .ok answer ↔ _
  cases first.run before with
  | error reason => simp [Bind.bind, Except.bind]
  | ok outcome =>
      rcases outcome with ⟨value, middle⟩
      simp [Bind.bind, Except.bind]

theorem run_bind_of_ok {first : Action State Value} {next : Value → Action State Result}
    {before middle : State} {value : Value} (ran : first.run before = .ok (value, middle)) :
    (first >>= next).run before = (next value).run middle := by
  change (first.run before >>= fun outcome => (next outcome.1).run outcome.2) = _
  rw [ran]
  rfl

theorem run_bind_of_error {first : Action State Value} {next : Value → Action State Result}
    {before : State} {reason : Stop} (ran : first.run before = .error reason) :
    (first >>= next).run before = .error reason := by
  change (first.run before >>= fun outcome => (next outcome.1).run outcome.2) = _
  rw [ran]
  rfl

theorem kept_of_ok {action : Action State Value} {before after : State} {value : Value}
    (valid : Valid before) (ran : action.run before = .ok (value, after)) :
    Valid after ∧ Moves before after := by
  have kept := action.keeps before valid
  rwa [ran] at kept

theorem never_fault (action : Action State Value) {before : State} (valid : Valid before) :
    action.run before ≠ .error (fault State) := by
  intro ran
  have kept := action.keeps before valid
  rw [ran] at kept
  exact kept rfl

end Action
end Actions

/-- The symbols that a state of a writer has written so far, and the states in which it has room
for any number of them. -/
class Sink (State : Type) (Symbol Stop : outParam Type) extends Device State Stop where
  written : State → List Symbol
  Roomy : State → Prop
  appends : ∀ {before after}, Moves before after → written before <+: written after

/-- The symbols that a state of a reader has before it, and how many it has consumed. -/
class Source (State : Type) (Symbol Stop : outParam Type) extends Device State Stop where
  position : State → Nat
  left : State → List Symbol
  standing : ∀ consumed symbols, ∃ state, Valid state ∧ position state = consumed ∧
    left state = symbols

open Sink Source

variable {Writer Reader Symbol Stop Sent Got Sent' Got' : Type} [Sink Writer Symbol Stop]
  [Source Reader Symbol Stop]

/-- The reader stands where the writer began, and what it has before it begins with what the
writer wrote. -/
structure Faces (before after : Writer) (reader : Reader) (rest : List Symbol) : Prop where
  valid : Valid reader
  position : position reader = (written before).length
  left : written before ++ left reader = written after ++ rest

/-- Where there is room the writer gets through, and whenever it does the reader gets through to
where the writer ended, and answers as `Post` says. -/
structure Conveys (put : Action Writer Sent) (get : Action Reader Got)
    (Post : Sent → Got → Prop) : Prop where
  writes : ∀ before, Valid before → Roomy before →
    ∃ sent after, put.run before = .ok (sent, after) ∧ Roomy after
  reads : ∀ before sent after, Valid before → put.run before = .ok (sent, after) →
    ∀ reader rest, Faces before after reader rest →
    ∃ got reader', get.run reader = .ok (got, reader') ∧ Valid reader' ∧
      position reader' = (written after).length ∧ left reader' = rest ∧ Post sent got

namespace Conveys

theorem pure {Post : Sent → Got → Prop} {sent : Sent} {got : Got} (post : Post sent got) :
    Conveys (Pure.pure sent : Action Writer Sent) (Pure.pure got : Action Reader Got) Post := by
  constructor
  · intro before _ roomy
    exact ⟨sent, before, rfl, roomy⟩
  · intro before answer after valid run reader rest faces
    rcases Prod.mk.inj (Except.ok.inj run) with ⟨rfl, rfl⟩
    exact ⟨got, reader, rfl, faces.valid, faces.position, List.append_cancel_left faces.left, post⟩

theorem mono {put : Action Writer Sent} {get : Action Reader Got} {Post Weaker : Sent → Got → Prop}
    (conveys : Conveys put get Post) (weaker : ∀ sent got, Post sent got → Weaker sent got) :
    Conveys put get Weaker := by
  refine ⟨conveys.writes, ?_⟩
  intro before sent after valid run reader rest faces
  rcases conveys.reads before sent after valid run reader rest faces with
    ⟨got, reader', hget, hvalid, hposition, hleft, hpost⟩
  exact ⟨got, reader', hget, hvalid, hposition, hleft, weaker sent got hpost⟩

/-- A reader stands before just what a writer wrote. -/
theorem faced {put : Action Writer Sent} {before after : Writer} {sent : Sent} (valid : Valid before)
    (run : put.run before = .ok (sent, after)) : ∃ reader : Reader, Faces before after reader [] := by
  rcases appends (Action.kept_of_ok valid run).2 with ⟨symbols, hsymbols⟩
  rcases (standing : ∀ _ _, ∃ reader : Reader, _) (written before).length symbols with
    ⟨reader, hvalid, hposition, hleft⟩
  refine ⟨reader, hvalid, hposition, ?_⟩
  rw [hleft, hsymbols, List.append_nil]

theorem congr {put other : Action Writer Sent} {get : Action Reader Got} {Post : Sent → Got → Prop}
    (conveys : Conveys other get Post)
    (same : ∀ before, Valid before → put.run before = other.run before) : Conveys put get Post := by
  constructor
  · intro before valid roomy
    rw [same before valid]
    exact conveys.writes before valid roomy
  · intro before sent after valid run
    rw [same before valid] at run
    exact conveys.reads before sent after valid run

/-- After the first step of the writer, and the reader's, the reader stands before what the
writer wrote since. -/
theorem step {put : Action Writer Sent} {get : Action Reader Got} {Middle : Sent → Got → Prop}
    (first : Conveys put get Middle) {before middle after : Writer} {value : Sent} {reader : Reader}
    {rest : List Symbol} (valid : Valid before) (hput : put.run before = .ok (value, middle))
    (moves : Moves middle after) (faces : Faces before after reader rest) :
    ∃ got reader', get.run reader = .ok (got, reader') ∧ Faces middle after reader' rest ∧
      Middle value got := by
  rcases appends moves with ⟨symbols, hsymbols⟩
  have hfaces : Faces before middle reader (symbols ++ rest) := by
    refine ⟨faces.valid, faces.position, ?_⟩
    rw [faces.left, ← List.append_assoc, hsymbols]
  rcases first.reads before value middle valid hput reader _ hfaces with
    ⟨got, reader', hget, hvalid, hposition, hleft, hpost⟩
  refine ⟨got, reader', hget, ⟨hvalid, hposition, ?_⟩, hpost⟩
  rw [hleft, ← List.append_assoc, hsymbols]

/-- One step after the other: the rest of the reader runs on what the first step of the writer
and of the reader came to. -/
theorem bind {put : Action Writer Sent} {get : Action Reader Got}
    {nextPut : Sent → Action Writer Sent'} {nextGet : Got → Action Reader Got'}
    {Middle : Sent → Got → Prop} {Post : Sent' → Got' → Prop} (first : Conveys put get Middle)
    (second : ∀ sent got, Middle sent got → Conveys (nextPut sent) (nextGet got) Post) :
    Conveys (put >>= nextPut) (get >>= nextGet) Post := by
  constructor
  · intro before valid roomy
    rcases first.writes before valid roomy with ⟨value, middle, hput, hroomy⟩
    rcases (faced valid hput : ∃ reader : Reader, _) with ⟨reader, faces⟩
    rcases first.reads before value middle valid hput reader [] faces with
      ⟨got, _, _, _, _, _, hpost⟩
    rcases (second value got hpost).writes middle (Action.kept_of_ok valid hput).1 hroomy with
      ⟨sent, after, hnext, hroomy'⟩
    refine ⟨sent, after, ?_, hroomy'⟩
    rw [Action.run_bind_of_ok hput]
    exact hnext
  · intro before sent after valid run reader rest faces
    rcases Action.run_bind_ok_iff.mp run with ⟨value, middle, hput, hnext⟩
    have hmiddle := Action.kept_of_ok valid hput
    have hafter := Action.kept_of_ok hmiddle.1 hnext
    rcases first.step valid hput hafter.2 faces with ⟨got, reader', hget, hfaces, hpost⟩
    rcases (second value got hpost).reads middle sent after hmiddle.1 hnext reader' rest hfaces with
      ⟨got', reader'', hget', hrest⟩
    refine ⟨got', reader'', ?_, hrest⟩
    rw [Action.run_bind_of_ok hget]
    exact hget'

theorem answering {put : Action Writer Sent} {get : Action Reader Got} {answer : Sent → Sent'}
    {Middle : Sent → Got → Prop} {Post : Sent' → Got → Prop} (conveys : Conveys put get Middle)
    (post : ∀ sent got, Middle sent got → Post (answer sent) got) :
    Conveys (put >>= fun sent => Pure.pure (answer sent)) get Post := by
  constructor
  · intro before valid roomy
    rcases conveys.writes before valid roomy with ⟨sent, after, hput, hroomy⟩
    exact ⟨answer sent, after, Action.run_bind_of_ok hput, hroomy⟩
  · intro before sent after valid run reader rest faces
    rcases Action.run_bind_ok_iff.mp run with ⟨value, middle, hput, hpure⟩
    rcases Prod.mk.inj (Except.ok.inj hpure) with ⟨rfl, rfl⟩
    rcases conveys.reads before value middle valid hput reader rest faces with
      ⟨got, reader', hget, hvalid, hposition, hleft, hpost⟩
    exact ⟨got, reader', hget, hvalid, hposition, hleft, post value got hpost⟩

theorem finishing {put : Action Writer Sent} {get : Action Reader Got}
    {next : Got → Action Reader Got'} {Middle : Sent → Got → Prop} {Post : Sent → Got' → Prop}
    (conveys : Conveys put get Middle)
    (rest : ∀ sent got, Middle sent got →
      Conveys (Pure.pure sent : Action Writer Sent) (next got) Post) :
    Conveys put (get >>= next) Post := by
  rw [← Action.bind_pure put]
  exact conveys.bind rest

theorem mapping {put : Action Writer Sent} {get : Action Reader Got} {answer : Got → Got'}
    {Middle : Sent → Got → Prop} {Post : Sent → Got' → Prop} (conveys : Conveys put get Middle)
    (post : ∀ sent got, Middle sent got → Post sent (answer got)) :
    Conveys put (get >>= fun got => Pure.pure (answer got)) Post :=
  conveys.finishing fun sent got middle => pure (post sent got middle)

/-- A loop of the reader that may run once for each symbol left, or more often, where the writer
puts as many symbols as the loop needs rounds. -/
theorem looping {put : Action Writer Sent} {get : Nat → Action Reader Got} {rounds : Reader → Nat}
    {needed : Nat} {Post : Sent → Got → Prop}
    (enough : ∀ reader, Valid reader → (left reader).length ≤ rounds reader)
    (each : ∀ fuel, needed ≤ fuel → Conveys put (get fuel) Post)
    (grows : ∀ before sent after, Valid before → put.run before = .ok (sent, after) →
      (written before).length + needed ≤ (written after).length) :
    Conveys put (Action.reading fun reader => get (rounds reader)) Post := by
  refine ⟨(each needed le_rfl).writes, ?_⟩
  intro before sent after valid run reader rest faces
  have hlength := congrArg List.length faces.left
  rw [List.length_append, List.length_append] at hlength
  have hgrows := grows before sent after valid run
  have henough := enough reader faces.valid
  exact (each _ (by omega)).reads before sent after valid run reader rest faces

theorem reading {put : Writer → Action Writer Sent} {get : Reader → Action Reader Got}
    {Post : Sent → Got → Prop}
    (each : ∀ writer reader, Valid writer → Valid reader →
      position reader = (written writer).length → Conveys (put writer) (get reader) Post) :
    Conveys (Action.reading put) (Action.reading get) Post := by
  constructor
  · intro before valid roomy
    rcases (standing (written before).length [] : ∃ reader : Reader, _) with
      ⟨reader, hvalid, hposition, _⟩
    exact (each before reader valid hvalid hposition).writes before valid roomy
  · intro before sent after valid run reader rest faces
    exact (each before reader valid faces.valid faces.position).reads before sent after valid run
      reader rest faces

end Conveys

end NearRtRic.Transmission
