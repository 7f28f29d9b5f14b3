import NearRtRic.Library.CMemory

/-! Programs that write entries to a journal until they end or stop. -/

namespace NearRtRic.Journal

open NearRtRic.CMemory

/-- What has been written, and the result or how the program has stopped. -/
structure Journaled (Entry Value : Type) where
  entries : List Entry
  result : Run Value

variable {Entry Value Result State Item : Type}

instance : Monad (Journaled Entry) where
  pure value := { entries := [], result := .ok value }
  bind first next :=
    match first.result with
    | .error stop => { entries := first.entries, result := .error stop }
    | .ok value =>
        { entries := first.entries ++ (next value).entries, result := (next value).result }

def write (entry : Entry) : Journaled Entry Unit where
  entries := [entry]
  result := .ok ()

def lift (run : Run Value) : Journaled Entry Value where
  entries := []
  result := run

/-- A loop over a list, whose turns hand on a state. -/
def forEach (body : State → Item → Journaled Entry State) :
    State → List Item → Journaled Entry State
  | state, [] => pure state
  | state, item :: items => do
      let next ← body state item
      forEach body next items

@[simp] theorem pure_entries (value : Value) :
    (pure value : Journaled Entry Value).entries = [] := rfl

@[simp] theorem pure_result (value : Value) :
    (pure value : Journaled Entry Value).result = .ok value := rfl

@[simp] theorem write_entries (entry : Entry) : (write entry).entries = [entry] := rfl

theorem bind_of_ok {first : Journaled Entry Value} {value : Value}
    (ends : first.result = .ok value) (next : Value → Journaled Entry Result) :
    (first >>= next).entries = first.entries ++ (next value).entries ∧
      (first >>= next).result = (next value).result := by
  simp [bind, ends]

theorem bind_result_of_ok {first : Journaled Entry Value} {value : Value}
    (ends : first.result = .ok value) (next : Value → Journaled Entry Result) :
    (first >>= next).result = (next value).result :=
  (bind_of_ok ends next).2

theorem bind_entries_of_ok {first : Journaled Entry Value} {value : Value}
    (ends : first.result = .ok value) (next : Value → Journaled Entry Result) :
    (first >>= next).entries = first.entries ++ (next value).entries :=
  (bind_of_ok ends next).1

theorem journaled_ext {first second : Journaled Entry Value}
    (entries : first.entries = second.entries) (result : first.result = second.result) :
    first = second := by
  cases first
  cases second
  cases entries
  cases result
  rfl

theorem bind_of_error {first : Journaled Entry Value} {stop : Stop}
    (stops : first.result = .error stop) (next : Value → Journaled Entry Result) :
    first >>= next = { entries := first.entries, result := .error stop } := by
  simp [bind, stops]

/-! A program that has stopped does nothing more, so that sequencing is associative. -/

theorem journaled_bind_assoc {Last : Type} (first : Journaled Entry Value)
    (next : Value → Journaled Entry Result) (last : Result → Journaled Entry Last) :
    first >>= next >>= last = first >>= fun value => next value >>= last := by
  cases ends : first.result with
  | error stop => rw [bind_of_error ends, bind_of_error ends, bind_of_error rfl]
  | ok value =>
      have ⟨entries, result⟩ := bind_of_ok ends next
      have ⟨entriesAll, resultAll⟩ := bind_of_ok ends fun value => next value >>= last
      cases endsNext : (next value).result with
      | error stop =>
          have stopped := bind_of_error endsNext last
          rw [stopped] at entriesAll resultAll
          rw [bind_of_error (result.trans endsNext), entries]
          exact journaled_ext entriesAll.symm resultAll.symm
      | ok middle =>
          have ⟨entriesLast, resultLast⟩ := bind_of_ok (result.trans endsNext) last
          rw [bind_entries_of_ok endsNext, ← List.append_assoc, ← entries] at entriesAll
          rw [bind_result_of_ok endsNext] at resultAll
          exact journaled_ext (entriesLast.trans entriesAll.symm) (resultLast.trans resultAll.symm)

instance : LawfulMonad (Journaled Entry) := by
  refine LawfulMonad.mk' _ ?_ ?_ journaled_bind_assoc
  · intro Value program
    cases ends : program.result with
    | error stop => exact (bind_of_error ends _).trans (journaled_ext rfl ends.symm)
    | ok value =>
        have ⟨entries, result⟩ := bind_of_ok ends (fun value => (pure value : Journaled Entry Value))
        exact journaled_ext (entries.trans (List.append_nil _)) (result.trans ends.symm)
  · intro Value Result value next
    exact journaled_ext (bind_entries_of_ok rfl next) (bind_result_of_ok rfl next)

theorem forEach_append (body : State → Item → Journaled Entry State) (state : State)
    (before after : List Item) :
    forEach body state (before ++ after) =
      forEach body state before >>= fun state => forEach body state after := by
  induction before generalizing state with
  | nil => exact (pure_bind state fun state => forEach body state after).symm
  | cons item before ih =>
      calc
        forEach body state (item :: before ++ after)
            = body state item >>= fun state => forEach body state (before ++ after) := rfl
        _ = body state item >>= fun state =>
              forEach body state before >>= fun state => forEach body state after := by
          simp only [ih]
        _ = forEach body state (item :: before) >>= fun state => forEach body state after :=
          (bind_assoc _ _ _).symm

/-- A loop whose turns are themselves loops is one loop. -/
theorem forEach_flatMap {Inner : Type} {outer : State → Item → Journaled Entry State}
    {inner : Item → List Inner} {body : State → Inner → Journaled Entry State}
    (turn : ∀ state item, outer state item = forEach body state (inner item)) (state : State)
    (items : List Item) : forEach outer state items = forEach body state (items.flatMap inner) := by
  induction items generalizing state with
  | nil => rfl
  | cons item items ih =>
      calc
        forEach outer state (item :: items)
            = outer state item >>= fun state => forEach outer state items := rfl
        _ = forEach body state (inner item) >>= fun state =>
              forEach body state (items.flatMap inner) := by
          simp only [turn, ih]
        _ = forEach body state ((item :: items).flatMap inner) := by
          rw [List.flatMap_cons, forEach_append]

theorem forEach_map {Source : Type} {outer : State → Source → Journaled Entry State}
    {body : State → Item → Journaled Entry State} (convert : Source → Item)
    (turn : ∀ state source, outer state source = body state (convert source)) (state : State)
    (sources : List Source) :
    forEach outer state sources = forEach body state (sources.map convert) := by
  induction sources generalizing state with
  | nil => rfl
  | cons source sources ih => simp only [forEach, List.map_cons, turn, ih]

/-- A turn that changes a variable and writes it out. -/
def writeNext (entry : State → Entry) (next : State → Item → State) (state : State)
    (item : Item) : Journaled Entry State := do
  write (entry (next state item))
  pure (next state item)

theorem forEach_writeNext_entries (entry : State → Entry) (next : State → Item → State)
    (state : State) (items : List Item) :
    (forEach (writeNext entry next) state items).entries =
      (items.scanl next state).tail.map entry := by
  induction items generalizing state with
  | nil => rfl
  | cons item items ih =>
      have turn : (writeNext entry next state item).result = .ok (next state item) := rfl
      calc
        (forEach (writeNext entry next) state (item :: items)).entries
            = [entry (next state item)] ++
                (forEach (writeNext entry next) (next state item) items).entries :=
          bind_entries_of_ok turn _
        _ = entry (next state item) :: (items.scanl next (next state item)).tail.map entry := by
          rw [ih, List.singleton_append]
        _ = ((item :: items).scanl next state).tail.map entry := by
          cases items <;> simp

/-- A loop whose turns all end hands on what the turns make of the state. -/
theorem forEach_result {body : State → Item → Journaled Entry State} {next : State → Item → State}
    {items : List Item}
    (ends : ∀ item ∈ items, ∀ state, (body state item).result = .ok (next state item))
    (state : State) : (forEach body state items).result = .ok (items.foldl next state) := by
  induction items generalizing state with
  | nil => rfl
  | cons item items ih =>
      have first : (body state item).result = .ok (next state item) := ends item (by simp) state
      have rest : ∀ other ∈ items, ∀ state, (body state other).result = .ok (next state other) :=
        fun other member => ends other (by simp [member])
      calc
        (forEach body state (item :: items)).result
            = (forEach body (next state item) items).result := bind_result_of_ok first _
        _ = .ok (items.foldl next (next state item)) := ih rest _

theorem forEach_flatMap_result {Inner : Type} {body : State → Item → Journaled Entry State}
    {inner : Item → List Inner} {next : State → Inner → State} {items : List Item}
    (ends : ∀ item ∈ items, ∀ state,
      (body state item).result = .ok ((inner item).foldl next state))
    (state : State) :
    (forEach body state items).result = .ok ((items.flatMap inner).foldl next state) := by
  rw [forEach_result ends, List.foldl_flatMap]

def Ends (program : Journaled Entry Value) : Prop :=
  ∃ value, program.result = .ok value

theorem ends_pure (value : Value) : Ends (pure value : Journaled Entry Value) := ⟨value, rfl⟩

theorem ends_write (entry : Entry) : Ends (write entry) := ⟨(), rfl⟩

theorem ends_bind {first : Journaled Entry Value} {next : Value → Journaled Entry Result}
    (ends : Ends first) (endsNext : ∀ value, Ends (next value)) : Ends (first >>= next) := by
  obtain ⟨value, first⟩ := ends
  obtain ⟨result, last⟩ := endsNext value
  exact ⟨result, (bind_result_of_ok first next).trans last⟩

theorem ends_forEach {body : State → Item → Journaled Entry State}
    (ends : ∀ state item, Ends (body state item)) (state : State) (items : List Item) :
    Ends (forEach body state items) := by
  induction items generalizing state with
  | nil => exact ends_pure state
  | cons item items ih => exact ends_bind (ends state item) ih

/-- The entries of a loop whose turns all end and write the same from every state. -/
theorem forEach_entries_of_same {body : State → Item → Journaled Entry State}
    {written : Item → List Entry} {items : List Item}
    (ends : ∀ item ∈ items, ∀ state, Ends (body state item))
    (writes : ∀ item ∈ items, ∀ state, (body state item).entries = written item) (state : State) :
    (forEach body state items).entries = items.flatMap written := by
  induction items generalizing state with
  | nil => rfl
  | cons item items ih =>
      rcases ends item (by simp) state with ⟨next, first⟩
      calc
        (forEach body state (item :: items)).entries
            = (body state item).entries ++ (forEach body next items).entries :=
          bind_entries_of_ok first _
        _ = written item ++ items.flatMap written := by
          rw [writes item (by simp), ih (fun other member => ends other (by simp [member]))
            (fun other member => writes other (by simp [member]))]
        _ = (item :: items).flatMap written := List.flatMap_cons.symm

/-- The entries of a loop that hands on nothing, where its turns all end. -/
theorem forEach_entries {body : Unit → Item → Journaled Entry Unit} {items : List Item}
    (ends : ∀ item ∈ items, (body () item).result = .ok ()) :
    (forEach body () items).entries = items.flatMap fun item => (body () item).entries :=
  forEach_entries_of_same (fun item member _ => ⟨(), ends item member⟩) (fun _ _ _ => rfl) ()

/-! Which entries a program can write at all. -/

def Confined (allowed : Entry → Prop) (program : Journaled Entry Value) : Prop :=
  ∀ entry ∈ program.entries, allowed entry

section Confined

variable {allowed : Entry → Prop}

theorem confined_pure (value : Value) :
    Confined allowed (pure value : Journaled Entry Value) := by
  intro entry member
  cases member

theorem confined_write {entry : Entry} (may : allowed entry) : Confined allowed (write entry) := by
  intro other member
  rw [write_entries, List.mem_singleton] at member
  rwa [member]

theorem confined_lift (run : Run Value) :
    Confined allowed (lift run : Journaled Entry Value) := by
  intro entry member
  cases member

theorem confined_bind {first : Journaled Entry Value} {next : Value → Journaled Entry Result}
    (confinedFirst : Confined allowed first) (confinedNext : ∀ value, Confined allowed (next value)) :
    Confined allowed (first >>= next) := by
  cases ends : first.result with
  | error stop =>
      have same : (first >>= next).entries = first.entries := by simp [bind, ends]
      intro entry member
      rw [same] at member
      exact confinedFirst entry member
  | ok value =>
      intro entry member
      rw [bind_entries_of_ok ends, List.mem_append] at member
      cases member with
      | inl member => exact confinedFirst entry member
      | inr member => exact confinedNext value entry member

theorem confined_forEach {body : State → Item → Journaled Entry State}
    (confinedBody : ∀ state item, Confined allowed (body state item)) (state : State)
    (items : List Item) : Confined allowed (forEach body state items) := by
  induction items generalizing state with
  | nil => exact confined_pure state
  | cons item items ih => exact confined_bind (confinedBody state item) ih

end Confined

end NearRtRic.Journal
