import NearRtRic.Library.CMemory

/-! Loops that fill the front of an array of a fixed capacity, one entry for each item, or store
into an array that is there. -/

namespace NearRtRic.FixedArray

open NearRtRic.CMemory

variable {Item Entry : Type}

/-- A list within the bound of its type. -/
abbrev Bounded (bound : Nat) (Item : Type) := { items : List Item // items.length ≤ bound }

/-- The entries from `index` on; taking an entry out of range is a fault. -/
def fillFrom (capacity : Nat) (copy : Item → Run Entry) : Nat → List Item → Run (List Entry)
  | _, [] => pure []
  | index, item :: items =>
      if index < capacity then do
        let entry ← copy item
        let entries ← fillFrom capacity copy (index + 1) items
        pure (entry :: entries)
      else .error .fault

def fill (capacity : Nat) (copy : Item → Run Entry) (items : List Item) : Run (List Entry) :=
  fillFrom capacity copy 0 items

variable {capacity index : Nat} {copy : Item → Run Entry} {items : List Item}

/-- Where every item is copied as `R` demands, the entries are, one by one. -/
theorem fill_exists {R : Item → Entry → Prop}
    (copies : ∀ item ∈ items, ∃ entry, copy item = .ok entry ∧ R item entry)
    (fits : items.length ≤ capacity) :
    ∃ entries, fill capacity copy items = .ok entries ∧ List.Forall₂ R items entries := by
  suffices hfrom : ∀ index, index + items.length ≤ capacity →
      ∃ entries, fillFrom capacity copy index items = .ok entries ∧
        List.Forall₂ R items entries from hfrom 0 (by omega)
  clear fits
  induction items with
  | nil => exact fun index _ => ⟨[], rfl, .nil⟩
  | cons item items ih =>
      intro index fits
      have hlength : (item :: items).length = items.length + 1 := rfl
      have hinside : index < capacity := by omega
      rcases copies item (by simp) with ⟨entry, hentry, hitem⟩
      rcases ih (fun other member => copies other (by simp [member])) (index + 1) (by omega) with
        ⟨entries, hentries, hitems⟩
      refine ⟨entry :: entries, ?_, .cons hitem hitems⟩
      simp only [fillFrom, if_pos hinside, hentry, hentries, bind_ok]
      rfl

/-- A filled array holds the copies of the items, which are not more than its entries. -/
theorem fill_ok {entries : List Entry} (filled : fill capacity copy items = .ok entries) :
    items.length ≤ capacity ∧ List.Forall₂ (fun item entry => copy item = .ok entry) items entries := by
  suffices hfrom : ∀ index entries, index ≤ capacity →
      fillFrom capacity copy index items = .ok entries →
      index + items.length ≤ capacity ∧
        List.Forall₂ (fun item entry => copy item = .ok entry) items entries by
    simpa using hfrom 0 entries (Nat.zero_le capacity) filled
  clear filled
  induction items with
  | nil =>
      intro index entries started filled
      obtain rfl := pure_ok_iff.mp filled
      exact ⟨started, .nil⟩
  | cons item items ih =>
      intro index entries started filled
      rw [fillFrom] at filled
      split at filled
      · rcases bind_ok_iff.mp filled with ⟨first, hfirst, filled⟩
        rcases bind_ok_iff.mp filled with ⟨others, hothers, filled⟩
        obtain rfl := pure_ok_iff.mp filled
        rcases ih (index + 1) others (by omega) hothers with ⟨fits, copied⟩
        rw [List.length_cons]
        exact ⟨by omega, .cons hfirst copied⟩
      · cases filled

theorem mem_fill {entries : List Entry} {entry : Entry}
    (filled : fill capacity copy items = .ok entries) (member : entry ∈ entries) :
    ∃ item ∈ items, copy item = .ok entry := by
  have copied := (fill_ok filled).2
  clear filled
  induction copied with
  | nil => cases member
  | @cons item first items entries hfirst _ ih =>
      rcases List.mem_cons.mp member with rfl | later
      · exact ⟨item, by simp, hfirst⟩
      · rcases ih later with ⟨other, hother, copied⟩
        exact ⟨other, by simp [hother], copied⟩

theorem forall₂_iff {R : Item → Entry → Prop} {P : Item → Prop} {entries : List Entry}
    (exact : List.Forall₂ (fun item entry => R item entry ↔ P item) items entries) :
    List.Forall₂ R items entries ↔ ∀ item ∈ items, P item := by
  induction exact with
  | nil => simp
  | cons hitem _ ih => simp [hitem, ih]

/-- The loop returns an error just when an item in range gives one, behind items that are
copied. -/
theorem fill_error_iff :
    (∃ message, fill capacity copy items = .error (.error message)) ↔
      ∃ before item after, items = before ++ item :: after ∧ before.length < capacity ∧
        (∀ other ∈ before, ∃ entry, copy other = .ok entry) ∧
        ∃ message, copy item = .error (.error message) := by
  suffices hfrom : ∀ index,
      (∃ message, fillFrom capacity copy index items = .error (.error message)) ↔
        ∃ before item after, items = before ++ item :: after ∧
          index + before.length < capacity ∧
          (∀ other ∈ before, ∃ entry, copy other = .ok entry) ∧
          ∃ message, copy item = .error (.error message) by
    have start := hfrom 0
    simp only [Nat.zero_add] at start
    exact start
  induction items with
  | nil =>
      intro index
      exact iff_of_false (by rintro ⟨message, same⟩; cases same) (by simp)
  | cons item items ih =>
      intro index
      rw [fillFrom]
      split
      · next hinside =>
        constructor
        · rintro ⟨message, raised⟩
          cases hitem : copy item with
          | error stop =>
              rw [hitem, bind_error] at raised
              obtain rfl := Except.error.inj raised
              exact ⟨[], item, items, rfl, hinside, by simp, message, hitem⟩
          | ok entry =>
              rw [hitem, bind_ok] at raised
              cases hrest : fillFrom capacity copy (index + 1) items with
              | ok entries =>
                  rw [hrest] at raised
                  cases raised
              | error stop =>
                  rw [hrest, bind_error] at raised
                  obtain rfl := Except.error.inj raised
                  rcases (ih (index + 1)).mp ⟨message, hrest⟩ with
                    ⟨before, other, after, rfl, fits, copied, raises⟩
                  refine ⟨item :: before, other, after, rfl, ?_, ?_, raises⟩
                  · rw [List.length_cons]
                    omega
                  · exact List.forall_mem_cons.mpr ⟨⟨entry, hitem⟩, copied⟩
        · rintro ⟨before, other, after, split, fits, copied, message, raised⟩
          cases before with
          | nil =>
              obtain ⟨rfl, -⟩ := List.cons.inj split
              exact ⟨message, by rw [raised, bind_error]⟩
          | cons first before =>
              obtain ⟨rfl, rfl⟩ := List.cons.inj split
              rw [List.forall_mem_cons] at copied
              rw [List.length_cons] at fits
              rcases copied with ⟨⟨entry, hentry⟩, copied⟩
              rcases (ih (index + 1)).mpr
                ⟨before, other, after, rfl, by omega, copied, message, raised⟩ with ⟨raised, same⟩
              exact ⟨raised, by rw [hentry, bind_ok, same, bind_error]⟩
      · next houtside =>
        refine iff_of_false (by rintro ⟨message, same⟩; cases same) ?_
        rintro ⟨before, other, after, -, fits, -⟩
        omega

/-- A copy of what fits exists and is as `R` says; one of anything else faults. -/
structure Copies (fits : Prop) (result : Run Entry) (R : Entry → Prop) : Prop where
  copied : fits → ∃ entry, result = .ok entry ∧ R entry
  faults : ¬ fits → result = .error .fault

namespace Copies

variable {Other : Type} {fits more : Prop} {result : Run Entry} {R : Entry → Prop}
variable {S : Other → Prop}

theorem of_ok {entry : Entry} (right : R entry) : Copies True (.ok entry) R where
  copied _ := ⟨entry, rfl, right⟩
  faults never := absurd trivial never

theorem congr (copies : Copies fits result R) (same : fits ↔ more) : Copies more result R where
  copied holds := copies.copied (same.mpr holds)
  faults fails := copies.faults fun holds => fails (same.mp holds)

theorem bind {next : Entry → Run Other} (first : Copies fits result R)
    (second : ∀ entry, R entry → Copies more (next entry) S) :
    Copies (fits ∧ more) (result >>= next) S where
  copied := by
    rintro ⟨holds, later⟩
    rcases first.copied holds with ⟨entry, rfl, right⟩
    exact (second entry right).copied later
  faults fails := by
    by_cases holds : fits
    · rcases first.copied holds with ⟨entry, rfl, right⟩
      exact (second entry right).faults fun later => fails ⟨holds, later⟩
    · rw [first.faults holds, bind_error]

theorem and_fits (copies : Copies fits result R) :
    Copies fits result fun entry => fits ∧ R entry where
  copied holds := (copies.copied holds).imp fun _ right => ⟨right.1, holds, right.2⟩
  faults := copies.faults

theorem map {next : Entry → Other} (copies : Copies fits result R)
    (right : ∀ entry, R entry → S (next entry)) :
    Copies fits (result >>= fun entry => .ok (next entry)) S :=
  (copies.bind fun entry holds => of_ok (right entry holds)).congr (and_iff_left trivial)

theorem fill {fits : Item → Prop} {R : Item → Entry → Prop}
    (each : ∀ item, Copies (fits item) (copy item) (R item)) (items : List Item) :
    Copies (items.length ≤ capacity ∧ ∀ item ∈ items, fits item)
      (FixedArray.fill capacity copy items) (List.Forall₂ R items) where
  copied := by
    rintro ⟨short, all⟩
    exact fill_exists (fun item member => (each item).copied (all item member)) short
  faults fails := by
    suffices hfrom : ∀ index, index ≤ capacity →
        ¬ (index + items.length ≤ capacity ∧ ∀ item ∈ items, fits item) →
        fillFrom capacity copy index items = .error .fault by
      exact hfrom 0 (Nat.zero_le capacity) (by simpa using fails)
    clear fails
    induction items with
    | nil => exact fun index started fails => absurd ⟨started, by simp⟩ fails
    | cons item items ih =>
        intro index started fails
        rw [fillFrom]
        split
        · by_cases holds : fits item
          · rcases (each item).copied holds with ⟨entry, hentry, -⟩
            have rest := ih (index + 1) (by omega) fun later => fails
              ⟨by rw [List.length_cons]; omega, List.forall_mem_cons.mpr ⟨holds, later.2⟩⟩
            rw [hentry, bind_ok, rest, bind_error]
          · rw [(each item).faults holds, bind_error]
        · rfl

theorem fill_of_ok {next : Item → Entry} {R : Item → Entry → Prop}
    (right : ∀ item, R item (next item)) (items : List Item) :
    Copies (items.length ≤ capacity)
      (FixedArray.fill capacity (fun item => .ok (next item)) items) (List.Forall₂ R items) :=
  (fill (fun item => of_ok (right item)) items).congr
    (and_iff_left fun _ _ => trivial)

end Copies

section Stores

variable {Target Value : Type}

/-- `array[index] = value` -/
def store (array : Vector Value capacity) (index : Nat) (value : Value) :
    Run (Vector Value capacity) :=
  if inside : index < capacity then pure (array.set index value inside) else .error .fault

theorem store_inside {array : Vector Value capacity} {value : Value} (inside : index < capacity) :
    store array index value = .ok (array.set index value inside) :=
  dif_pos inside

theorem store_eq_ok {array after : Vector Value capacity} {value : Value}
    (stored : store array index value = .ok after) :
    ∃ inside : index < capacity, after = array.set index value inside := by
  rw [store] at stored
  split at stored
  · next inside => exact ⟨inside, (pure_ok_iff.mp stored).symm⟩
  · cases stored

/-- A turn for each item, counting the index. -/
def eachIndexed (turn : Target → Nat → Item → Run Target) : Nat → List Item → Target → Run Target
  | _, [], target => pure target
  | index, item :: items, target => do
      let target ← turn target index item
      eachIndexed turn (index + 1) items target

/-- A turn replaces the entry of its index, of the array that `read` reads. -/
def Stores (turn : Target → Nat → Item → Run Target) (read : Target → Vector Value capacity)
    (value : Item → Value) : Prop :=
  ∀ target index item after, turn target index item = .ok after →
    ∃ inside : index < capacity, read after = (read target).set index (value item) inside

variable {turn : Target → Nat → Item → Run Target} {target after : Target}
variable {read : Target → Vector Value capacity} {value : Item → Value}

theorem eachIndexed_total
    (total : ∀ target index, ∀ item ∈ items, index < capacity →
      ∃ after, turn target index item = .ok after)
    (fits : index + items.length ≤ capacity) (target : Target) :
    ∃ after, eachIndexed turn index items target = .ok after := by
  induction items generalizing index target with
  | nil => exact ⟨target, rfl⟩
  | cons item items ih =>
      rw [List.length_cons] at fits
      rcases total target index item (by simp) (by omega) with ⟨next, hnext⟩
      have hothers : ∀ target index, ∀ item ∈ items, index < capacity →
          ∃ after, turn target index item = .ok after := fun target index item member =>
        total target index item (by simp [member])
      have hrest : index + 1 + items.length ≤ capacity := by omega
      rcases ih hothers hrest next with ⟨after, hafter⟩
      exact ⟨after, by rw [eachIndexed, hnext, bind_ok, hafter]⟩

theorem eachIndexed_bounded (items : Bounded capacity Item)
    (total : ∀ target index item, index < capacity → ∃ after, turn target index item = .ok after)
    (target : Target) : ∃ after, eachIndexed turn 0 items.val target = .ok after :=
  eachIndexed_total (fun target index item _ => total target index item)
    (by rw [Nat.zero_add]; exact items.property) target

theorem stores_of_effect (read : Target → Vector Value capacity) (value : Item → Value)
    {effect : Target → (index : Nat) → Item → index < capacity → Target}
    (inside : ∀ target index item (inside : index < capacity),
      turn target index item = .ok (effect target index item inside))
    (outside : ∀ target index item, ¬index < capacity → turn target index item = .error .fault)
    (reads : ∀ target index item (inside : index < capacity),
      read (effect target index item inside) = (read target).set index (value item) inside) :
    Stores turn read value := by
  intro target index item after run
  by_cases within : index < capacity
  · rw [inside target index item within] at run
    exact ⟨within, by rw [← Except.ok.inj run, reads target index item within]⟩
  · rw [outside target index item within] at run
    cases run

theorem Stores.getElem (stores : Stores turn read value)
    (run : eachIndexed turn index items target = .ok after) {place : Nat}
    (inside : place < capacity) :
    (read after)[place] = if index ≤ place then
      ((items[place - index]?).map value).getD (read target)[place] else (read target)[place] := by
  induction items generalizing index target with
  | nil =>
      obtain rfl := pure_ok_iff.mp run
      simp
  | cons item items ih =>
      rcases bind_ok_iff.mp run with ⟨next, hnext, hrest⟩
      rcases stores target index item next hnext with ⟨started, hread⟩
      rw [ih hrest, hread]
      rcases Nat.lt_trichotomy index place with before | rfl | behind
      · have hindex : place - index = place - (index + 1) + 1 := by omega
        rw [if_pos (Nat.succ_le_of_lt before), if_pos before.le, hindex, List.getElem?_cons_succ,
          Vector.getElem_set_ne _ _ before.ne]
      · simp
      · rw [if_neg (by omega), if_neg (by omega), Vector.getElem_set_ne _ _ behind.ne']

def overlay (values : List Value) (array : Vector Value capacity) : Vector Value capacity :=
  Vector.ofFn fun place => values[place.val]?.getD array[place]

theorem Stores.eq_overlay (stores : Stores turn read value)
    (run : eachIndexed turn 0 items target = .ok after) :
    read after = overlay (items.map value) (read target) := by
  apply Vector.ext
  intro place inside
  rw [stores.getElem run inside, overlay, Vector.getElem_ofFn, List.getElem?_map]
  simp

theorem overlay_range {Other : Type} (transform : Value → Other) {values : List Value}
    {count : Nat} (counted : values.length = count) (array : Vector Value capacity)
    (default : Value) (target : Vector Other capacity) :
    overlay ((List.range count).map fun place =>
      transform ((overlay values array)[place]?.getD default)) target =
      overlay (values.map transform) target := by
  apply Vector.ext
  intro place inside
  simp only [overlay, Vector.getElem_ofFn, List.getElem?_map, ← counted]
  by_cases listed : place < values.length
  · simp [listed, inside]
  · simp [listed]

end Stores

end NearRtRic.FixedArray
