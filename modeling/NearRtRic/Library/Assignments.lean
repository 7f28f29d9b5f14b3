import NearRtRic.Library.Runs

/-! A table filled entry by entry, where the last entry for a key counts, and the table that
comes out when the keys are entered under other names. -/

namespace NearRtRic.Assignments

open Runs

variable {Key Name Value : Type} [DecidableEq Key] [DecidableEq Name]

def assign (table : Key → Option Value) (entry : Key × Value) : Key → Option Value :=
  Function.update table entry.1 (some entry.2)

/-- The table that these entries leave of an empty one. -/
def written (entries : List (Key × Value)) : Key → Option Value :=
  run assign (fun _ => none) entries

def renamed (rename : Key → Name) (entries : List (Key × Value)) : List (Name × Value) :=
  entries.map fun entry => (rename entry.1, entry.2)

theorem written_concat (entries : List (Key × Value)) (entry : Key × Value) :
    written (entries ++ [entry]) = Function.update (written entries) entry.1 (some entry.2) :=
  run_concat _ _ _ _

theorem written_ne_none (entries : List (Key × Value)) (key : Key) :
    written entries key ≠ none ↔ ∃ value, (key, value) ∈ entries := by
  induction entries using List.reverseRecOn with
  | nil => simp [written]
  | append_singleton entries entry ih =>
      rw [written_concat]
      by_cases same : key = entry.1
      · subst same
        simp only [Function.update_self]
        exact ⟨fun _ => ⟨entry.2, by simp⟩, fun _ => by simp⟩
      · rw [Function.update_of_ne same, ih]
        constructor
        · rintro ⟨value, member⟩
          exact ⟨value, List.mem_append_left _ member⟩
        · rintro ⟨value, member⟩
          rcases List.mem_append.mp member with earlier | last
          · exact ⟨value, earlier⟩
          · exact absurd (congrArg Prod.fst (List.mem_singleton.mp last)) same

variable (rename : Key → Name)

omit [DecidableEq Key] [DecidableEq Name] in
theorem renamed_concat (entries : List (Key × Value)) (entry : Key × Value) :
    renamed rename (entries ++ [entry]) =
      renamed rename entries ++ [(rename entry.1, entry.2)] := by
  simp [renamed]

/-- What stands under a name is what stands under one of the keys of that name. -/
theorem written_renamed (entries : List (Key × Value)) {name : Name} {value : Value}
    (held : written (renamed rename entries) name = some value) :
    ∃ key, rename key = name ∧ written entries key = some value := by
  induction entries using List.reverseRecOn with
  | nil => simp [written, renamed] at held
  | append_singleton entries entry ih =>
      rw [renamed_concat, written_concat] at held
      by_cases same : name = rename entry.1
      · rw [same, Function.update_self, Option.some.injEq] at held
        refine ⟨entry.1, same.symm, ?_⟩
        rw [written_concat, Function.update_self, held]
      · rw [Function.update_of_ne same] at held
        rcases ih held with ⟨key, named, stored⟩
        have other : key ≠ entry.1 := fun equal => same (by rw [← named, equal])
        exact ⟨key, named, by rw [written_concat, Function.update_of_ne other, stored]⟩

theorem renamed_ne_none (entries : List (Key × Value)) {key : Key} {value : Value}
    (stored : written entries key = some value) :
    written (renamed rename entries) (rename key) ≠ none := by
  have present : written entries key ≠ none := by simp [stored]
  rcases (written_ne_none _ _).mp present with ⟨entered, member⟩
  exact (written_ne_none _ _).mpr ⟨entered, List.mem_map.mpr ⟨(key, entered), member, rfl⟩⟩

/-- Looking a key up by its name finds the key's own value, for every key, just when no two
keys with different values have one name. -/
theorem renamed_agrees_iff (entries : List (Key × Value)) :
    (∀ key value, written entries key = some value →
        written (renamed rename entries) (rename key) = some value) ↔
      ∀ first second valueFirst valueSecond, written entries first = some valueFirst →
        written entries second = some valueSecond → rename first = rename second →
          valueFirst = valueSecond := by
  constructor
  · intro agrees first second valueFirst valueSecond storedFirst storedSecond oneName
    have found : some valueFirst = some valueSecond :=
      calc
        some valueFirst = written (renamed rename entries) (rename first) :=
          (agrees first valueFirst storedFirst).symm
        _ = written (renamed rename entries) (rename second) := by rw [oneName]
        _ = some valueSecond := agrees second valueSecond storedSecond
    exact Option.some.inj found
  · intro apart key value stored
    rcases Option.ne_none_iff_exists'.mp (renamed_ne_none rename entries stored) with
      ⟨found, held⟩
    rcases written_renamed rename entries held with ⟨other, named, storedOther⟩
    rw [held, apart other key found value storedOther stored named]

end NearRtRic.Assignments
