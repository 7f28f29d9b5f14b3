import Mathlib.Tactic

/-! Writing through a pointer that moves on: every write is kept, by its offset. -/

namespace NearRtRic

structure Cursor (Value : Type) where
  pos : Nat
  writes : List (Nat × Value)

namespace Cursor

variable {Value : Type}

def start : Cursor Value where
  pos := 0
  writes := []

/-- `*pos = value` -/
def set (cursor : Cursor Value) (value : Value) : Cursor Value :=
  { cursor with writes := cursor.writes ++ [(cursor.pos, value)] }

/-- `*pos++ = value` -/
def put (cursor : Cursor Value) (value : Value) : Cursor Value where
  pos := cursor.pos + 1
  writes := cursor.writes ++ [(cursor.pos, value)]

def putAll (cursor : Cursor Value) (values : List Value) : Cursor Value :=
  values.foldl put cursor

/-- `pos -= count` -/
def back (cursor : Cursor Value) (count : Nat) : Cursor Value :=
  { cursor with pos := cursor.pos - count }

def read (cursor : Cursor Value) (offset : Nat) : Option Value :=
  (cursor.writes.reverse.find? fun write => write.1 = offset).map Prod.snd

/-- The memory that the pointer goes through, after the writes. -/
def memory (cursor : Cursor Value) (before : Nat → Value) (offset : Nat) : Value :=
  (cursor.read offset).getD (before offset)

/-- Every write is below an offset. -/
def Within (cursor : Cursor Value) (bound : Int) : Prop :=
  ∀ write ∈ cursor.writes, (write.1 : Int) < bound

@[simp] theorem putAll_nil (cursor : Cursor Value) : cursor.putAll [] = cursor := rfl

@[simp] theorem putAll_cons (cursor : Cursor Value) (value : Value) (values : List Value) :
    cursor.putAll (value :: values) = (cursor.put value).putAll values := rfl

theorem putAll_append (cursor : Cursor Value) (first second : List Value) :
    cursor.putAll (first ++ second) = (cursor.putAll first).putAll second :=
  List.foldl_append

@[simp] theorem putAll_pos (cursor : Cursor Value) (values : List Value) :
    (cursor.putAll values).pos = cursor.pos + values.length := by
  induction values generalizing cursor with
  | nil => rfl
  | cons value values ih =>
      rw [putAll_cons, ih, List.length_cons]
      simp only [put]
      omega

theorem read_start (offset : Nat) : (start : Cursor Value).read offset = none := rfl

theorem read_set (cursor : Cursor Value) (value : Value) (offset : Nat) :
    (cursor.set value).read offset =
      if offset = cursor.pos then some value else cursor.read offset := by
  by_cases same : offset = cursor.pos
  · simp [read, set, same]
  · simp [read, set, same, Ne.symm same]

theorem read_put (cursor : Cursor Value) (value : Value) (offset : Nat) :
    (cursor.put value).read offset =
      if offset = cursor.pos then some value else cursor.read offset :=
  read_set cursor value offset

theorem read_putAll (cursor : Cursor Value) (values : List Value) (offset : Nat) :
    (cursor.putAll values).read offset =
      if cursor.pos ≤ offset ∧ offset < cursor.pos + values.length then
        values[offset - cursor.pos]?
      else cursor.read offset := by
  induction values generalizing cursor with
  | nil =>
      rw [putAll_nil, if_neg]
      simp only [List.length_nil]
      omega
  | cons value values ih =>
      have next : (cursor.put value).pos = cursor.pos + 1 := rfl
      rw [putAll_cons, ih, read_put, next, List.length_cons]
      by_cases here : offset = cursor.pos
      · subst here
        rw [if_neg (by omega), if_pos rfl, if_pos (by omega), Nat.sub_self]
        rfl
      · by_cases later : cursor.pos + 1 ≤ offset ∧ offset < cursor.pos + 1 + values.length
        · have shift : offset - cursor.pos = offset - (cursor.pos + 1) + 1 := by omega
          rw [if_pos later, if_pos (by omega), shift, List.getElem?_cons_succ]
        · rw [if_neg later, if_neg here, if_neg (by omega)]

theorem read_putAll_start (values : List Value) (offset : Nat) :
    (start.putAll values).read offset = values[offset]? := by
  have at_start : (start : Cursor Value).pos = 0 := rfl
  rw [read_putAll, at_start]
  by_cases inside : offset < values.length
  · rw [if_pos (by omega), Nat.sub_zero]
  · rw [if_neg (by omega), read_start, List.getElem?_eq_none (by omega)]

theorem read_putAll_set (values : List Value) (last : Value) (offset : Nat) :
    ((start.putAll values).set last).read offset = (values ++ [last])[offset]? := by
  have ends : (start.putAll values).pos = values.length := by
    rw [putAll_pos]
    simp [start]
  rw [read_set, ends, read_putAll_start]
  by_cases behind : offset = values.length
  · subst behind
    simp
  · rw [if_neg behind]
    by_cases inside : offset < values.length
    · rw [List.getElem?_append_left inside]
    · have past : (values ++ [last]).length ≤ offset := by
        rw [List.length_append, List.length_singleton]
        omega
      rw [List.getElem?_eq_none (not_lt.mp inside), List.getElem?_eq_none past]

theorem within_set_iff (cursor : Cursor Value) (value : Value) (bound : Int) :
    (cursor.set value).Within bound ↔ cursor.Within bound ∧ (cursor.pos : Int) < bound := by
  simp only [Within, set, List.forall_mem_append, List.forall_mem_singleton]

theorem within_put_iff (cursor : Cursor Value) (value : Value) (bound : Int) :
    (cursor.put value).Within bound ↔ cursor.Within bound ∧ (cursor.pos : Int) < bound :=
  within_set_iff cursor value bound

theorem Within.mono {cursor : Cursor Value} {bound larger : Int} (within : cursor.Within bound)
    (le : bound ≤ larger) : cursor.Within larger :=
  fun write member => (within write member).trans_le le

theorem Within.putAll {cursor : Cursor Value} (within : cursor.Within cursor.pos)
    (values : List Value) : (cursor.putAll values).Within (cursor.putAll values).pos := by
  induction values generalizing cursor with
  | nil => exact within
  | cons value values ih =>
      apply ih
      have next : ((cursor.put value).pos : Int) = cursor.pos + 1 := rfl
      rw [within_put_iff, next]
      exact ⟨within.mono (by omega), by omega⟩

theorem within_start (bound : Int) : (start : Cursor Value).Within bound :=
  fun write member => by cases member

end Cursor

end NearRtRic
