import Mathlib.Tactic

/-! A log of what a program does with objects of the heap: no object is used, or freed, after it
has been freed. -/

namespace NearRtRic.AccessLog

inductive Access (Object : Type)
  | read (object : Object)
  | write (object : Object)
  | free (object : Object)
  deriving DecidableEq, Repr

variable {Object : Type}

def Access.object : Access Object → Object
  | read object | write object | free object => object

/-- The objects that have been freed after an access, the last one first. -/
def Access.after (freed : List Object) : Access Object → List Object
  | read _ | write _ => freed
  | free object => object :: freed

def freedAfter (freed : List Object) (log : List (Access Object)) : List Object :=
  log.foldl Access.after freed

def Safe (freed : List Object) : List (Access Object) → Prop
  | [] => True
  | access :: log => access.object ∉ freed ∧ Safe (access.after freed) log

@[simp] theorem freedAfter_nil (freed : List Object) : freedAfter freed [] = freed := rfl

@[simp] theorem freedAfter_cons (freed : List Object) (access : Access Object)
    (log : List (Access Object)) :
    freedAfter freed (access :: log) = freedAfter (access.after freed) log := rfl

theorem mem_freedAfter_iff (freed : List Object) (log : List (Access Object))
    (object : Object) :
    object ∈ freedAfter freed log ↔ object ∈ freed ∨ .free object ∈ log := by
  induction log generalizing freed with
  | nil => simp
  | cons access log ih =>
      rw [freedAfter_cons, ih, List.mem_cons]
      cases access with
      | read other => simp [Access.after]
      | write other => simp [Access.after]
      | free other =>
          simp only [Access.after, List.mem_cons, Access.free.injEq]
          tauto

@[simp] theorem safe_nil (freed : List Object) : Safe freed ([] : List (Access Object)) :=
  trivial

@[simp] theorem safe_read (freed : List Object) (object : Object)
    (log : List (Access Object)) :
    Safe freed (.read object :: log) ↔ object ∉ freed ∧ Safe freed log := Iff.rfl

@[simp] theorem safe_write (freed : List Object) (object : Object)
    (log : List (Access Object)) :
    Safe freed (.write object :: log) ↔ object ∉ freed ∧ Safe freed log := Iff.rfl

@[simp] theorem safe_free (freed : List Object) (object : Object)
    (log : List (Access Object)) :
    Safe freed (.free object :: log) ↔ object ∉ freed ∧ Safe (object :: freed) log := Iff.rfl

@[simp] theorem after_read (freed : List Object) (object : Object) :
    (Access.read object).after freed = freed := rfl

@[simp] theorem after_write (freed : List Object) (object : Object) :
    (Access.write object).after freed = freed := rfl

@[simp] theorem after_free (freed : List Object) (object : Object) :
    (Access.free object).after freed = object :: freed := rfl

theorem safe_append (freed : List Object) (first second : List (Access Object)) :
    Safe freed (first ++ second) ↔ Safe freed first ∧ Safe (freedAfter freed first) second := by
  induction first generalizing freed with
  | nil => simp
  | cons access first ih =>
      rw [List.cons_append, Safe, Safe, ih, freedAfter_cons, and_assoc]

/-- The log only uses this object. -/
def UsesOnly (object : Object) (log : List (Access Object)) : Prop :=
  ∀ access ∈ log, access = .read object ∨ access = .write object

theorem UsesOnly.freedAfter {object : Object} {log : List (Access Object)}
    (uses : UsesOnly object log) (freed : List Object) : freedAfter freed log = freed := by
  induction log with
  | nil => rfl
  | cons access log ih =>
      have ⟨here, later⟩ := List.forall_mem_cons.mp uses
      rw [freedAfter_cons]
      rcases here with rfl | rfl
      · exact ih later
      · exact ih later

theorem UsesOnly.safe {object : Object} {log : List (Access Object)}
    (uses : UsesOnly object log) {freed : List Object} (present : object ∉ freed) :
    Safe freed log := by
  induction log with
  | nil => trivial
  | cons access log ih =>
      have ⟨here, later⟩ := List.forall_mem_cons.mp uses
      rcases here with rfl | rfl
      · exact ⟨present, ih later⟩
      · exact ⟨present, ih later⟩

/-- Objects that are read and freed one after the other. -/
def drops (objects : List Object) : List (Access Object) :=
  objects.flatMap fun object => [.read object, .free object]

theorem free_mem_drops_iff (objects : List Object) (object : Object) :
    .free object ∈ drops objects ↔ object ∈ objects := by
  simp [drops]

/-- They have to be distinct, and none may have been freed before. -/
theorem safe_drops_iff (freed objects : List Object) :
    Safe freed (drops objects) ↔ objects.Nodup ∧ ∀ object ∈ objects, object ∉ freed := by
  induction objects generalizing freed with
  | nil => simp [drops]
  | cons object objects ih =>
      have unfolded : Safe freed (drops (object :: objects)) ↔
          object ∉ freed ∧ object ∉ freed ∧ Safe (object :: freed) (drops objects) := Iff.rfl
      rw [unfolded, ih, List.nodup_cons, List.forall_mem_cons]
      constructor
      · rintro ⟨-, present, distinct, fresh⟩
        refine ⟨⟨fun again => fresh object again List.mem_cons_self, distinct⟩, present, ?_⟩
        intro other member gone
        exact fresh other member (List.mem_cons_of_mem object gone)
      · rintro ⟨⟨once, distinct⟩, present, fresh⟩
        refine ⟨present, present, distinct, ?_⟩
        intro other member gone
        rcases List.mem_cons.mp gone with rfl | gone
        · exact once member
        · exact fresh other member gone

end NearRtRic.AccessLog
