import Mathlib.Data.List.TakeWhile
import Mathlib.Tactic

/-! Character arrays of C: a block of memory whose string ends at the first NUL. -/

namespace NearRtRic.Buffer

def NUL : Char := '\x00'

/-- What `%s` prints and `strlen` counts: the characters before the first NUL. -/
def string (memory : List Char) : List Char :=
  memory.takeWhile (· ≠ NUL)

/-- `memcpy(memory, bytes, n)` of all `n` bytes given. -/
def memcpy (memory bytes : List Char) : List Char :=
  bytes ++ memory.drop bytes.length

/-- `snprintf(memory, size, ...)` of an already formatted text: at most `size - 1` characters
and a NUL. -/
def snprintf (memory : List Char) (size : Nat) (text : List Char) : List Char :=
  memcpy memory (text.take (size - 1) ++ [NUL])

/-- `strcat(memory, text)`: the text and a NUL behind the string of the memory. -/
def strcat (memory text : List Char) : List Char :=
  memcpy memory (string memory ++ text ++ [NUL])

/-- `memset(memory, 0, size)` over the whole array. -/
def zeroed (size : Nat) : List Char :=
  List.replicate size NUL

/-- An array of the given size that holds a text and is zero after it. -/
def padded (size : Nat) (text : List Char) : List Char :=
  text ++ zeroed (size - text.length)

/-- The memory starts with the text and the NUL that ends it. -/
def Holds (memory text : List Char) : Prop :=
  text ++ [NUL] <+: memory

def Plain (text : List Char) : Prop :=
  ∀ char ∈ text, char ≠ NUL

instance (text : List Char) : Decidable (Plain text) :=
  -- named, since search may find the instance that goes through every character there is
  List.decidableBAll _ text

instance (memory text : List Char) : Decidable (Holds memory text) :=
  inferInstanceAs (Decidable (text ++ [NUL] <+: memory))

theorem Plain.append {first second : List Char} (plainFirst : Plain first)
    (plainSecond : Plain second) : Plain (first ++ second) := by
  intro char member
  rcases List.mem_append.mp member with found | found
  · exact plainFirst char found
  · exact plainSecond char found

theorem Plain.take {text : List Char} (plain : Plain text) (count : Nat) :
    Plain (text.take count) :=
  fun char member => plain char (List.mem_of_mem_take member)

theorem plain_string (memory : List Char) : Plain (string memory) := by
  intro char member
  simpa using List.mem_takeWhile_imp member

theorem memcpy_length (memory bytes : List Char) :
    (memcpy memory bytes).length = max memory.length bytes.length := by
  rw [memcpy, List.length_append, List.length_drop]
  omega

theorem string_of_holds {memory text : List Char} (plain : Plain text)
    (holds : Holds memory text) : string memory = text := by
  obtain ⟨rest, rfl⟩ := holds
  have ended : text ++ [NUL] ++ rest = text ++ NUL :: rest := by simp
  rw [string, ended, List.takeWhile_append_of_pos (by simpa [Plain] using plain)]
  simp

theorem string_snprintf {memory text : List Char} {limit : Nat} (plain : Plain text) :
    string (snprintf memory limit text) = text.take (limit - 1) :=
  string_of_holds (plain.take _) ⟨memory.drop _, rfl⟩

@[simp] theorem zeroed_length (size : Nat) : (zeroed size).length = size :=
  List.length_replicate

@[simp] theorem padded_nil (size : Nat) : padded size [] = zeroed size := by
  simp [padded]

theorem holds_padded {size : Nat} {text : List Char} (room : text.length < size) :
    Holds (padded size text) text := by
  obtain ⟨left, enough⟩ : ∃ left, size - text.length = left + 1 :=
    ⟨size - text.length - 1, by omega⟩
  refine ⟨zeroed left, ?_⟩
  rw [padded, enough, zeroed, zeroed, List.replicate_succ, List.append_assoc]
  rfl

/-- The string of a zero-filled array is its text, whether or not a NUL fits after it. -/
@[simp] theorem string_padded {size : Nat} {text : List Char} (plain : Plain text) :
    string (padded size text) = text := by
  rw [string, padded, List.takeWhile_append_of_pos (by simpa [Plain] using plain)]
  cases size - text.length with
  | zero => simp [zeroed]
  | succ left => simp [zeroed, List.replicate_succ]

theorem padded_getElem?_iff {size index : Nat} {text : List Char} (plain : Plain text)
    (within : index < size) : (padded size text)[index]? = some NUL ↔ text.length ≤ index := by
  by_cases inside : index < text.length
  · have char := plain text[index] (List.getElem_mem inside)
    rw [padded, List.getElem?_append_left inside, List.getElem?_eq_getElem inside]
    simp only [Option.some.injEq, char, false_iff]
    omega
  · have past : text.length ≤ index := not_lt.mp inside
    rw [padded, List.getElem?_append_right past, zeroed, List.getElem?_replicate,
      if_pos (by omega)]
    simp only [past]

/-- A text that is copied without its NUL is ended by what was there before, if at all. -/
theorem holds_memcpy_iff (memory text : List Char) :
    Holds (memcpy memory text) text ↔ memory[text.length]? = some NUL := by
  rw [Holds, memcpy, List.prefix_append_right_inj, ← List.head?_drop]
  cases memory.drop text.length with
  | nil => simp
  | cons next rest => simp [eq_comm]

theorem memcpy_padded {size : Nat} {text bytes : List Char} (longer : text.length ≤ bytes.length)
    (room : bytes.length ≤ size) : memcpy (padded size text) bytes = padded size bytes := by
  have past : (padded size text).drop bytes.length = zeroed (size - bytes.length) := by
    rw [padded, List.drop_append, List.drop_of_length_le longer, zeroed, List.drop_replicate,
      List.nil_append, zeroed]
    congr 1
    omega
  rw [memcpy, past, padded]

theorem snprintf_zeroed {size limit : Nat} {text : List Char} (positive : 0 < limit)
    (room : limit ≤ size) :
    snprintf (zeroed size) limit text = padded size (text.take (limit - 1)) := by
  have written : (text.take (limit - 1)).length < size := by
    rw [List.length_take]
    omega
  have zeros : zeroed (size - (text.take (limit - 1)).length) =
      NUL :: zeroed (size - ((text.take (limit - 1)).length + 1)) := by
    rw [zeroed, zeroed, ← List.replicate_succ]
    congr 1
    omega
  rw [snprintf, memcpy, padded, zeros, zeroed, List.drop_replicate, List.length_append]
  simp [zeroed]

theorem snprintf_length {size : Nat} (positive : 0 < size) (text : List Char) :
    (snprintf (zeroed size) size text).length = size := by
  rw [snprintf, memcpy_length, zeroed_length, List.length_append, List.length_take,
    List.length_singleton]
  omega

end NearRtRic.Buffer
