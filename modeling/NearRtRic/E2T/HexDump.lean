import Mathlib.Tactic
import NearRtRic.E2T.SetupEncoding
import NearRtRic.Library.FixedArray

/-! The dump of a message that is read from an SCTP connection, in hexadecimal digits, which is
written at the debug level. -/

namespace NearRtRic.E2T.HexDump

open CMemory FixedArray SetupEncoding

def nul : Char := Char.ofNat 0

def highDigit (octet : UInt8) : Char := Nat.digitChar (octet.toNat / 16)

def lowDigit (octet : UInt8) : Char := Nat.digitChar (octet.toNat % 16)

section Buffers

variable {capacity : ℕ}

/-- `snprintf(tmp, 3, "%02x", octet)`, with its terminator, and `tmp += 2`. A write behind the
buffer is a fault. -/
def printOctet (state : Vector Char capacity × ℕ) (octet : UInt8) :
    Run (Vector Char capacity × ℕ) := do
  let buffer ← store state.1 state.2 (highDigit octet)
  let buffer ← store buffer (state.2 + 1) (lowDigit octet)
  let buffer ← store buffer (state.2 + 2) nul
  pure (buffer, state.2 + 2)

/-- The loop over the message in a buffer of zeros, and the terminator at its length. -/
def printBuffer (capacity : ℕ) (data : List UInt8) : Run (Vector Char capacity) := do
  let printed ← data.foldlM printOctet (Vector.replicate capacity nul, 0)
  store printed.1 data.length nul

def cString (buffer : Vector Char capacity) : List Char := buffer.toList.takeWhile (· != nul)

end Buffers

def hexText (data : List UInt8) : List Char :=
  data.flatMap fun octet => [highDigit octet, lowDigit octet]

/-- Each write is in the buffer, and the string that is dumped is the text of all octets. -/
def DumpsWhole (data : List UInt8) : Prop :=
  ∃ buffer, printBuffer RECEIVE_SCTP_BUFFER_SIZE data = .ok buffer ∧ cString buffer = hexText data

section Loop

variable {capacity : ℕ} {buffer : Vector Char capacity} {text : List Char} {data : List UInt8}

structure Holds (buffer : Vector Char capacity) (text : List Char) : Prop where
  fits : text.length ≤ capacity
  toList_eq : buffer.toList = text ++ List.replicate (capacity - text.length) nul

theorem holds_nil (capacity : ℕ) : Holds (Vector.replicate capacity nul) [] where
  fits := Nat.zero_le capacity
  toList_eq := by simp

theorem printOctet_inside (holds : Holds buffer text) (inside : text.length + 2 < capacity)
    (octet : UInt8) :
    ∃ printed, printOctet (buffer, text.length) octet = .ok (printed, text.length + 2) ∧
      Holds printed (text ++ [highDigit octet, lowDigit octet]) := by
  have first : text.length < capacity := by omega
  have second : text.length + 1 < capacity := by omega
  refine ⟨((buffer.set text.length (highDigit octet)).set (text.length + 1)
    (lowDigit octet)).set (text.length + 2) nul, ?_, ?_, ?_⟩
  · rw [printOctet, store_inside first, bind_ok, store_inside second, bind_ok, store_inside inside,
      bind_ok]
    rfl
  · rw [List.length_append]
    exact Nat.le_of_lt inside
  · rcases Nat.exists_eq_add_of_lt inside with ⟨room, hroom⟩
    have behind : capacity - text.length = room + 3 := by omega
    have left : capacity - (text ++ [highDigit octet, lowDigit octet]).length = room + 1 := by
      rw [List.length_append]
      simp only [List.length_cons, List.length_nil]
      omega
    rw [Vector.toList_set, Vector.toList_set, Vector.toList_set, holds.toList_eq, behind, left]
    simp [List.replicate_succ]

theorem printOctet_outside (outside : ¬ text.length + 2 < capacity) (octet : UInt8) :
    printOctet (buffer, text.length) octet = .error .fault := by
  rw [printOctet]
  by_cases first : text.length < capacity
  · rw [store_inside first, bind_ok]
    by_cases second : text.length + 1 < capacity
    · rw [store_inside second, bind_ok, store, dif_neg outside, bind_error]
    · rw [store, dif_neg second, bind_error]
  · rw [store, dif_neg first, bind_error]

theorem length_hexText (data : List UInt8) : (hexText data).length = 2 * data.length := by
  induction data with
  | nil => rfl
  | cons octet data ih =>
      rw [hexText, List.flatMap_cons, List.length_append, ← hexText, ih, List.length_cons]
      simp only [List.length_cons, List.length_nil]
      omega

example : hexText [0x2a, 0x07] = ['2', 'a', '0', '7'] := by decide

theorem printed_of_inside (holds : Holds buffer text)
    (inside : data = [] ∨ text.length + 2 * data.length < capacity) :
    ∃ printed, data.foldlM printOctet (buffer, text.length) =
        .ok (printed, text.length + 2 * data.length) ∧
      Holds printed (text ++ hexText data) := by
  induction data generalizing buffer text with
  | nil =>
      refine ⟨buffer, rfl, ?_⟩
      rw [hexText, List.flatMap_nil, List.append_nil]
      exact holds
  | cons octet data ih =>
      have room : text.length + 2 * (data.length + 1) < capacity := inside.resolve_left (by simp)
      rcases printOctet_inside holds (by omega) octet with ⟨next, hnext, holds'⟩
      have length : (text ++ [highDigit octet, lowDigit octet]).length = text.length + 2 := by
        rw [List.length_append]
        rfl
      rcases ih holds' (.inr (by omega)) with ⟨printed, hprinted, hholds⟩
      rw [length] at hprinted
      refine ⟨printed, ?_, ?_⟩
      · rw [List.foldlM_cons, hnext, bind_ok, hprinted, List.length_cons]
        congr 2
        omega
      · rwa [List.append_assoc] at hholds

theorem fault_of_outside (holds : Holds buffer text) (nonempty : data ≠ [])
    (outside : capacity ≤ text.length + 2 * data.length) :
    data.foldlM printOctet (buffer, text.length) = .error .fault := by
  induction data generalizing buffer text with
  | nil => exact absurd rfl nonempty
  | cons octet data ih =>
      rw [List.length_cons] at outside
      rw [List.foldlM_cons]
      by_cases inside : text.length + 2 < capacity
      · rcases printOctet_inside holds inside octet with ⟨next, hnext, holds'⟩
        have length : (text ++ [highDigit octet, lowDigit octet]).length = text.length + 2 := by
          rw [List.length_append]
          rfl
        have more : data ≠ [] := by
          rintro rfl
          simp only [List.length_nil] at outside
          omega
        have later := ih holds' more (by omega)
        rw [length] at later
        rw [hnext, bind_ok, later]
      · rw [printOctet_outside inside, bind_error]

theorem ne_nul_of_lt {digit : ℕ} (small : digit < 16) : (Nat.digitChar digit != nul) = true := by
  have each : ∀ digit < 16, (Nat.digitChar digit != nul) = true := by decide
  exact each digit small

theorem hexText_ne_nul (data : List UInt8) : ∀ char ∈ hexText data, (char != nul) = true := by
  intro char member
  rcases List.mem_flatMap.mp member with ⟨octet, -, written⟩
  have bounded := octet.toNat_lt
  rcases List.mem_pair.mp written with rfl | rfl
  · exact ne_nul_of_lt (by omega)
  · exact ne_nul_of_lt (by omega)

theorem cString_set {index : ℕ} (holds : Holds buffer text)
    (printable : ∀ char ∈ text, (char != nul) = true) (within : index ≤ text.length)
    (inside : index < capacity) : cString (buffer.set index nul) = text.take index := by
  have front : (text.take index).length = index := List.length_take_of_le within
  have room : 0 < (text.drop index ++ List.replicate (capacity - text.length) nul).length := by
    rw [List.length_append, List.length_drop, List.length_replicate]
    omega
  rcases List.exists_cons_of_length_pos room with ⟨char, behind, hbehind⟩
  calc
    cString (buffer.set index nul) =
        ((text ++ List.replicate (capacity - text.length) nul).set index nul).takeWhile
          (· != nul) := by rw [cString, Vector.toList_set, holds.toList_eq]
    _ = ((text.take index ++ char :: behind).set index nul).takeWhile (· != nul) := by
      rw [← hbehind, ← List.append_assoc, List.take_append_drop]
    _ = (text.take index ++ nul :: behind).takeWhile (· != nul) := by
      rw [List.set_append_right _ _ front.le, front, Nat.sub_self, List.set_cons_zero]
    _ = text.take index ++ (nul :: behind).takeWhile (· != nul) :=
      List.takeWhile_append_of_pos fun char member => printable char (List.mem_of_mem_take member)
    _ = text.take index := by
      rw [List.takeWhile_cons_of_neg (by simp), List.append_nil]

end Loop

section Dump

variable {capacity : ℕ} {data : List UInt8}

/-- In a buffer that has room for it, the dump is the first half of the text. -/
theorem printBuffer_inside (room : 2 * data.length < capacity) :
    ∃ buffer, printBuffer capacity data = .ok buffer ∧
      cString buffer = (hexText data).take data.length := by
  have enough : ([] : List Char).length + 2 * data.length < capacity := by
    rwa [List.length_nil, Nat.zero_add]
  rcases printed_of_inside (holds_nil capacity) (.inr enough) with ⟨printed, hprinted, holds⟩
  have inside : data.length < capacity := by omega
  have within : data.length ≤ (hexText data).length := by
    rw [length_hexText]
    omega
  refine ⟨printed.set data.length nul, ?_, ?_⟩
  · rw [List.length_nil] at hprinted
    rw [printBuffer, hprinted, bind_ok, store_inside inside]
  · exact cString_set holds (hexText_ne_nul data) within inside

theorem printBuffer_outside (nonempty : data ≠ []) (full : capacity ≤ 2 * data.length) :
    printBuffer capacity data = .error .fault := by
  have faulty := fault_of_outside (holds_nil capacity) nonempty (by simpa using full)
  rw [List.length_nil] at faulty
  rw [printBuffer, faulty, bind_error]

/-- The exact bound of the messages whose dump stays in the buffer. -/
theorem printBuffer_stays_iff (nonempty : data ≠ []) :
    (∃ buffer, printBuffer capacity data = .ok buffer) ↔ 2 * data.length < capacity := by
  constructor
  · intro stays
    rcases stays with ⟨buffer, printed⟩
    by_contra full
    rw [printBuffer_outside nonempty (Nat.le_of_not_lt full)] at printed
    cases printed
  · intro room
    rcases printBuffer_inside room with ⟨buffer, printed, -⟩
    exact ⟨buffer, printed⟩

theorem take_ne_hexText (nonempty : data ≠ []) :
    (hexText data).take data.length ≠ hexText data := by
  intro same
  have positive : 0 < data.length := List.length_pos_iff.mpr nonempty
  have lengths := congrArg List.length same
  rw [List.length_take, length_hexText] at lengths
  omega

theorem not_dumpsWhole (nonempty : data ≠ []) : ¬ DumpsWhole data := by
  intro dumped
  rcases dumped with ⟨buffer, printed, whole⟩
  have room := (printBuffer_stays_iff nonempty).mp ⟨buffer, printed⟩
  rcases printBuffer_inside room with ⟨other, hother, half⟩
  obtain rfl : buffer = other := by
    rw [printed] at hother
    cases hother
    rfl
  exact take_ne_hexText nonempty (half.symm.trans whole)

end Dump

/-- What `read` returns into the receive buffer. -/
structure Message where
  data : List UInt8
  received : data ≠ []
  fits : data.length ≤ RECEIVE_SCTP_BUFFER_SIZE

/-- The dump is in its buffer for the messages below half its size, and is never the text of the
whole message. -/
theorem dump_never_whole (message : Message) :
    ((∃ buffer, printBuffer RECEIVE_SCTP_BUFFER_SIZE message.data = .ok buffer) ↔
      2 * message.data.length < RECEIVE_SCTP_BUFFER_SIZE) ∧ ¬ DumpsWhole message.data :=
  ⟨printBuffer_stays_iff message.received, not_dumpsWhole message.received⟩

def oneOctet : Message where
  data := [0x2a]
  received := by decide
  fits := by decide

/-- Of the one octet `2a`, the dump has the digit `2`. -/
theorem oneOctet_halved : ¬ DumpsWhole oneOctet.data ∧
    ∃ buffer, printBuffer RECEIVE_SCTP_BUFFER_SIZE oneOctet.data = .ok buffer ∧
      cString buffer = ['2'] :=
  ⟨not_dumpsWhole oneOctet.received, printBuffer_inside (by decide)⟩

end NearRtRic.E2T.HexDump
