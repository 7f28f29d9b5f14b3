import Mathlib.Tactic
import NearRtRic.Library.Buffer
import NearRtRic.Library.CInteger

/-! The buffer of a setup request, which grows until the encoding fits. -/

namespace NearRtRic.E2T.SetupEncoding

open Buffer CInteger

def RECEIVE_SCTP_BUFFER_SIZE : Nat := 256 * 1024

/-- The XER text of a PDU. Its length, and 128 more, are in the range of `ssize_t`. -/
structure Encoding where
  text : List Char
  plain : Plain text
  counted : text.length + 128 < 2 ^ 63

abbrev Allocation (size : Nat) := { memory : List Char // memory.length = size }

/-- What the encoder reports for the PDU, always the same, and how the allocations go: `none` for
-1 and for NULL. The calls of `realloc` are numbered. -/
structure Surroundings where
  encoding : Option Encoding
  calloc : Bool
  realloc : Nat → (size : Nat) → Option (Allocation size)

/-- `asn_encode_to_buffer`: the text is written as a whole if it does not exceed the size. What is
written of any other is not looked at. -/
def asn_encode_to_buffer (encoding : Encoding) (buffer : List Char) (buffer_size : Nat) :
    List Char :=
  if encoding.text.length ≤ buffer_size then memcpy buffer encoding.text else buffer

/-- What the loop keeps: `buffer_size` is an `int`. -/
structure Growing where
  buffer : List Char
  buffer_size : Int
  reallocs : Nat

inductive Outcome
  | returned
  /-- The terminator is written; `res` is the string at the buffer. -/
  | terminated (index size : Nat) (res : List Char)

def reallocated (reallocs : Nat) (buffer_size : Int)
    (newBuffer : Option (Allocation (toUnsigned 64 buffer_size))) : Outcome ⊕ Growing :=
  match newBuffer with
  | none => .inl .returned
  | some newBuffer =>
      .inr { buffer := newBuffer.1, buffer_size := buffer_size, reallocs := reallocs + 1 }

def turn (surroundings : Surroundings) (growing : Growing) : Outcome ⊕ Growing :=
  match surroundings.encoding with
  | none => .inl .returned
  | some encoding =>
      let buffer :=
        asn_encode_to_buffer encoding growing.buffer (toUnsigned 64 growing.buffer_size)
      let encoded : Int := encoding.text.length
      if encoded > growing.buffer_size then
        let buffer_size := toSigned 32 (encoded + 128)
        reallocated growing.reallocs buffer_size
          (surroundings.realloc growing.reallocs (toUnsigned 64 buffer_size))
      else
        .inl (.terminated encoding.text.length buffer.length
          (string (buffer.set encoding.text.length NUL)))

/-- The loop, as far as so many encodings take it. -/
def loop (surroundings : Surroundings) : Nat → Growing → Option Outcome
  | 0, _ => none
  | encodings + 1, growing =>
      match turn surroundings growing with
      | .inl outcome => some outcome
      | .inr grown => loop surroundings encodings grown

def buildAndSendSetupRequest (surroundings : Surroundings) (encodings : Nat) : Option Outcome :=
  let buffer_size := RECEIVE_SCTP_BUFFER_SIZE * 2
  if surroundings.calloc then
    loop surroundings encodings
      { buffer := zeroed buffer_size, buffer_size := buffer_size, reallocs := 0 }
  else some .returned

def Outcome.Whole (surroundings : Surroundings) : Outcome → Prop
  | .returned => True
  | .terminated index size res =>
      index < size ∧ ∃ encoding, surroundings.encoding = some encoding ∧ res = encoding.text

/-- After at most two encodings the loop has ended, and inside its buffer. -/
def EndsInside (surroundings : Surroundings) : Prop :=
  ∃ outcome, buildAndSendSetupRequest surroundings 2 = some outcome ∧ outcome.Whole surroundings

def Encoding.asked (encoding : Encoding) : Int :=
  toSigned 32 (encoding.text.length + 128)

/-- An encoding that fits at once with its terminator, or that a buffer can be grown for: its
length and 128 more are in the range of `int`, or the memory for what is asked instead is refused
on the first or the second time. -/
def Manageable (surroundings : Surroundings) (encoding : Encoding) : Prop :=
  encoding.text.length < 524288 ∨
    (524288 < encoding.text.length ∧
      (encoding.text.length + 128 < 2 ^ 31 ∨
        surroundings.realloc 0 (toUnsigned 64 encoding.asked) = none ∨
        surroundings.realloc 1 (toUnsigned 64 encoding.asked) = none))

theorem asked_of_small {encoding : Encoding} (small : encoding.text.length + 128 < 2 ^ 31) :
    encoding.asked = encoding.text.length + 128 :=
  toSigned_of_range (by omega) (by omega)

theorem asked_of_large {encoding : Encoding} (large : 2 ^ 31 ≤ encoding.text.length + 128) :
    encoding.asked < encoding.text.length := by
  rw [Encoding.asked, toSigned, Int.bmod_def]
  push_cast
  omega

/-! One turn, by how the encoding compares with the size. -/

section Turn

variable {surroundings : Surroundings} {encoding : Encoding} {growing : Growing}

theorem string_terminated (plain : Plain encoding.text) {buffer : List Char}
    (room : encoding.text.length < buffer.length) :
    string ((memcpy buffer encoding.text).set encoding.text.length NUL) = encoding.text := by
  refine string_of_holds plain ⟨buffer.drop (encoding.text.length + 1), ?_⟩
  rw [memcpy, List.set_append_right _ _ (le_refl _), Nat.sub_self,
    List.drop_eq_getElem_cons room, List.set_cons_zero, List.append_assoc]
  rfl

theorem turn_of_fits (reported : surroundings.encoding = some encoding)
    (fits : (encoding.text.length : Int) ≤ growing.buffer_size)
    (allocated : (growing.buffer.length : Int) = growing.buffer_size)
    (counted : growing.buffer_size < 2 ^ 31) :
    ∃ res, turn surroundings growing =
        .inl (.terminated encoding.text.length growing.buffer.length res) ∧
      (encoding.text.length < growing.buffer.length → res = encoding.text) := by
  have given : (toUnsigned 64 growing.buffer_size : Int) = growing.buffer_size :=
    toUnsigned_of_range (by omega) (by omega)
  have room : encoding.text.length ≤ toUnsigned 64 growing.buffer_size := by omega
  have encoded : asn_encode_to_buffer encoding growing.buffer
      (toUnsigned 64 growing.buffer_size) = memcpy growing.buffer encoding.text := if_pos room
  have size : (memcpy growing.buffer encoding.text).length = growing.buffer.length := by
    rw [memcpy_length]
    omega
  refine ⟨string ((memcpy growing.buffer encoding.text).set encoding.text.length NUL), ?_, ?_⟩
  · rw [turn, reported]
    simp only [gt_iff_lt, if_neg (not_lt.mpr fits), encoded, size]
  · exact string_terminated encoding.plain

theorem turn_of_exceeds (reported : surroundings.encoding = some encoding)
    (exceeds : growing.buffer_size < encoding.text.length) :
    turn surroundings growing = reallocated growing.reallocs encoding.asked
      (surroundings.realloc growing.reallocs (toUnsigned 64 encoding.asked)) := by
  rw [turn, reported]
  exact if_pos exceeds

theorem turn_of_refused (reported : surroundings.encoding = some encoding)
    (exceeds : growing.buffer_size < encoding.text.length)
    (refused : surroundings.realloc growing.reallocs (toUnsigned 64 encoding.asked) = none) :
    turn surroundings growing = .inl .returned := by
  rw [turn_of_exceeds reported exceeds, refused]
  rfl

theorem turn_of_grown (reported : surroundings.encoding = some encoding)
    (exceeds : growing.buffer_size < encoding.text.length)
    {newBuffer : Allocation (toUnsigned 64 encoding.asked)}
    (granted : surroundings.realloc growing.reallocs (toUnsigned 64 encoding.asked) =
      some newBuffer) :
    turn surroundings growing =
      .inr { buffer := newBuffer.1, buffer_size := encoding.asked,
             reallocs := growing.reallocs + 1 } := by
  rw [turn_of_exceeds reported exceeds, granted]
  rfl

theorem turn_of_small (reported : surroundings.encoding = some encoding)
    (small : encoding.text.length + 128 < 2 ^ 31)
    (newBuffer : Allocation (toUnsigned 64 encoding.asked)) (reallocs : Nat) :
    turn surroundings
        { buffer := newBuffer.1, buffer_size := encoding.asked, reallocs := reallocs } =
      .inl (.terminated encoding.text.length (encoding.text.length + 128) encoding.text) := by
  have asked := asked_of_small small
  have size : (toUnsigned 64 encoding.asked : Int) = encoding.asked :=
    toUnsigned_of_range (by omega) (by omega)
  have length : newBuffer.1.length = encoding.text.length + 128 := by
    rw [newBuffer.2]
    omega
  let grown : Growing :=
    { buffer := newBuffer.1, buffer_size := encoding.asked, reallocs := reallocs }
  have fits : (encoding.text.length : Int) ≤ grown.buffer_size := by
    change _ ≤ encoding.asked
    omega
  have allocated : (grown.buffer.length : Int) = grown.buffer_size := by
    change (newBuffer.1.length : Int) = encoding.asked
    omega
  have counted : grown.buffer_size < 2 ^ 31 := by
    change encoding.asked < _
    omega
  rcases turn_of_fits reported fits allocated counted with ⟨res, ended, whole⟩
  have room : encoding.text.length < grown.buffer.length := by
    change _ < newBuffer.1.length
    omega
  rw [ended, whole room]
  change Sum.inl (Outcome.terminated _ newBuffer.1.length _) = _
  rw [length]

end Turn

theorem loop_of_ended {surroundings : Surroundings} {growing : Growing} {outcome : Outcome}
    (ended : turn surroundings growing = .inl outcome) (encodings : Nat) :
    loop surroundings (encodings + 1) growing = some outcome := by
  rw [loop, ended]

theorem loop_of_grown {surroundings : Surroundings} {growing grown : Growing}
    (goesOn : turn surroundings growing = .inr grown) (encodings : Nat) :
    loop surroundings (encodings + 1) growing = loop surroundings encodings grown := by
  rw [loop, goesOn]

def entered : Growing where
  buffer := zeroed (RECEIVE_SCTP_BUFFER_SIZE * 2)
  buffer_size := (RECEIVE_SCTP_BUFFER_SIZE * 2 : Nat)
  reallocs := 0

theorem entered_size : entered.buffer_size = 524288 ∧ entered.buffer.length = 524288 :=
  ⟨rfl, List.length_replicate⟩

section Run

variable {surroundings : Surroundings} {encoding : Encoding}

theorem buildAndSendSetupRequest_eq (allocated : surroundings.calloc = true) (encodings : Nat) :
    buildAndSendSetupRequest surroundings encodings = loop surroundings encodings entered := by
  rw [buildAndSendSetupRequest, if_pos allocated]
  rfl

theorem endsInside_of_fits (allocated : surroundings.calloc = true)
    (reported : surroundings.encoding = some encoding)
    (fits : encoding.text.length ≤ 524288) :
    EndsInside surroundings ↔ encoding.text.length < 524288 := by
  rcases entered_size with ⟨size, length⟩
  rcases turn_of_fits reported (by rw [size]; omega) (by rw [size, length]; rfl)
    (by rw [size]; norm_num) with ⟨res, ended, whole⟩
  rw [length] at ended whole
  have run := loop_of_ended ended 1
  rw [EndsInside, buildAndSendSetupRequest_eq allocated, run]
  constructor
  · rintro ⟨outcome, same, inside⟩
    rw [← Option.some.inj same] at inside
    exact inside.1
  · intro shorter
    exact ⟨_, rfl, shorter, encoding, reported, whole shorter⟩

theorem endsInside_of_exceeds (allocated : surroundings.calloc = true)
    (reported : surroundings.encoding = some encoding)
    (exceeds : 524288 < encoding.text.length) :
    EndsInside surroundings ↔ encoding.text.length + 128 < 2 ^ 31 ∨
      surroundings.realloc 0 (toUnsigned 64 encoding.asked) = none ∨
      surroundings.realloc 1 (toUnsigned 64 encoding.asked) = none := by
  have beyond : entered.buffer_size < encoding.text.length := by
    rw [entered_size.1]
    omega
  rw [EndsInside, buildAndSendSetupRequest_eq allocated]
  cases first : surroundings.realloc 0 (toUnsigned 64 encoding.asked) with
  | none =>
      rw [loop_of_ended (turn_of_refused reported beyond first)]
      exact iff_of_true ⟨_, rfl, trivial⟩ (.inr (.inl rfl))
  | some newBuffer =>
      rw [loop_of_grown (turn_of_grown reported beyond first)]
      by_cases small : encoding.text.length + 128 < 2 ^ 31
      · rw [loop_of_ended (turn_of_small reported small newBuffer _)]
        refine iff_of_true ⟨_, rfl, ?_⟩ (.inl small)
        exact ⟨by omega, encoding, reported, rfl⟩
      have larger : encoding.asked < encoding.text.length := asked_of_large (by omega)
      cases second : surroundings.realloc 1 (toUnsigned 64 encoding.asked) with
      | none =>
          rw [loop_of_ended (turn_of_refused reported larger second)]
          exact iff_of_true ⟨_, rfl, trivial⟩ (.inr (.inr rfl))
      | some another =>
          rw [loop_of_grown (turn_of_grown reported larger second)]
          refine iff_of_false ?_ ?_
          · rintro ⟨outcome, ended, -⟩
            cases ended
          · rintro (fits | refused | refused)
            · exact small fits
            · cases refused
            · cases refused

/-- Where the memory is always granted, an encoding out of the range of `int` is encoded again and
again. -/
theorem never_ends (allocated : surroundings.calloc = true)
    (reported : surroundings.encoding = some encoding)
    (large : 2 ^ 31 ≤ encoding.text.length + 128)
    (granted : ∀ reallocs, surroundings.realloc reallocs (toUnsigned 64 encoding.asked) ≠ none)
    (encodings : Nat) : buildAndSendSetupRequest surroundings encodings = none := by
  have start : entered.buffer_size < encoding.text.length := by
    rw [entered_size.1]
    omega
  rw [buildAndSendSetupRequest_eq allocated]
  generalize entered = growing at start
  -- every turn leaves a size that is too small, so that the next one grows the buffer again
  induction encodings generalizing growing with
  | zero => rfl
  | succ encodings ih =>
      rcases Option.ne_none_iff_exists'.mp (granted growing.reallocs) with ⟨newBuffer, grown⟩
      rw [loop_of_grown (turn_of_grown reported start grown)]
      exact ih _ (asked_of_large large)

end Run

/-- The loop ends after at most two encodings and inside its buffer just when the encoding, if
there is one and memory for it, is manageable. -/
theorem endsInside_iff (surroundings : Surroundings) :
    EndsInside surroundings ↔
      (surroundings.calloc = true → ∀ encoding, surroundings.encoding = some encoding →
        Manageable surroundings encoding) := by
  cases allocated : surroundings.calloc with
  | false =>
      refine iff_of_true ⟨.returned, ?_, trivial⟩ (by simp)
      rw [buildAndSendSetupRequest, allocated]
      rfl
  | true =>
      cases reported : surroundings.encoding with
      | none =>
          have ended : turn surroundings entered = .inl .returned := by rw [turn, reported]
          refine iff_of_true ⟨.returned, ?_, trivial⟩ (by simp)
          rw [buildAndSendSetupRequest_eq allocated, loop_of_ended ended]
      | some encoding =>
          simp only [forall_const, Option.some.injEq, forall_eq']
          rw [Manageable]
          by_cases fits : encoding.text.length ≤ 524288
          · rw [endsInside_of_fits allocated reported fits]
            omega
          · have exceeds : 524288 < encoding.text.length := not_le.mp fits
            rw [endsInside_of_exceeds allocated reported exceeds]
            simp [exceeds, not_lt.mpr exceeds.le]

def filling : Encoding where
  text := List.replicate 524288 'a'
  plain := fun char member => by rw [List.eq_of_mem_replicate member]; decide
  counted := by rw [List.length_replicate]; decide

def fillingSurroundings : Surroundings where
  encoding := some filling
  calloc := true
  realloc := fun _ _ => none

/-- The terminator of an encoding that fills the first buffer is written behind it. -/
theorem filling_ended_behind :
    (∃ res, buildAndSendSetupRequest fillingSurroundings 2 =
        some (.terminated 524288 524288 res)) ∧
      ¬ EndsInside fillingSurroundings := by
  have length : filling.text.length = 524288 := List.length_replicate
  have reported : fillingSurroundings.encoding = some filling := rfl
  rcases entered_size with ⟨size, buffer⟩
  constructor
  · rcases turn_of_fits reported (by rw [size, length]; rfl) (by rw [size, buffer]; rfl)
      (by rw [size]; norm_num) with ⟨res, ended, -⟩
    rw [length, buffer] at ended
    exact ⟨res, (buildAndSendSetupRequest_eq rfl 2).trans (loop_of_ended ended 1)⟩
  · rw [endsInside_of_fits rfl reported length.le, length]
    exact lt_irrefl _

end NearRtRic.E2T.SetupEncoding
