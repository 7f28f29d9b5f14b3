import NearRtRic.Kpimon.CellAttribution

/-! When the numbers that are parsed from octets are those that the octets denote. -/

namespace NearRtRic.Kpimon

open NearRtRic.CMemory HeaderConsumer

/-- `buffer[index : index+1]`, which panics out of range. -/
def octetAt (buffer : List UInt8) (index : Int) : Run UInt8 :=
  if 0 ≤ index then byteAt buffer index.toNat else .error .fault

/-- A loop over the indices from `index` on, for `turns` turns. -/
def accumulate (buffer : List UInt8) : Nat → Int → Int → Run Int
  | 0, _, value => pure value
  | turns + 1, index, value => do
      let octet ← octetAt buffer index
      accumulate buffer turns (index + 1) (appendOctet value octet)

/-- The error that is returned is always nil. -/
def parseTimestamp (buffer : List UInt8) (size : Int) : Run Timestamp := do
  let sec ← accumulate buffer (size - 8).toNat 0 0
  let nsec ← accumulate buffer (size - (size - 8)).toNat (size - 8) 0
  pure { tVsec := sec, tVnsec := nsec }

section Accumulation

variable {buffer octets : List UInt8}

theorem appendOctet_bmod (value : Nat) (octet : UInt8) :
    appendOctet ((value : Int).bmod (2 ^ 64)) octet =
      ((value * 256 + octet.toNat : Nat) : Int).bmod (2 ^ 64) := by
  calc appendOctet ((value : Int).bmod (2 ^ 64)) octet
      = (((value : Int).bmod (2 ^ 64) * 256).bmod (2 ^ 64) + octet.toNat).bmod (2 ^ 64) := by
        rw [appendOctet, Int.bmod_add_bmod]
    _ = ((value : Int) * 256 + octet.toNat).bmod (2 ^ 64) := by
        rw [Int.bmod_mul_bmod, Int.bmod_add_bmod]
    _ = ((value * 256 + octet.toNat : Nat) : Int).bmod (2 ^ 64) := by
        push_cast
        rfl

theorem foldl_appendOctet (octets : List UInt8) (value : Nat) :
    octets.foldl appendOctet ((value : Int).bmod (2 ^ 64)) =
      ((octets.foldl (fun value octet => value * 256 + octet.toNat) value : Nat) : Int).bmod
        (2 ^ 64) := by
  induction octets generalizing value with
  | nil => rw [List.foldl_nil, List.foldl_nil]
  | cons octet octets ih => rw [List.foldl_cons, List.foldl_cons, appendOctet_bmod, ih]

theorem accumulated_eq (octets : List UInt8) :
    octets.foldl appendOctet 0 = (bigEndian octets : Int).bmod (2 ^ 64) := by
  have start := foldl_appendOctet octets 0
  rwa [Int.ofNat_zero, Int.zero_bmod] at start

theorem bmod_exact_iff (value : Nat) : (value : Int).bmod (2 ^ 64) = value ↔ value < 2 ^ 63 := by
  constructor
  · intro exact
    have bound : (value : Int).bmod (2 ^ 64) < ((2 ^ 64 : Nat) + 1) / 2 :=
      Int.bmod_lt (by decide)
    rw [exact] at bound
    norm_num at bound
    omega
  · intro small
    have below : (value : Int) < 2 ^ 63 := by exact_mod_cast small
    apply Int.bmod_eq_of_le
    · push_cast
      omega
    · push_cast
      omega

theorem accumulated_exact_iff (octets : List UInt8) :
    octets.foldl appendOctet 0 = (bigEndian octets : Int) ↔ bigEndian octets < 2 ^ 63 := by
  rw [accumulated_eq, bmod_exact_iff]

end Accumulation

section Outcomes

variable {Value : Type} {value exact : Value}

theorem error_or_exact_of_ok :
    ((∃ message, (.ok value : Run Value) = .error (.error message)) ∨
      (.ok value : Run Value) = .ok exact) ↔ value = exact := by
  constructor
  · intro result
    rcases result with ⟨message, failed⟩ | same
    · cases failed
    · exact Except.ok.inj same
  · intro same
    exact .inr (congrArg Except.ok same)

theorem not_error_or_exact_of_fault :
    ¬ ((∃ message, (.error .fault : Run Value) = .error (.error message)) ∨
      (.error .fault : Run Value) = .ok exact) := by
  intro result
  rcases result with ⟨message, failed⟩ | same
  · cases failed
  · cases same

end Outcomes

/-- An error, or the number that the octets denote. -/
def IntegerExact (buffer : List UInt8) : Prop :=
  (∃ message, parseInteger buffer buffer.length = .error (.error message)) ∨
    parseInteger buffer buffer.length = .ok (bigEndian buffer : Int)

theorem parseInteger_whole (buffer : List UInt8) :
    parseInteger buffer buffer.length = .ok (buffer.foldl appendOctet 0) := by
  rw [parseInteger, if_pos (Int.le_refl _), Int.toNat_natCast, List.take_length]
  rfl

/-- `ParseInteger` is exact exactly for the numbers of an `int64`, and fails for none. -/
theorem parseInteger_exact_iff (buffer : List UInt8) :
    IntegerExact buffer ↔ bigEndian buffer < 2 ^ 63 := by
  rw [← accumulated_exact_iff, IntegerExact, parseInteger_whole]
  exact error_or_exact_of_ok

/-- The number 2⁶³ in eight octets, and 2⁶⁴ in nine. -/
theorem parseInteger_wraps :
    parseInteger [0x80, 0, 0, 0, 0, 0, 0, 0] 8 = .ok (-9223372036854775808) ∧
      parseInteger [1, 0, 0, 0, 0, 0, 0, 0, 0] 9 = .ok 0 ∧
      ¬ IntegerExact [1, 0, 0, 0, 0, 0, 0, 0, 0] := by
  refine ⟨by decide, by decide, ?_⟩
  rw [IntegerExact, parseInteger_whole, error_or_exact_of_ok]
  decide

section Timestamps

variable {buffer : List UInt8}

theorem octetAt_eq {index : Nat} (here : index < buffer.length) :
    octetAt buffer index = .ok buffer[index] := by
  rw [octetAt, if_pos (Int.natCast_nonneg index), Int.toNat_natCast, byteAt,
    List.getElem?_eq_getElem here]
  rfl

theorem accumulate_eq (buffer : List UInt8) (turns index : Nat) (value : Int)
    (inside : index + turns ≤ buffer.length) :
    accumulate buffer turns index value =
      .ok (((buffer.drop index).take turns).foldl appendOctet value) := by
  induction turns generalizing index value with
  | zero => rfl
  | succ turns ih =>
      have here : index < buffer.length := by omega
      have split : buffer.drop index = buffer[index] :: buffer.drop (index + 1) :=
        List.drop_eq_getElem_cons here
      have next := ih (index + 1) (appendOctet value buffer[index]) (by omega)
      rw [accumulate, octetAt_eq here, bind_ok, split, List.take_succ_cons, List.foldl_cons, ← next]
      rfl

def TimestampExact (buffer : List UInt8) : Prop :=
  (∃ message, parseTimestamp buffer buffer.length = .error (.error message)) ∨
    parseTimestamp buffer buffer.length =
      .ok
        { tVsec := (bigEndian (buffer.take (buffer.length - 8)) : Int)
          tVnsec := (bigEndian (buffer.drop (buffer.length - 8)) : Int) }

theorem eight_turns (size : Int) : (size - (size - 8)).toNat = 8 := by
  rw [Int.sub_sub_self]
  rfl

/-- In a shorter buffer the second loop starts at a negative index. -/
theorem parseTimestamp_short (short : buffer.length < 8) :
    parseTimestamp buffer buffer.length = .error .fault := by
  have no_turn : ((buffer.length : Int) - 8).toNat = 0 := by omega
  have negative : ¬ 0 ≤ (buffer.length : Int) - 8 := by omega
  have panics : octetAt buffer ((buffer.length : Int) - 8) = .error .fault := if_neg negative
  rw [parseTimestamp, eight_turns, no_turn, accumulate, accumulate, panics]
  rfl

theorem parseTimestamp_whole (long : 8 ≤ buffer.length) :
    parseTimestamp buffer buffer.length =
      .ok
        { tVsec := (buffer.take (buffer.length - 8)).foldl appendOctet 0
          tVnsec := (buffer.drop (buffer.length - 8)).foldl appendOctet 0 } := by
  have start : (buffer.length : Int) - 8 = ((buffer.length - 8 : Nat) : Int) := by omega
  have sec := accumulate_eq buffer (buffer.length - 8) 0 0 (by omega)
  have nsec := accumulate_eq buffer 8 (buffer.length - 8) 0 (by omega)
  have last : (buffer.drop (buffer.length - 8)).take 8 = buffer.drop (buffer.length - 8) := by
    apply List.take_of_length_le
    rw [List.length_drop]
    omega
  rw [List.drop_zero, Int.natCast_zero] at sec
  rw [last] at nsec
  rw [parseTimestamp, eight_turns, start, Int.toNat_natCast, sec, bind_ok, nsec, bind_ok]
  rfl

theorem parseTimestamp_exact_iff_of_long (long : 8 ≤ buffer.length) :
    TimestampExact buffer ↔ bigEndian (buffer.take (buffer.length - 8)) < 2 ^ 63 ∧
      bigEndian (buffer.drop (buffer.length - 8)) < 2 ^ 63 := by
  rw [← accumulated_exact_iff, ← accumulated_exact_iff, TimestampExact, parseTimestamp_whole long,
    error_or_exact_of_ok, Timestamp.mk.injEq]

end Timestamps

/-- `ParseTimestamp` is exact exactly for buffers of at least eight octets whose two numbers are
those of an `int64`. -/
theorem parseTimestamp_exact_iff (buffer : List UInt8) :
    TimestampExact buffer ↔ 8 ≤ buffer.length ∧
      bigEndian (buffer.take (buffer.length - 8)) < 2 ^ 63 ∧
      bigEndian (buffer.drop (buffer.length - 8)) < 2 ^ 63 := by
  by_cases long : 8 ≤ buffer.length
  · rw [parseTimestamp_exact_iff_of_long long, and_iff_right long]
  · refine iff_of_false ?_ fun exact => long exact.1
    rw [TimestampExact, parseTimestamp_short (Nat.lt_of_not_le long)]
    exact not_error_or_exact_of_fault

theorem parseTimestamp_panics :
    parseTimestamp [0x60, 0, 0, 0] 4 = .error .fault ∧ ¬ TimestampExact [0x60, 0, 0, 0] := by
  have short : [0x60, 0, 0, (0 : UInt8)].length < 8 := by decide
  refine ⟨parseTimestamp_short short, ?_⟩
  rw [TimestampExact, parseTimestamp_short short]
  exact not_error_or_exact_of_fault

end NearRtRic.Kpimon
