import Mathlib.Tactic

/-! Words and octets as lists of bits, the most significant bit first. -/

namespace NearRtRic.Bits

def bitsOf : Nat → Nat → List Bool
  | 0, _ => []
  | width + 1, word => word.testBit width :: bitsOf width word

def wordOf : List Bool → Nat
  | [] => 0
  | bit :: bits => bit.toNat * 2 ^ bits.length + wordOf bits

/-- The bits of octets that stand one behind the other. -/
def octets (bytes : List UInt8) : List Bool :=
  bytes.flatMap fun byte => bitsOf 8 byte.toNat

/-- The word that octets are, the most significant one first. -/
def bigEndian (bytes : List UInt8) : Nat :=
  bytes.foldl (fun word byte => word * 2 ^ 8 + byte.toNat) 0

/-- The octets of the lowest bits of a word. -/
def bytesOf : Nat → Nat → List UInt8
  | 0, _ => []
  | count + 1, word => UInt8.ofNat (word >>> (8 * count)) :: bytesOf count word

/-- Zero bits up to the next octet. -/
def padding (count : Nat) : List Bool :=
  List.replicate ((8 - count % 8) % 8) false

@[simp] theorem bitsOf_length (width word : Nat) : (bitsOf width word).length = width := by
  induction width with
  | zero => rfl
  | succ width ih => rw [bitsOf, List.length_cons, ih]

theorem wordOf_lt (bits : List Bool) : wordOf bits < 2 ^ bits.length := by
  induction bits with
  | nil => decide
  | cons bit bits ih =>
      have hbit : bit.toNat ≤ 1 := bit.toNat_le
      calc
        wordOf (bit :: bits) = bit.toNat * 2 ^ bits.length + wordOf bits := rfl
        _ < bit.toNat * 2 ^ bits.length + 2 ^ bits.length := Nat.add_lt_add_left ih _
        _ = (bit.toNat + 1) * 2 ^ bits.length := by ring
        _ ≤ 2 * 2 ^ bits.length := Nat.mul_le_mul_right _ (by omega)
        _ = 2 ^ (bit :: bits).length := by rw [List.length_cons, Nat.pow_succ']

theorem wordOf_append (first second : List Bool) :
    wordOf (first ++ second) = wordOf first * 2 ^ second.length + wordOf second := by
  induction first with
  | nil => simp [wordOf]
  | cons bit bits ih =>
      rw [List.cons_append, wordOf, ih, wordOf, List.length_append, pow_add]
      ring

@[simp] theorem wordOf_bitsOf (width word : Nat) : wordOf (bitsOf width word) = word % 2 ^ width := by
  induction width with
  | zero => simp [bitsOf, wordOf, Nat.mod_one]
  | succ width ih =>
      rw [bitsOf, wordOf, bitsOf_length, ih, Nat.testBit_eq_decide_div_mod_eq, Nat.pow_succ]
      rw [Nat.mod_mul]
      rcases Nat.mod_two_eq_zero_or_one (word / 2 ^ width) with even | odd
      · simp [even]
      · simp [odd]
        ring

theorem wordOf_inj {first second : List Bool} (lengths : first.length = second.length)
    (words : wordOf first = wordOf second) : first = second := by
  induction first generalizing second with
  | nil => exact (List.length_eq_zero_iff.mp lengths.symm).symm
  | cons bit bits ih =>
      rcases second with _ | ⟨other, others⟩
      · cases lengths
      have hlengths : bits.length = others.length := by simpa using lengths
      have hbits := wordOf_lt bits
      have hothers := wordOf_lt others
      rw [wordOf, wordOf, hlengths] at words
      rw [hlengths] at hbits
      have hbit : bit = other := by
        cases bit with
        | false =>
            cases other with
            | false => rfl
            | true =>
                simp only [Bool.toNat_false, Bool.toNat_true, Nat.zero_mul, Nat.one_mul] at words
                omega
        | true =>
            cases other with
            | false =>
                simp only [Bool.toNat_false, Bool.toNat_true, Nat.zero_mul, Nat.one_mul] at words
                omega
            | true => rfl
      rw [hbit] at words
      rw [hbit, ih hlengths (Nat.add_left_cancel words)]

@[simp] theorem bitsOf_wordOf (bits : List Bool) : bitsOf bits.length (wordOf bits) = bits := by
  apply wordOf_inj (bitsOf_length _ _)
  rw [wordOf_bitsOf, Nat.mod_eq_of_lt (wordOf_lt bits)]

theorem bitsOf_congr {width first second : Nat} (same : first % 2 ^ width = second % 2 ^ width) :
    bitsOf width first = bitsOf width second := by
  apply wordOf_inj (by rw [bitsOf_length, bitsOf_length])
  rw [wordOf_bitsOf, wordOf_bitsOf, same]

@[simp] theorem bitsOf_mod (width word : Nat) : bitsOf width (word % 2 ^ width) = bitsOf width word :=
  bitsOf_congr (Nat.mod_mod _ _)

theorem bitsOf_add (high low word : Nat) :
    bitsOf (high + low) word = bitsOf high (word / 2 ^ low) ++ bitsOf low word := by
  apply wordOf_inj (by simp)
  rw [wordOf_append, wordOf_bitsOf, wordOf_bitsOf, wordOf_bitsOf, bitsOf_length, pow_add,
    Nat.mul_comm (2 ^ high), Nat.mod_mul]
  ring

theorem bitsOf_high {high low upper lower : Nat} (small : lower < 2 ^ low) :
    bitsOf (high + low) (upper * 2 ^ low + lower) = bitsOf high upper ++ bitsOf low lower := by
  have hdiv : (upper * 2 ^ low + lower) / 2 ^ low = upper := by
    rw [Nat.mul_comm, Nat.mul_add_div (by positivity), Nat.div_eq_of_lt small, Nat.add_zero]
  rw [bitsOf_add, hdiv]
  congr 1
  apply bitsOf_congr
  rw [Nat.mul_comm, Nat.mul_add_mod]

@[simp] theorem bitsOf_zero (width : Nat) : bitsOf width 0 = List.replicate width false := by
  induction width with
  | zero => rfl
  | succ width ih => rw [bitsOf, ih, List.replicate_succ, Nat.zero_testBit]

theorem bitsOf_shift (width shift word : Nat) :
    bitsOf (width + shift) (word * 2 ^ shift) = bitsOf width word ++ List.replicate shift false := by
  have shifted : bitsOf (width + shift) (word * 2 ^ shift + 0) = bitsOf width word ++ bitsOf shift 0 :=
    bitsOf_high (Nat.two_pow_pos shift)
  rwa [Nat.add_zero, bitsOf_zero] at shifted

@[simp] theorem octets_nil : octets [] = [] := rfl

theorem octets_cons (byte : UInt8) (bytes : List UInt8) :
    octets (byte :: bytes) = bitsOf 8 byte.toNat ++ octets bytes := rfl

@[simp] theorem octets_append (first second : List UInt8) :
    octets (first ++ second) = octets first ++ octets second :=
  List.flatMap_append

@[simp] theorem octets_length (bytes : List UInt8) : (octets bytes).length = 8 * bytes.length := by
  induction bytes with
  | nil => rfl
  | cons byte bytes ih =>
      rw [octets_cons, List.length_append, bitsOf_length, ih, List.length_cons]
      ring

theorem octets_take (bytes : List UInt8) (count : Nat) :
    octets (bytes.take count) = (octets bytes).take (8 * count) := by
  induction count generalizing bytes with
  | zero => simp
  | succ count ih =>
      rcases bytes with _ | ⟨byte, bytes⟩
      · simp
      have whole : (bitsOf 8 byte.toNat).take (8 * count + 8) = bitsOf 8 byte.toNat :=
        List.take_of_length_le (by simp)
      rw [List.take_succ_cons, octets_cons, octets_cons, ih, Nat.mul_succ, List.take_append, whole,
        bitsOf_length, Nat.add_sub_cancel]

theorem octets_drop (bytes : List UInt8) (count : Nat) :
    octets (bytes.drop count) = (octets bytes).drop (8 * count) := by
  have whole : octets (bytes.take count) ++ octets (bytes.drop count) = octets bytes := by
    rw [← octets_append, List.take_append_drop]
  rw [octets_take] at whole
  exact List.append_cancel_left (whole.trans (List.take_append_drop _ _).symm)

theorem octets_inj {first second : List UInt8} (same : octets first = octets second) :
    first = second := by
  induction first generalizing second with
  | nil =>
      have hlength := congrArg List.length same
      rw [octets_length, octets_length] at hlength
      exact (List.length_eq_zero_iff.mp (by simpa using hlength.symm)).symm
  | cons byte bytes ih =>
      rcases second with _ | ⟨other, others⟩
      · have hlength := congrArg List.length same
        simp at hlength
      rw [octets_cons, octets_cons] at same
      rcases List.append_inj same (by simp) with ⟨heads, tails⟩
      have words := congrArg wordOf heads
      rw [wordOf_bitsOf, wordOf_bitsOf, Nat.mod_eq_of_lt byte.toNat_lt,
        Nat.mod_eq_of_lt other.toNat_lt] at words
      rw [UInt8.toNat_inj.mp words, ih tails]

@[simp] theorem bitsOf_ofNat (word : Nat) : bitsOf 8 (UInt8.ofNat word).toNat = bitsOf 8 word :=
  bitsOf_congr (by simp)

theorem bigEndian_eq (bytes : List UInt8) : bigEndian bytes = wordOf (octets bytes) := by
  suffices hfrom : ∀ word, bytes.foldl (fun word byte => word * 2 ^ 8 + byte.toNat) word =
      word * 2 ^ (octets bytes).length + wordOf (octets bytes) by
    rw [bigEndian, hfrom, Nat.zero_mul, Nat.zero_add]
  induction bytes with
  | nil => simp [wordOf]
  | cons byte bytes ih =>
      intro word
      rw [List.foldl_cons, ih, octets_cons, wordOf_append, wordOf_bitsOf, List.length_append,
        bitsOf_length, Nat.mod_eq_of_lt byte.toNat_lt]
      ring

@[simp] theorem bytesOf_length (count word : Nat) : (bytesOf count word).length = count := by
  induction count with
  | zero => rfl
  | succ count ih => rw [bytesOf, List.length_cons, ih]

theorem octets_bytesOf (count word : Nat) : octets (bytesOf count word) = bitsOf (8 * count) word := by
  induction count with
  | zero => rfl
  | succ count ih =>
      have hwidth : 8 * (count + 1) = 8 + 8 * count := by ring
      rw [bytesOf, octets_cons, bitsOf_ofNat, ih, hwidth, bitsOf_add, Nat.shiftRight_eq_div_pow]

/-- The first bits of a word that the other ones are shifted out of. -/
theorem bitsOf_shiftRight (bits : List Bool) {count : Nat} (inside : count ≤ bits.length) :
    bitsOf count (wordOf bits >>> (bits.length - count)) = bits.take count := by
  have hsplit := bitsOf_add count (bits.length - count) (wordOf bits)
  rw [Nat.add_sub_cancel' inside, bitsOf_wordOf, ← Nat.shiftRight_eq_div_pow] at hsplit
  conv_rhs => rw [hsplit]
  rw [List.take_left' (bitsOf_length _ _)]

theorem bytesOf_wordOf (bytes : List UInt8) : bytesOf bytes.length (wordOf (octets bytes)) = bytes := by
  apply octets_inj
  rw [octets_bytesOf, ← octets_length, bitsOf_wordOf]

theorem wordOf_middle (bits : List Bool) {first count : Nat} (inside : first + count ≤ bits.length) :
    wordOf bits >>> (bits.length - (first + count)) % 2 ^ count =
      wordOf ((bits.drop first).take count) := by
  have hsplit : bits = (bits.take first ++ (bits.drop first).take count) ++
      bits.drop (first + count) := by
    rw [List.append_assoc, ← List.drop_drop, List.take_append_drop, List.take_append_drop]
  have hmiddle : ((bits.drop first).take count).length = count := by
    rw [List.length_take, List.length_drop]
    omega
  have hlast : (bits.drop (first + count)).length = bits.length - (first + count) :=
    List.length_drop
  have hlow := wordOf_lt (bits.drop (first + count))
  rw [hlast] at hlow
  calc
    wordOf bits >>> (bits.length - (first + count)) % 2 ^ count
    _ = (wordOf (bits.take first ++ (bits.drop first).take count) *
          2 ^ (bits.length - (first + count)) + wordOf (bits.drop (first + count))) /
          2 ^ (bits.length - (first + count)) % 2 ^ count := by
        conv_lhs => rw [hsplit, wordOf_append, hlast, ← hsplit, Nat.shiftRight_eq_div_pow]
    _ = wordOf (bits.take first ++ (bits.drop first).take count) % 2 ^ count := by
        rw [Nat.mul_comm, Nat.mul_add_div (Nat.two_pow_pos _), Nat.div_eq_of_lt hlow, Nat.add_zero]
    _ = wordOf ((bits.drop first).take count) := by
        rw [wordOf_append, hmiddle, Nat.mul_comm, Nat.mul_add_mod]
        apply Nat.mod_eq_of_lt
        have hword := wordOf_lt ((bits.drop first).take count)
        rwa [hmiddle] at hword

@[simp] theorem padding_length (count : Nat) : (padding count).length = (8 - count % 8) % 8 :=
  List.length_replicate

/-- Any bits stand in octets, with less than an octet of zeros behind them. -/
theorem exists_octets (bits : List Bool) :
    ∃ bytes, octets bytes = bits ++ padding bits.length := by
  have hlength : (bits ++ padding bits.length).length = 8 * ((bits.length + 7) / 8) := by
    rw [List.length_append, padding_length]
    omega
  refine ⟨bytesOf ((bits.length + 7) / 8) (wordOf (bits ++ padding bits.length)), ?_⟩
  rw [octets_bytesOf, ← hlength, bitsOf_wordOf]

/-- Octets whose bits, from the first one on, are a list of bits followed by less than an octet
of zeros are as many as the bits need. -/
theorem length_of_padded {bytes : List UInt8} {bits : List Bool}
    (padded : octets bytes = bits ++ padding bits.length) :
    bytes.length = (bits.length + 7) / 8 := by
  have hlength := congrArg List.length padded
  rw [octets_length, List.length_append, padding_length] at hlength
  omega

end NearRtRic.Bits
