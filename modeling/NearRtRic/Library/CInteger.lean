import Mathlib.Data.List.TakeWhile
import Mathlib.Tactic

/-! Conversions between the integer types of C, in two's complement, and the decimal integers
that it reads from text. -/

namespace NearRtRic.CInteger

/-- To a signed type of so many bits; not to be unfolded by unification, which would count to the
power. -/
@[irreducible] def toSigned (bits : Nat) (value : Int) : Int :=
  Int.bmod value (2 ^ bits)

def toUnsigned (bits : Nat) (value : Int) : Nat :=
  (value % 2 ^ bits).toNat

theorem toSigned_of_range {bits : Nat} {value : Int} (least : -(2 ^ bits) ≤ value)
    (greatest : value < 2 ^ bits) : toSigned (bits + 1) value = value := by
  rw [toSigned]
  apply Int.bmod_eq_of_le
  · rw [Nat.pow_succ]
    push_cast
    omega
  · rw [Nat.pow_succ]
    push_cast
    omega

theorem toUnsigned_of_range {bits : Nat} {value : Int} (nonneg : 0 ≤ value)
    (greatest : value < 2 ^ bits) : (toUnsigned bits value : Int) = value := by
  rw [toUnsigned, Int.emod_eq_of_lt nonneg greatest, Int.toNat_of_nonneg nonneg]

theorem toUnsigned_lt (bits : Nat) (value : Int) : toUnsigned bits value < 2 ^ bits := by
  have positive : (0 : Int) < 2 ^ bits := by positivity
  have below := Int.emod_lt_of_pos value positive
  rw [toUnsigned, Int.toNat_lt (Int.emod_nonneg value positive.ne')]
  exact_mod_cast below

def isspace (char : Char) : Bool :=
  [9, 10, 11, 12, 13, 32].contains char.toNat

def decimal (digits : List Char) : Nat :=
  Nat.ofDigitChars 10 digits 0

/-- The nearest value of a signed type of `bits + 1` bits. -/
def saturated (bits : Nat) (value : Int) : Int :=
  max (-(2 ^ bits)) (min value (2 ^ bits - 1))

/-- `strtol(text, &end, 10)`, for a `long` of 64 bits: the digits after blanks and a sign, up to
the first character that is none. -/
def strtol (text : List Char) : Int :=
  match text.dropWhile isspace with
  | '-' :: rest => saturated 63 (-(decimal (rest.takeWhile Char.isDigit)))
  | '+' :: rest => saturated 63 (decimal (rest.takeWhile Char.isDigit))
  | rest => saturated 63 (decimal (rest.takeWhile Char.isDigit))

def natural (text : List Char) : Option Int :=
  if text ≠ [] ∧ text.all Char.isDigit = true then some (decimal text) else none

/-- The integer that the text as a whole is, with a sign or without. -/
def decimalInteger (text : List Char) : Option Int :=
  match text with
  | '-' :: rest => (natural rest).map (- ·)
  | '+' :: rest => natural rest
  | rest => natural rest

theorem saturated_of_range {bits : Nat} {value : Int} (least : -(2 ^ bits) ≤ value)
    (greatest : value < 2 ^ bits) : saturated bits value = value := by
  rw [saturated, min_eq_left (by omega), max_eq_right least]

theorem natural_eq_some {text : List Char} {value : Int} (whole : natural text = some value) :
    text ≠ [] ∧ text.takeWhile Char.isDigit = text ∧ value = decimal text := by
  rw [natural] at whole
  split at whole
  · next digits =>
    refine ⟨digits.1, ?_, (Option.some.inj whole).symm⟩
    exact List.takeWhile_eq_self_iff.mpr (List.all_eq_true.mp digits.2)
  · cases whole

theorem isspace_of_isDigit {char : Char} (digit : char.isDigit = true) :
    isspace char = false := by
  simp only [Char.isDigit, Bool.and_eq_true, decide_eq_true_eq, ge_iff_le,
    UInt32.le_iff_toNat_le] at digit
  have least : 48 ≤ char.toNat := digit.1
  simp only [isspace, List.contains_eq_mem, List.mem_cons, List.not_mem_nil, or_false,
    decide_eq_false_iff_not, not_or]
  omega

/-- Where the whole text is a decimal integer in the range of `long`, `strtol` returns it. -/
theorem strtol_of_decimalInteger {text : List Char} {value : Int}
    (whole : decimalInteger text = some value) (least : -(2 ^ 63) ≤ value)
    (greatest : value < 2 ^ 63) : strtol text = value := by
  unfold decimalInteger at whole
  split at whole
  · next rest =>
    rcases Option.map_eq_some_iff.mp whole with ⟨magnitude, digits, rfl⟩
    rcases natural_eq_some digits with ⟨-, taken, rfl⟩
    have start : ('-' :: rest).dropWhile isspace = '-' :: rest :=
      List.dropWhile_cons_of_neg (by decide)
    rw [strtol, start]
    simp only [taken]
    exact saturated_of_range least greatest
  · next rest =>
    rcases natural_eq_some whole with ⟨-, taken, rfl⟩
    have start : ('+' :: rest).dropWhile isspace = '+' :: rest :=
      List.dropWhile_cons_of_neg (by decide)
    rw [strtol, start]
    simp only [taken]
    exact saturated_of_range least greatest
  · next minus plus =>
    rcases natural_eq_some whole with ⟨nonempty, taken, rfl⟩
    have start : text.dropWhile isspace = text := by
      rcases List.exists_cons_of_ne_nil nonempty with ⟨first, rest, rfl⟩
      have digit : first.isDigit = true :=
        List.takeWhile_eq_self_iff.mp taken first (by simp)
      exact List.dropWhile_cons_of_neg (by simp [isspace_of_isDigit digit])
    rw [strtol, start]
    split
    · next rest => exact absurd rfl (minus rest)
    · next rest => exact absurd rfl (plus rest)
    · rw [taken]
      exact saturated_of_range least greatest

end NearRtRic.CInteger
