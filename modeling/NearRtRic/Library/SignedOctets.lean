import Mathlib.Tactic
import NearRtRic.Library.Bits

/-! Two's-complement numbers in octets, the most significant one first. -/

namespace NearRtRic.SignedOctets

open Bits

def signedOf : List UInt8 → Int
  | [] => 0
  | first :: rest =>
      (bigEndian (first :: rest) : Int) - if 128 ≤ first.toNat then 2 ^ (8 * (rest.length + 1)) else 0

/-- Without the leading octets that only repeat the sign. -/
def significant : List UInt8 → List UInt8
  | first :: second :: rest =>
      if first.toNat = 0 ∧ second.toNat < 128 ∨ first.toNat = 255 ∧ 128 ≤ second.toNat then
        significant (second :: rest)
      else first :: second :: rest
  | bytes => bytes

theorem bigEndian_lt (bytes : List UInt8) : bigEndian bytes < 2 ^ (8 * bytes.length) := by
  have hword := wordOf_lt (octets bytes)
  rwa [octets_length, ← bigEndian_eq] at hword

theorem bigEndian_cons (first : UInt8) (rest : List UInt8) :
    bigEndian (first :: rest) = first.toNat * 2 ^ (8 * rest.length) + bigEndian rest := by
  rw [bigEndian_eq, bigEndian_eq, octets_cons, wordOf_append, wordOf_bitsOf, octets_length,
    Nat.mod_eq_of_lt first.toNat_lt]

theorem bigEndian_bytesOf (count word : Nat) :
    bigEndian (bytesOf count word) = word % 2 ^ (8 * count) := by
  rw [bigEndian_eq, octets_bytesOf, wordOf_bitsOf]

@[simp] theorem signedOf_significant (bytes : List UInt8) : signedOf (significant bytes) = signedOf bytes := by
  fun_induction significant bytes with
  | case1 first second rest redundant ih =>
      rw [ih, signedOf, signedOf, bigEndian_cons first]
      have hlength : 8 * ((second :: rest).length + 1) = 8 * (rest.length + 1) + 8 := by
        rw [List.length_cons]
        ring
      rcases redundant with ⟨hfirst, hsecond⟩ | ⟨hfirst, hsecond⟩
      · simp [hfirst, hsecond]
      · rw [hlength, if_pos hsecond, if_pos (by omega), hfirst, List.length_cons, pow_add]
        push_cast
        ring
  | case2 first second rest needed => rfl
  | case3 bytes short => rfl

theorem significant_ne_nil {bytes : List UInt8} (inhabited : bytes ≠ []) : significant bytes ≠ [] := by
  fun_induction significant bytes with
  | case1 first second rest redundant ih => exact ih (by simp)
  | case2 first second rest needed => exact inhabited
  | case3 bytes short => exact inhabited

theorem significant_length_le (bytes : List UInt8) : (significant bytes).length ≤ bytes.length := by
  fun_induction significant bytes with
  | case1 first second rest redundant ih => exact ih.trans (Nat.le_succ _)
  | case2 first second rest needed => exact le_rfl
  | case3 bytes short => exact le_rfl

theorem signedOf_word {count word : Nat} (small : word < 2 ^ (8 * (count + 1))) :
    signedOf (bytesOf (count + 1) word) =
      (word : Int) - if 2 ^ (8 * count + 7) ≤ word then 2 ^ (8 * (count + 1)) else 0 := by
  have hhigh : word >>> (8 * count) < 256 := by
    rw [Nat.shiftRight_eq_div_pow, Nat.div_lt_iff_lt_mul (Nat.two_pow_pos _)]
    have hsplit : 8 * (count + 1) = 8 + 8 * count := by ring
    rwa [hsplit, pow_add] at small
  have hfirst : (UInt8.ofNat (word >>> (8 * count))).toNat = word >>> (8 * count) := by
    rw [UInt8.toNat_ofNat']
    exact Nat.mod_eq_of_lt hhigh
  have hsign : 128 ≤ word >>> (8 * count) ↔ 2 ^ (8 * count + 7) ≤ word := by
    rw [Nat.shiftRight_eq_div_pow, Nat.le_div_iff_mul_le (Nat.two_pow_pos _), pow_add, Nat.mul_comm]
    norm_num
  have hvalue := bigEndian_bytesOf (count + 1) word
  rw [Nat.mod_eq_of_lt small, bytesOf] at hvalue
  rw [bytesOf, signedOf, hvalue, hfirst, bytesOf_length]
  simp only [hsign]

/-- The octets of a number in range hold its value. -/
theorem signedOf_bytesOf (count : Nat) {value : Int} (least : -(2 ^ (8 * count + 7)) ≤ value)
    (greatest : value < 2 ^ (8 * count + 7)) :
    signedOf (bytesOf (count + 1) (value % 2 ^ (8 * (count + 1))).toNat) = value := by
  have hpow : (2 : Int) ^ (8 * (count + 1)) = 2 * 2 ^ (8 * count + 7) := by ring
  have hpositive : (0 : Int) < 2 ^ (8 * count + 7) := by positivity
  have hnonneg : 0 ≤ value % 2 ^ (8 * (count + 1)) := Int.emod_nonneg _ (by positivity)
  have hbelow : value % 2 ^ (8 * (count + 1)) < 2 ^ (8 * (count + 1)) :=
    Int.emod_lt_of_pos _ (by positivity)
  have hword : ((value % 2 ^ (8 * (count + 1))).toNat : Int) = value % 2 ^ (8 * (count + 1)) :=
    Int.toNat_of_nonneg hnonneg
  have hsmall : (value % 2 ^ (8 * (count + 1))).toNat < 2 ^ (8 * (count + 1)) := by
    zify
    rw [hword]
    exact hbelow
  rw [signedOf_word hsmall]
  by_cases negative : value < 0
  · have hmod : value % 2 ^ (8 * (count + 1)) = value + 2 ^ (8 * (count + 1)) := by
      rw [← Int.add_emod_right]
      exact Int.emod_eq_of_lt (by omega) (by omega)
    have hlarge : 2 ^ (8 * count + 7) ≤ (value % 2 ^ (8 * (count + 1))).toNat := by
      zify
      rw [hword, hmod]
      omega
    rw [if_pos hlarge, hword, hmod]
    ring
  · have hmod : value % 2 ^ (8 * (count + 1)) = value :=
      Int.emod_eq_of_lt (by omega) (by omega)
    have hsmaller : ¬2 ^ (8 * count + 7) ≤ (value % 2 ^ (8 * (count + 1))).toNat := by
      zify
      rw [hword, hmod]
      omega
    rw [if_neg hsmaller, hword, hmod, sub_zero]

theorem signedOf_range (first : UInt8) (rest : List UInt8) :
    -(2 ^ (8 * rest.length + 7)) ≤ signedOf (first :: rest) ∧
      signedOf (first :: rest) < 2 ^ (8 * rest.length + 7) := by
  have hfirst : (first.toNat : Int) < 256 := by exact_mod_cast first.toNat_lt
  have hrest : (bigEndian rest : Int) < 2 ^ (8 * rest.length) := by exact_mod_cast bigEndian_lt rest
  have hhalf : (2 : Int) ^ (8 * rest.length + 7) = 128 * 2 ^ (8 * rest.length) := by ring
  have hwhole : (2 : Int) ^ (8 * (rest.length + 1)) = 256 * 2 ^ (8 * rest.length) := by ring
  have hpositive : (0 : Int) < 2 ^ (8 * rest.length) := by positivity
  rw [signedOf, bigEndian_cons, hhalf, hwhole]
  push_cast
  by_cases negative : 128 ≤ first.toNat
  · have hleast : (128 : Int) ≤ first.toNat := by exact_mod_cast negative
    rw [if_pos negative]
    constructor
    · nlinarith
    · nlinarith
  · have hgreatest : (first.toNat : Int) ≤ 127 := by
      have below : first.toNat ≤ 127 := by omega
      exact_mod_cast below
    rw [if_neg negative]
    constructor
    · nlinarith
    · nlinarith

end NearRtRic.SignedOctets
