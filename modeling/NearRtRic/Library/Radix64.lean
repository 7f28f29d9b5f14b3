import Mathlib.Tactic

/-! Octets written in base 64, three at a time, as RFC 4648 defines it for any alphabet. -/

namespace NearRtRic.Radix64

variable {Symbol : Type}

def group (first second third : UInt8) : Nat :=
  first.toNat * 65536 + second.toNat * 256 + third.toNat

/-- One of its four groups of 6 bits, the last one at place 0. -/
def digit (value place : Nat) : Fin 64 :=
  ⟨value / 64 ^ place % 64, Nat.mod_lt _ (by decide)⟩

/-- Zero bits are added to the last octets, and padding in place of what is missing. -/
def encode (alphabet : Fin 64 → Symbol) (padding : Symbol) : List UInt8 → List Symbol
  | [] => []
  | [first] =>
      let value := group first 0 0
      [alphabet (digit value 3), alphabet (digit value 2), padding, padding]
  | [first, second] =>
      let value := group first second 0
      [alphabet (digit value 3), alphabet (digit value 2), alphabet (digit value 1), padding]
  | first :: second :: third :: rest =>
      let value := group first second third
      [alphabet (digit value 3), alphabet (digit value 2), alphabet (digit value 1),
        alphabet (digit value 0)] ++ encode alphabet padding rest

/-- Groups of four, at least one: only in the last one stands padding, in its last place or in
its last two. -/
def Formed (padding : Symbol) : List Symbol → Prop
  | first :: second :: third :: fourth :: rest =>
      first ≠ padding ∧ second ≠ padding ∧
        (rest = [] ∧ (third = padding → fourth = padding) ∨
          third ≠ padding ∧ fourth ≠ padding ∧ Formed padding rest)
  | _ => False

theorem encode_length (alphabet : Fin 64 → Symbol) (padding : Symbol) (octets : List UInt8) :
    (encode alphabet padding octets).length = 4 * ((octets.length + 2) / 3) := by
  fun_induction encode alphabet padding octets with
  | case1 => rfl
  | case2 first value => simp only [List.length_cons, List.length_nil]
  | case3 first second value => simp only [List.length_cons, List.length_nil]
  | case4 first second third rest value ih =>
      rw [List.length_append, ih]
      simp only [List.length_cons, List.length_nil]
      omega

theorem first_octet (first second third : UInt8) :
    (digit (group first second third) 3).val * 4 +
      (digit (group first second third) 2).val / 16 = first.toNat := by
  have bounds := And.intro first.toNat_lt (And.intro second.toNat_lt third.toNat_lt)
  simp only [digit, group]
  omega

theorem second_octet (first second third : UInt8) :
    ((digit (group first second third) 2).val * 16 +
      (digit (group first second third) 1).val / 4) % 256 = second.toNat := by
  have bounds := And.intro first.toNat_lt (And.intro second.toNat_lt third.toNat_lt)
  simp only [digit, group]
  omega

theorem third_octet (first second third : UInt8) :
    ((digit (group first second third) 1).val * 64 +
      (digit (group first second third) 0).val) % 256 = third.toNat := by
  have bounds := And.intro first.toNat_lt (And.intro second.toNat_lt third.toNat_lt)
  simp only [digit, group]
  omega

end NearRtRic.Radix64
