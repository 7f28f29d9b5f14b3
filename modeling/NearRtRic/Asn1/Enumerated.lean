import Mathlib.Tactic
import NearRtRic.Asn1.Integer

/-! Enumerated values in aligned PER: a position in the table of the type, or behind its root. -/

namespace NearRtRic.Asn1

open PerConstraint Transmission

/-- The `asn_INTEGER_specifics_t` of an enumeration: the values in ascending order, as `bsearch`
needs them, and where extensions start, counted from 1 (0 where there are none). -/
structure Enumeration where
  value2enum : List Int
  extension : Nat
  ascending : value2enum.Pairwise (· < ·)
  within : extension ≤ value2enum.length + 1

namespace Enumeration

def rootCount (specs : Enumeration) : Nat :=
  if specs.extension ≠ 0 then specs.extension - 1 else specs.value2enum.length

end Enumeration

/-- The padding that the reader skips before a large enumeration, and its writer does not put. -/
def getPadding (ct : Option PerConstraint) : Get Unit :=
  match ct with
  | some ct =>
      if ct.upper_bound ≥ 255 then
        Action.reading fun pd =>
          if 0 < (8 - pd.moved % 8) % 8 then ignored ((8 - pd.moved % 8) % 8) else pure ()
      else pure ()
  | none => pure ()

def nativeEnumeratedEncodeAper (ct : PerConstraint) (specs : Enumeration) (native : Int) : Put Unit :=
  if native < 0 then Put.fail
  else match specs.value2enum.idxOf? native with
    | none => Put.fail
    | some value => do
        let inext := decide (ct.range_bits ≥ 0 ∧ specs.rootCount ≤ value)
        putInext ct inext
        if ct.range_bits ≥ 0 ∧ inext = false then asnPutFewBits value ct.range_bits.toNat
        else if specs.extension = 0 then Put.fail
        else uperPutNsnnwn (value - if inext then specs.extension - 1 else 0)

def getPosition (specs : Enumeration) (ct : Option PerConstraint) : Get Nat :=
  match ct with
  | some ct =>
      if ct.range_bits ≥ 0 then do
        let value ← asnGetFewBits ct.range_bits.toNat
        if specs.rootCount ≤ value then Get.fail else pure value
      else getExtension
  | none => getExtension
where
  getExtension : Get Nat :=
    if specs.extension = 0 then Get.fail
    else do
      let value ← uperGetNsnnwn
      pure (value + (specs.extension - 1))

def nativeEnumeratedDecodeAper (ct : PerConstraint) (specs : Enumeration) : Get Int := do
  let root ← getRoot (some ct)
  getPadding root
  let value ← getPosition specs root
  if h : value < specs.value2enum.length then pure specs.value2enum[value] else Get.fail

/-- The constraint of an enumeration: as many bits as tell the values of the root apart, and not so
many values that the reader looks for padding. -/
def EnumeratedConstraint (ct : PerConstraint) (specs : Enumeration) : Prop :=
  (ct.flags = APC_CONSTRAINED ∧ specs.extension = 0 ∨
      ct.flags = APC_CONSTRAINED + APC_EXTENSIBLE ∧ specs.extension ≠ 0) ∧
    0 ≤ ct.range_bits ∧ ct.range_bits ≤ 31 ∧ specs.rootCount ≤ 2 ^ ct.range_bits.toNat ∧
    ct.upper_bound < 255

instance (ct : PerConstraint) (specs : Enumeration) : Decidable (EnumeratedConstraint ct specs) :=
  inferInstanceAs (Decidable (_ ∧ _))

/-- A value of the enumeration: of its root, or one of the first 64 extensions. -/
def Enumerates (specs : Enumeration) (native : Int) : Prop :=
  0 ≤ native ∧ ∃ value, specs.value2enum.idxOf? native = some value ∧ value < specs.rootCount + 64

instance (specs : Enumeration) (native : Int) : Decidable (Enumerates specs native) :=
  decidable_of_iff (0 ≤ native ∧ ∃ value ∈ specs.value2enum.idxOf? native, value < specs.rootCount + 64)
    Iff.rfl

theorem getPadding_eq {ct : PerConstraint} (few : ct.upper_bound < 255) :
    getPadding (some ct) = pure () :=
  if_neg (by omega)

theorem enumerated_conveys {ct : PerConstraint} {specs : Enumeration} {native : Int}
    (generated : EnumeratedConstraint ct specs) (listed : Enumerates specs native) :
    Conveys (nativeEnumeratedEncodeAper ct specs native) (nativeEnumeratedDecodeAper ct specs)
      fun _ got => got = native := by
  rcases generated with ⟨hflags, hbits, hfew, hroot, hupper⟩
  rcases listed with ⟨hnonneg, value, hvalue, hnear⟩
  rcases List.idxOf?_eq_some_iff.mp hvalue with ⟨hinside, hnative, _⟩
  have hallowed : decide (ct.range_bits ≥ 0 ∧ specs.rootCount ≤ value) = true →
      ct.has APC_EXTENSIBLE = true := by
    intro behind
    have hbehind := (of_decide_eq_true behind).2
    rcases hflags with ⟨_, hnone⟩ | ⟨hflags, _⟩
    · unfold Enumeration.rootCount at hbehind
      rw [if_neg (not_not.mpr hnone)] at hbehind
      omega
    · rw [has, hflags]
      decide
  unfold nativeEnumeratedEncodeAper nativeEnumeratedDecodeAper
  rw [if_neg (by omega), hvalue]
  apply (putInext_conveys hallowed).bind
  intro _ root hgot
  rw [hgot]
  have hlisted : (if h : value < specs.value2enum.length then pure specs.value2enum[value]
      else Get.fail : Get Int) = pure native := by
    rw [dif_pos hinside, hnative]
  by_cases behind : specs.rootCount ≤ value
  · have hinext : decide (ct.range_bits ≥ 0 ∧ specs.rootCount ≤ value) = true :=
      decide_eq_true ⟨hbits, behind⟩
    have hextension : specs.extension ≠ 0 := by
      intro hnone
      unfold Enumeration.rootCount at behind
      rw [if_neg (not_not.mpr hnone)] at behind
      omega
    have hcount : specs.rootCount = specs.extension - 1 := if_pos hextension
    have hsmall : 0 ≤ (value : Int) - (specs.extension - 1 : Nat) ∧
        (value : Int) - (specs.extension - 1 : Nat) ≤ 63 := by omega
    have hposition : Conveys (uperPutNsnnwn ((value : Int) - (specs.extension - 1 : Nat)))
        (getPosition specs none) fun _ got => got = value := by
      rw [getPosition, getPosition.getExtension, if_neg hextension]
      apply ((uperNsnnwn_conveys_iff _).mpr hsmall).mapping
      intro _ got same
      omega
    simp only [hinext, if_true, getPadding, Action.pure_bind]
    rw [if_neg (fun both => Bool.noConfusion both.2), if_neg hextension]
    apply hposition.finishing
    intro _ got same
    subst same
    rw [hlisted]
    exact Conveys.pure rfl
  · have hinext : decide (ct.range_bits ≥ 0 ∧ specs.rootCount ≤ value) = false :=
      decide_eq_false fun both => behind both.2
    have hposition : Conveys (asnPutFewBits value ct.range_bits.toNat)
        (getPosition specs (some ct)) fun _ got => got = value := by
      simp only [getPosition, if_pos hbits]
      apply (asnPutFewBits_conveys value (by omega)).finishing
      intro _ got same
      rw [Nat.mod_eq_of_lt (by omega)] at same
      rw [same, if_neg behind]
      exact Conveys.pure rfl
    simp only [hinext, Bool.false_eq_true, if_false, getPadding_eq hupper, Action.pure_bind]
    rw [if_pos ⟨hbits, trivial⟩]
    apply hposition.finishing
    intro _ got same
    subst same
    rw [hlisted]
    exact Conveys.pure rfl

end NearRtRic.Asn1
