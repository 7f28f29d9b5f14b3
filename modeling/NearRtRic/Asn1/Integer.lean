import Mathlib.Tactic
import NearRtRic.Asn1.Pieces
import NearRtRic.Library.CInteger
import NearRtRic.Library.SignedOctets

/-! Integers: `INTEGER_t` and its aligned PER, and the native integers that go through it. -/

namespace NearRtRic.Asn1

open Bits CInteger SignedOctets Transmission

/-- `asn_per_constraint_t` -/
structure PerConstraint where
  flags : Nat
  range_bits : Int
  effective_bits : Int
  lower_bound : Int
  upper_bound : Int
  deriving DecidableEq, Repr

namespace PerConstraint

def APC_UNCONSTRAINED : Nat := 0
def APC_SEMI_CONSTRAINED : Nat := 1
def APC_CONSTRAINED : Nat := 2
def APC_EXTENSIBLE : Nat := 4

def has (ct : PerConstraint) (flag : Nat) : Bool :=
  ct.flags &&& flag != 0

end PerConstraint

open PerConstraint

/-- The body of an `INTEGER_t`, without the octets that only repeat the sign. -/
def asnImax2INTEGER (value : Int) : List UInt8 :=
  significant (bytesOf 8 (toUnsigned 64 value))

def asnIntegerConvert (bytes : List UInt8) : Int :=
  let negative : Int := match bytes with
    | first :: _ => if 128 ≤ first.toNat then -1 else 0
    | [] => 0
  toSigned 64 (bytes.foldl (fun value byte => (value * 2 ^ 8 + byte.toNat) % 2 ^ 64) (negative % 2 ^ 64))

def asnINTEGER2imax (bytes : List UInt8) : Option Int :=
  let bytes := if 8 < bytes.length then significant bytes else bytes
  if 8 < bytes.length then none else some (asnIntegerConvert bytes)

def outOfRange (ct : PerConstraint) (value : Int) : Bool :=
  if ct.has APC_SEMI_CONSTRAINED then value < ct.lower_bound
  else if ct.range_bits ≥ 0 then value < ct.lower_bound || ct.upper_bound < value
  else false

/-- The loop over the octets of a `long`, from the highest one down to the lowest but one. -/
def highestOctet (value : Nat) : Nat → Nat
  | 0 => 0
  | j + 1 => if value >>> ((j + 1) * 8) ≠ 0 then j + 1 else highestOctet value j

def maxRangeBytes (range_bits : Nat) : Nat :=
  range_bits / 8 + if 0 < range_bits % 8 then 1 else 0

def putOctets : List UInt8 → Put Unit
  | [] => pure ()
  | octet :: octets => do
      asnPutFewBits octet.toNat 8
      putOctets octets

def getOctets : Nat → Get (List UInt8)
  | 0 => pure []
  | count + 1 => do
      let octet ← asnGetFewBits 8
      let octets ← getOctets count
      pure (UInt8.ofNat octet :: octets)

def putRanged (range_bits value : Nat) : Put Unit :=
  if range_bits < 8 then asnPutFewBits value range_bits
  else if range_bits = 8 then do
    aperPutAlign
    asnPutFewBits value range_bits
  else if range_bits ≤ 16 then do
    aperPutAlign
    asnPutFewBits value 16
  else do
    asnPutFewBits (highestOctet value 7) (rangeWidth (maxRangeBytes range_bits))
    aperPutAlign
    putOctets (bytesOf (highestOctet value 7 + 1) value)

/-- Behind a length of octets the padding has to be zero, elsewhere it is not looked at. -/
def getRanged (range_bits : Nat) : Get Nat :=
  if 16 < range_bits then do
    let length ← asnGetFewBits (rangeWidth (maxRangeBytes range_bits))
    let padding ← aperGetAlign
    if padding ≠ 0 then Get.fail
    else do
      let octets ← getOctets (length + 1)
      pure (bigEndian octets)
  else if range_bits < 8 then asnGetFewBits range_bits
  else do
    let _ ← aperGetAlign
    asnGetFewBits (if range_bits = 8 then range_bits else 16)

def putBody (st : List UInt8) : Put Unit :=
  putAll (fun piece => asnPutManyBits piece (8 * piece.length) le_rfl) st

def getBody : Get (List UInt8) :=
  getAll (aperGetLength (-1) (-1)) fun length => asnGetManyBits (8 * length)

/-- The flag bit before a value that may be an extension, which no other value may be. -/
def putInext (ct : PerConstraint) (inext : Bool) : Put Unit :=
  if ct.has APC_EXTENSIBLE then asnPutFewBits inext.toNat 1
  else if inext then Put.fail
  else pure ()

/-- `INTEGER_encode_aper`, for a type whose values are signed. -/
def integerEncodeAper (ct : Option PerConstraint) (st : List UInt8) : Put Unit :=
  if st.isEmpty then Put.fail
  else match ct with
    | none => putBody st
    | some ct =>
        match asnINTEGER2imax st with
        | none => Put.fail
        | some value => do
            putInext ct (outOfRange ct value)
            if outOfRange ct value then putBody st
            else if ct.range_bits ≥ 0 then
              putRanged ct.range_bits.toNat (toUnsigned 64 (value - ct.lower_bound))
            else if ct.lower_bound ≠ 0 then Put.fail
            else putBody st

/-- A flag bit that a constraint with extensions takes, and what is left of the constraint. -/
def getRoot (ct : Option PerConstraint) : Get (Option PerConstraint) :=
  match ct with
  | none => pure none
  | some ct =>
      if ct.has APC_EXTENSIBLE then do
        let inext ← asnGetFewBits 1
        pure (if inext ≠ 0 then none else some ct)
      else pure (some ct)

def integerDecodeAper (ct : Option PerConstraint) : Get (List UInt8) := do
  let ct ← getRoot ct
  match ct with
  | none => getBody
  | some ct =>
      if ct.flags ≠ APC_UNCONSTRAINED then
        if ct.range_bits ≥ 0 then do
          let value ← getRanged ct.range_bits.toNat
          pure (asnImax2INTEGER (toSigned 64 (toSigned 64 value + ct.lower_bound)))
        else Get.fail
      else do
        let st ← getBody
        if ct.lower_bound ≠ 0 then
          match asnINTEGER2imax st with
          | none => Get.fail
          | some value => pure (asnImax2INTEGER (toSigned 64 (value + ct.lower_bound)))
        else pure st

def nativeIntegerEncodeAper (ct : Option PerConstraint) (native : Int) : Put Unit :=
  integerEncodeAper ct (asnImax2INTEGER native)

def nativeIntegerDecodeAper (ct : Option PerConstraint) : Get Int := do
  let tmpint ← integerDecodeAper ct
  match asnINTEGER2imax tmpint with
  | none => Get.fail
  | some native => pure native

def IsLong (value : Int) : Prop :=
  -(2 ^ 63) ≤ value ∧ value < 2 ^ 63

instance (value : Int) : Decidable (IsLong value) :=
  inferInstanceAs (Decidable (_ ∧ _))

theorem foldl_mod (bytes : List UInt8) (value : Int) :
    bytes.foldl (fun value byte => (value * 2 ^ 8 + (byte.toNat : Int)) % 2 ^ 64) (value % 2 ^ 64) =
      (value * 2 ^ (8 * bytes.length) + bigEndian bytes) % 2 ^ 64 := by
  induction bytes generalizing value with
  | nil => simp [bigEndian]
  | cons byte bytes ih =>
      have hstep : (value % 2 ^ 64 * 2 ^ 8 + (byte.toNat : Int)) % 2 ^ 64 =
          (value * 2 ^ 8 + byte.toNat) % 2 ^ 64 := by omega
      rw [List.foldl_cons, hstep, ih, bigEndian_cons, List.length_cons, Nat.mul_succ, pow_add]
      push_cast
      ring_nf

theorem toSigned_emod (value : Int) : toSigned 64 (value % 2 ^ 64) = toSigned 64 value := by
  rw [toSigned, toSigned]
  exact_mod_cast Int.emod_bmod value (2 ^ 64)

theorem asnIntegerConvert_eq {bytes : List UInt8} (few : bytes.length ≤ 8) :
    asnIntegerConvert bytes = signedOf bytes := by
  rcases bytes with _ | ⟨first, rest⟩
  · simp [asnIntegerConvert, signedOf, toSigned]
  have hrange := signedOf_range first rest
  have hpow : (2 : Int) ^ (8 * rest.length + 7) ≤ 2 ^ 63 := by
    apply pow_le_pow_right₀ (by decide)
    rw [List.length_cons] at few
    omega
  have hvalue : (if 128 ≤ first.toNat then (-1 : Int) else 0) * 2 ^ (8 * (first :: rest).length) +
      bigEndian (first :: rest) = signedOf (first :: rest) := by
    rw [signedOf, List.length_cons]
    split
    · ring
    · ring
  rw [asnIntegerConvert]
  simp only [foldl_mod, toSigned_emod, hvalue]
  have hsigned : toSigned (63 + 1) (signedOf (first :: rest)) = signedOf (first :: rest) :=
    toSigned_of_range (by omega) (by omega)
  exact hsigned

theorem asnINTEGER2imax_eq {bytes : List UInt8} (few : bytes.length ≤ 8) :
    asnINTEGER2imax bytes = some (signedOf bytes) := by
  have hfew : ¬8 < bytes.length := by omega
  simp only [asnINTEGER2imax, if_neg hfew, asnIntegerConvert_eq few]

theorem asnImax2INTEGER_length (value : Int) :
    0 < (asnImax2INTEGER value).length ∧ (asnImax2INTEGER value).length ≤ 8 := by
  have hle := significant_length_le (bytesOf 8 (toUnsigned 64 value))
  rw [bytesOf_length] at hle
  have hne : bytesOf 8 (toUnsigned 64 value) ≠ [] := by
    intro empty
    have hlength := bytesOf_length 8 (toUnsigned 64 value)
    rw [empty] at hlength
    cases hlength
  exact ⟨List.length_pos_iff.mpr (significant_ne_nil hne), hle⟩

theorem asnINTEGER2imax_asnImax2INTEGER {value : Int} (long : IsLong value) :
    asnINTEGER2imax (asnImax2INTEGER value) = some value := by
  rw [asnINTEGER2imax_eq (asnImax2INTEGER_length value).2, asnImax2INTEGER, signedOf_significant]
  exact congrArg some (signedOf_bytesOf 7 long.1 long.2)

theorem highestOctet_spec {value : Nat} (j : Nat) (fits : value < 2 ^ (8 * (j + 1))) :
    value < 2 ^ (8 * (highestOctet value j + 1)) ∧
      (0 < highestOctet value j → 2 ^ (8 * highestOctet value j) ≤ value) := by
  induction j with
  | zero => exact ⟨fits, fun impossible => absurd impossible (lt_irrefl 0)⟩
  | succ j ih =>
      have hshift : value >>> ((j + 1) * 8) = 0 ↔ value < 2 ^ (8 * (j + 1)) := by
        rw [Nat.shiftRight_eq_div_pow, Nat.mul_comm (j + 1) 8, Nat.div_eq_zero_iff]
        simp
      unfold highestOctet
      split
      · next set =>
          refine ⟨fits, fun _ => ?_⟩
          rw [ne_eq, hshift] at set
          omega
      · next clear =>
          rw [ne_eq, not_not, hshift] at clear
          exact ih clear

theorem putOctets_conveys (octets : List UInt8) :
    Conveys (putOctets octets) (getOctets octets.length) fun _ got => got = octets := by
  induction octets with
  | nil => exact Conveys.pure rfl
  | cons octet octets ih =>
      apply (asnPutFewBits_conveys octet.toNat (by decide)).bind
      intro _ got same
      apply ih.mapping
      intro _ rest hrest
      have hmod : octet.toNat % 2 ^ 8 = octet.toNat := Nat.mod_eq_of_lt octet.toNat_lt
      rw [same, hrest, hmod, UInt8.ofNat_toNat]

/-- A value of the range comes back from as many bits, or octets, as the range has. -/
theorem putRanged_conveys {range_bits value : Nat} (small : range_bits ≤ 64)
    (fits : value < 2 ^ range_bits) :
    Conveys (putRanged range_bits value) (getRanged range_bits) fun _ got => got = value := by
  unfold putRanged getRanged
  by_cases few : range_bits < 8
  · rw [if_pos few, if_neg (by omega), if_pos few]
    apply (asnPutFewBits_conveys value (by omega)).mono
    intro _ got same
    rwa [Nat.mod_eq_of_lt fits] at same
  rw [if_neg few]
  by_cases octet : range_bits = 8
  · rw [if_pos octet, if_neg (by omega), if_neg few, if_pos octet]
    refine aperAlign_conveys.bind fun _ _ _ => ?_
    apply (asnPutFewBits_conveys value (by omega)).mono
    intro _ got same
    rwa [Nat.mod_eq_of_lt fits] at same
  rw [if_neg octet]
  by_cases two : range_bits ≤ 16
  · have hfits : value < 2 ^ 16 := lt_of_lt_of_le fits (Nat.pow_le_pow_right (by decide) two)
    rw [if_pos two, if_neg (by omega), if_neg few, if_neg octet]
    refine aperAlign_conveys.bind fun _ _ _ => ?_
    apply (asnPutFewBits_conveys value (by decide)).mono
    intro _ got same
    rwa [Nat.mod_eq_of_lt hfits] at same
  · have hword : value < 2 ^ (8 * (7 + 1)) :=
      lt_of_lt_of_le fits (Nat.pow_le_pow_right (by decide) small)
    rcases highestOctet_spec 7 hword with ⟨habove, hbelow⟩
    have hbytes : maxRangeBytes range_bits ≤ 8 := by
      unfold maxRangeBytes
      split
      · omega
      · omega
    have hoctets : highestOctet value 7 < maxRangeBytes range_bits := by
      have hwidth : 8 * highestOctet value 7 < range_bits := by
        by_cases zero : highestOctet value 7 = 0
        · omega
        · by_contra beyond
          have hpow : 2 ^ range_bits ≤ 2 ^ (8 * highestOctet value 7) :=
            Nat.pow_le_pow_right (by decide) (by omega)
          have hle := hbelow (by omega)
          omega
      unfold maxRangeBytes
      split
      · omega
      · omega
    have hrange := rangeWidth_spec (by omega : maxRangeBytes range_bits ≤ 255)
    rw [if_neg two, if_pos (by omega)]
    apply (asnPutFewBits_conveys (highestOctet value 7) (by omega)).bind
    intro _ length hlength
    rw [Nat.mod_eq_of_lt (by omega)] at hlength
    apply aperAlign_conveys.bind
    intro _ padding hpadding
    rw [if_neg (not_not.mpr hpadding), hlength]
    have hconveys := putOctets_conveys (bytesOf (highestOctet value 7 + 1) value)
    rw [bytesOf_length] at hconveys
    apply hconveys.mapping
    intro _ octets hread
    rw [hread, bigEndian_bytesOf, Nat.mod_eq_of_lt habove]

theorem putInext_conveys {ct : PerConstraint} {inext : Bool}
    (allowed : inext = true → ct.has APC_EXTENSIBLE = true) :
    Conveys (putInext ct inext) (getRoot (some ct))
      fun _ got => got = if inext then none else some ct := by
  unfold putInext getRoot
  by_cases extensible : ct.has APC_EXTENSIBLE = true
  · rw [if_pos extensible]
    simp only [if_pos extensible]
    apply (asnPutFewBits_conveys inext.toNat (by decide)).mapping
    intro _ got same
    cases inext with
    | true => rw [same]; rfl
    | false => rw [same]; rfl
  · have hinext : inext = false := by
      by_contra set
      exact extensible (allowed (by simpa using set))
    rw [if_neg extensible, hinext]
    simp only [if_neg extensible]
    exact Conveys.pure rfl

theorem putBody_conveys {st : List UInt8} (ends : Ends st.length) :
    Conveys (putBody st) getBody fun _ got => got = st :=
  all_convey (fun items _ => asnPutManyBits_conveys items) (fun _ _ => trivial) ends

theorem putBody_lost {st : List UInt8} (lost : ¬Ends st.length) {Got : Type}
    {next : List UInt8 → Get Got} {Post : Unit → Got → Prop} :
    ¬Conveys (putBody st) (getBody >>= next) Post :=
  all_lost (fun items _ => asnPutManyBits_conveys items) (fun _ _ => trivial) lost

/-- The constraints that can be generated for an integer: none, or both bounds and as many bits as
tell the values between them apart. -/
def IntegerConstraint (ct : PerConstraint) : Prop :=
  (ct.flags = APC_UNCONSTRAINED ∧ ct.range_bits < 0 ∧ ct.lower_bound = 0) ∨
    ((ct.flags = APC_CONSTRAINED ∨ ct.flags = APC_CONSTRAINED + APC_EXTENSIBLE) ∧
      0 ≤ ct.range_bits ∧ ct.range_bits ≤ 64 ∧
      ct.upper_bound - ct.lower_bound < 2 ^ ct.range_bits.toNat)

instance (ct : PerConstraint) : Decidable (IntegerConstraint ct) :=
  inferInstanceAs (Decidable (_ ∨ _))

/-- The type has the value: in its range, or among its extensions. -/
def Allows (ct : Option PerConstraint) (value : Int) : Prop :=
  IsLong value ∧ ∀ constraint, ct = some constraint → outOfRange constraint value = true →
    constraint.has APC_EXTENSIBLE = true

instance (ct : Option PerConstraint) (value : Int) : Decidable (Allows ct value) :=
  decidable_of_iff (IsLong value ∧ ∀ constraint ∈ ct, outOfRange constraint value = true →
    constraint.has APC_EXTENSIBLE = true) Iff.rfl

theorem toSigned_add (first second : Int) :
    toSigned 64 (toSigned 64 first + second) = toSigned 64 (first + second) := by
  rw [toSigned, toSigned, toSigned]
  exact Int.bmod_add_bmod

theorem lt_of_outOfRange {ct : PerConstraint} {value : Int}
    (constrained : ct.has APC_SEMI_CONSTRAINED = false) (bounded : 0 ≤ ct.range_bits)
    (inside : outOfRange ct value = false) : ct.lower_bound ≤ value ∧ value ≤ ct.upper_bound := by
  rw [outOfRange, if_neg (by rw [constrained]; decide), if_pos bounded] at inside
  simpa using inside

theorem ranged_conveys {ct : PerConstraint} {value : Int} (long : IsLong value)
    (bounded : 0 ≤ ct.range_bits) (few : ct.range_bits ≤ 64)
    (wide : ct.upper_bound - ct.lower_bound < 2 ^ ct.range_bits.toNat)
    (least : ct.lower_bound ≤ value) (greatest : value ≤ ct.upper_bound) :
    Conveys (putRanged ct.range_bits.toNat (toUnsigned 64 (value - ct.lower_bound)))
      (do
        let value ← getRanged ct.range_bits.toNat
        pure (asnImax2INTEGER (toSigned 64 (toSigned 64 value + ct.lower_bound))))
      fun _ got => got = asnImax2INTEGER value := by
  have hpow : (2 : Int) ^ ct.range_bits.toNat ≤ 2 ^ 64 :=
    pow_le_pow_right₀ (by decide) (by omega)
  have hword : (toUnsigned 64 (value - ct.lower_bound) : Int) = value - ct.lower_bound :=
    toUnsigned_of_range (by omega) (by omega)
  have hfits : toUnsigned 64 (value - ct.lower_bound) < 2 ^ ct.range_bits.toNat := by
    zify
    omega
  apply (putRanged_conveys (by omega) hfits).mapping
  intro _ got same
  have hvalue : toSigned 64 (toSigned 64 got + ct.lower_bound) = value := by
    rw [same, toSigned_add, hword, sub_add_cancel]
    have hsigned : toSigned (63 + 1) value = value := toSigned_of_range long.1 long.2
    exact hsigned
  rw [hvalue]

theorem integerEncode_conveys {ct : Option PerConstraint} {value : Int}
    (generated : ∀ constraint, ct = some constraint → IntegerConstraint constraint)
    (allowed : Allows ct value) :
    Conveys (integerEncodeAper ct (asnImax2INTEGER value)) (integerDecodeAper ct)
      fun _ got => got = asnImax2INTEGER value := by
  have hlength := asnImax2INTEGER_length value
  have hsome : (asnImax2INTEGER value).isEmpty = false := by
    rw [List.isEmpty_eq_false_iff, ← List.length_pos_iff]
    exact hlength.1
  have hconvert := asnINTEGER2imax_asnImax2INTEGER allowed.1
  have hends : Ends (asnImax2INTEGER value).length := by
    unfold Ends
    omega
  have hbody := putBody_conveys hends
  cases ct with
  | none =>
      have hencode : integerEncodeAper none (asnImax2INTEGER value) =
          putBody (asnImax2INTEGER value) := by
        simp only [integerEncodeAper, hsome, Bool.false_eq_true, if_false]
      rw [hencode]
      exact hbody
  | some ct =>
      simp only [integerEncodeAper, integerDecodeAper, hsome, hconvert, Bool.false_eq_true, if_false]
      apply (putInext_conveys (allowed.2 ct rfl)).bind
      intro _ root hroot
      rw [hroot]
      cases hout : outOfRange ct value with
      | true => exact hbody
      | false =>
          simp only [Bool.false_eq_true, if_false]
          rcases generated ct rfl with ⟨hflags, hbits, hlower⟩ | ⟨hflags, hbits, hfew, hwide⟩
          · rw [if_neg (not_le.mpr hbits), if_neg (not_not.mpr hlower),
              if_neg (not_not.mpr hflags)]
            have hlower' : ¬ct.lower_bound ≠ 0 := not_not.mpr hlower
            simp only [if_neg hlower']
            exact hbody.mapping fun _ _ same => same
          · have hconstrained : ct.has APC_SEMI_CONSTRAINED = false ∧ ct.flags ≠ APC_UNCONSTRAINED := by
              unfold has
              rcases hflags with hflags | hflags
              · rw [hflags]
                decide
              · rw [hflags]
                decide
            rcases lt_of_outOfRange hconstrained.1 hbits hout with ⟨hleast, hgreatest⟩
            rw [if_pos hbits, if_pos hconstrained.2, if_pos hbits]
            exact ranged_conveys allowed.1 hbits hfew hwide hleast hgreatest

/-- Every value that an integer type has comes back. -/
theorem integer_conveys {ct : Option PerConstraint} {value : Int}
    (generated : ∀ constraint, ct = some constraint → IntegerConstraint constraint)
    (allowed : Allows ct value) :
    Conveys (nativeIntegerEncodeAper ct value) (nativeIntegerDecodeAper ct)
      fun _ got => got = value := by
  apply (integerEncode_conveys generated allowed).finishing
  intro _ tmpint same
  have hvalue : asnINTEGER2imax tmpint = some value := by
    rw [same, asnINTEGER2imax_asnImax2INTEGER allowed.1]
  simp only [hvalue]
  exact Conveys.pure rfl

end NearRtRic.Asn1
