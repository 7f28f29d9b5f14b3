import NearRtRic.E2T.RanName
import NearRtRic.Kpimon.HeaderAssertions

/-! How the E2 termination and KPIMON read one PLMN identity. -/

namespace NearRtRic.Kpimon

open Buffer HeaderConsumer

/-- The digits of a PLMN; an MNC has a third one or not. -/
structure PlmnDigits where
  mcc1 : Fin 10
  mcc2 : Fin 10
  mcc3 : Fin 10
  mnc1 : Fin 10
  mnc2 : Fin 10
  mnc3 : Option (Fin 10)
  deriving DecidableEq, Repr

namespace PlmnDigits

variable (digits : PlmnDigits)

/-- The third digit of the MNC, 15 where there is none. -/
def filler : Nat := (digits.mnc3.map Fin.val).getD 15

def pair (high low : Nat) : UInt8 := UInt8.ofNat (16 * high + low)

/-- The octets MCC2 MCC1, MNC3 MCC3 and MNC2 MNC1. -/
def octets : E2T.PlmnIdentity :=
  #v[pair digits.mcc2 digits.mcc1, pair digits.filler digits.mcc3, pair digits.mnc2 digits.mnc1]

def digitChar (digit : Fin 10) : Char := Nat.digitChar digit

def mcc : List Char := [digitChar digits.mcc1, digitChar digits.mcc2, digitChar digits.mcc3]

def mnc : List Char :=
  digitChar digits.mnc1 :: digitChar digits.mnc2 :: (digits.mnc3.map digitChar).toList

/-- A string that C can hold: no NUL within it. -/
abbrev CString := { text : String // Plain text.toList }

/-- Both read the digits and no others: the E2 termination writes them behind the type with an
underscore in between, KPIMON one behind the other. -/
structure ReadAlike (type : CString) (plmnId : List Char) : Prop where
  e2t : string (E2T.translatePlmnId plmnId digits.octets type.val).1 =
    type.val.toList ++ digits.mcc ++ '_' :: digits.mnc
  kpimon : ∃ plmnID, parsePLMNIdentity digits.octets.toList 3 = .ok plmnID ∧
    plmnID.toList = digits.mcc ++ digits.mnc

theorem filler_lt : digits.filler < 16 := by
  rw [filler]
  cases digits.mnc3 with
  | none => decide
  | some digit =>
      have small := digit.isLt
      simp only [Option.map_some, Option.getD_some]
      omega

theorem pair_toNat {high low : Nat} (smallHigh : high < 16) (smallLow : low < 16) :
    (pair high low).toNat = 16 * high + low := by
  have small : 16 * high + low < 256 := by omega
  exact UInt8.toNat_ofNat_of_lt' small

theorem low_pair {high low : Nat} (smallHigh : high < 16) (smallLow : low < 16) :
    E2T.low (pair high low) = low := by
  rw [E2T.low_eq, pair_toNat smallHigh smallLow]
  omega

theorem high_pair {high low : Nat} (smallHigh : high < 16) (smallLow : low < 16) :
    E2T.high (pair high low) = high := by
  rw [E2T.high_eq, pair_toNat smallHigh smallLow]
  omega

theorem digit_lt (digit : Fin 10) : digit.val < 16 := by
  have small := digit.isLt
  omega

theorem decimal_digit (digit : Fin 10) : E2T.decimal digit = [digitChar digit] :=
  Nat.toDigits_of_lt_base digit.isLt

theorem digitChar_injective : Function.Injective digitChar := by
  decide

theorem mccText_octets : E2T.mccText digits.octets = digits.mcc := by
  have first := low_pair (digit_lt digits.mcc2) (digit_lt digits.mcc1)
  have second := high_pair (digit_lt digits.mcc2) (digit_lt digits.mcc1)
  have third := low_pair digits.filler_lt (digit_lt digits.mcc3)
  calc
    E2T.mccText digits.octets
        = E2T.decimal digits.mcc1 ++ E2T.decimal digits.mcc2 ++ E2T.decimal digits.mcc3 := by
      simp only [E2T.mccText, octets, Vector.getElem_mk, List.getElem_toArray,
        List.getElem_cons_zero, List.getElem_cons_succ, first, second, third]
    _ = digits.mcc := by
      simp only [decimal_digit]
      rfl

theorem mncText_octets :
    E2T.mncText digits.octets =
      if digits.mnc3 = none then '0' :: digits.mnc else digits.mnc := by
  have first := low_pair (digit_lt digits.mnc2) (digit_lt digits.mnc1)
  have second := high_pair (digit_lt digits.mnc2) (digit_lt digits.mnc1)
  have third := high_pair digits.filler_lt (digit_lt digits.mcc3)
  simp only [E2T.mncText, octets, Vector.getElem_mk, List.getElem_toArray,
    List.getElem_cons_zero, List.getElem_cons_succ, first, second, third, decimal_digit]
  cases present : digits.mnc3 with
  | none => simp [filler, mnc, present]
  | some digit =>
      have small := digit.isLt
      have counted : digits.filler = digit := by simp [filler, present]
      have notFiller : digits.filler ≠ 15 := by omega
      rw [if_pos notFiller, counted, decimal_digit]
      simp [mnc, present]

theorem lowDigit_toList (octet : UInt8) : (lowDigit octet).toList = E2T.decimal (E2T.low octet) := by
  rw [lowDigit, E2T.decimal]
  exact Nat.toList_repr

theorem highDigit_toList (octet : UInt8) :
    (highDigit octet).toList = E2T.decimal (E2T.high octet) := by
  have value : (octet >>> 4).toNat = E2T.high octet := by
    rw [E2T.high_eq, UInt8.toNat_shiftRight]
    exact Nat.shiftRight_eq_div_pow octet.toNat 4
  rw [highDigit, value, E2T.decimal]
  exact Nat.toList_repr

/-- KPIMON takes the two nibbles of each octet in the other order, and reads the filler as a
digit of the MCC. -/
theorem parsePLMNIdentity_octets :
    ∃ plmnID, parsePLMNIdentity digits.octets.toList 3 = .ok plmnID ∧
      plmnID.toList = [digitChar digits.mcc2, digitChar digits.mcc1] ++
        E2T.decimal digits.filler ++
        [digitChar digits.mcc3, digitChar digits.mnc2, digitChar digits.mnc1] := by
  have lowFirst := low_pair (digit_lt digits.mcc2) (digit_lt digits.mcc1)
  have highFirst := high_pair (digit_lt digits.mcc2) (digit_lt digits.mcc1)
  have lowSecond := low_pair digits.filler_lt (digit_lt digits.mcc3)
  have highSecond := high_pair digits.filler_lt (digit_lt digits.mcc3)
  have lowThird := low_pair (digit_lt digits.mnc2) (digit_lt digits.mnc1)
  have highThird := high_pair (digit_lt digits.mnc2) (digit_lt digits.mnc1)
  have notFiller : ¬ pair digits.filler digits.mcc3 &&& 0xf = 0xf := by
    intro filled
    have fifteen : E2T.low (pair digits.filler digits.mcc3) = 15 := congrArg UInt8.toNat filled
    have small := digits.mcc3.isLt
    omega
  refine ⟨_, if_neg notFiller, ?_⟩
  simp only [String.toList_append, highDigit_toList, lowDigit_toList, lowFirst, highFirst,
    lowSecond, highSecond, lowThird, highThird, decimal_digit]
  simp

theorem kpimon_iff :
    (∃ plmnID, parsePLMNIdentity digits.octets.toList 3 = .ok plmnID ∧
      plmnID.toList = digits.mcc ++ digits.mnc) ↔
      digits.mcc1 = digits.mcc2 ∧ digits.mcc3 = digits.mnc1 ∧ digits.mnc3 = some digits.mnc1 := by
  obtain ⟨plmnID, parsed, text⟩ := digits.parsePLMNIdentity_octets
  rw [parsed]
  simp only [Except.ok.injEq, exists_eq_left', text]
  cases present : digits.mnc3 with
  | none =>
      have fifteen : E2T.decimal 15 = ['1', '5'] := rfl
      simp [filler, mcc, mnc, present, fifteen]
  | some digit =>
      have filled : digits.filler = digit := by simp [filler, present]
      rw [filled, decimal_digit]
      simp only [mcc, mnc, present, Option.map_some, Option.toList_some, List.cons_append,
        List.nil_append, List.cons.injEq, digitChar_injective.eq_iff, and_true, Option.some.injEq]
      constructor
      · rintro ⟨same, -, third, first, -, last⟩
        exact ⟨same.symm, first, last.symm⟩
      · rintro ⟨same, first, last⟩
        exact ⟨same.symm, same, last.trans first.symm, first, trivial, last.symm⟩

theorem e2t_iff {digit : Fin 10} (present : digits.mnc3 = some digit) (type : CString)
    (plmnId : List Char) :
    string (E2T.translatePlmnId plmnId digits.octets type.val).1 =
        type.val.toList ++ digits.mcc ++ '_' :: digits.mnc ↔ type.val.toList.length ≤ 12 := by
  have whole : E2T.plmnText type.val digits.octets =
      type.val.toList ++ digits.mcc ++ '_' :: digits.mnc := by
    rw [E2T.plmnText, mccText_octets, mncText_octets, if_neg (by simp [present])]
  have length : (type.val.toList ++ digits.mcc ++ '_' :: digits.mnc).length =
      type.val.toList.length + 7 := by
    simp [mcc, mnc, present]
  rw [E2T.translatePlmnId_eq, string_snprintf (E2T.plain_plmnText type.property _), whole,
    List.take_eq_self_iff, length]
  omega

/-- What the two agree on: an MCC whose first two digits are equal, with an MNC whose outer
digits are the third of the MCC, behind a type of at most 12 characters. -/
theorem readAlike_iff (type : CString) (plmnId : List Char) :
    digits.ReadAlike type plmnId ↔
      type.val.toList.length ≤ 12 ∧ digits.mcc1 = digits.mcc2 ∧ digits.mcc3 = digits.mnc1 ∧
        digits.mnc3 = some digits.mnc1 := by
  constructor
  · rintro ⟨e2t, kpimon⟩
    obtain ⟨same, first, last⟩ := digits.kpimon_iff.mp kpimon
    exact ⟨(digits.e2t_iff last type plmnId).mp e2t, same, first, last⟩
  · rintro ⟨short, same, first, last⟩
    exact ⟨(digits.e2t_iff last type plmnId).mpr short, digits.kpimon_iff.mpr ⟨same, first, last⟩⟩

def plmn310410 : PlmnDigits where
  mcc1 := 3
  mcc2 := 1
  mcc3 := 0
  mnc1 := 4
  mnc2 := 1
  mnc3 := some 0

/-- KPIMON reads 130014. -/
theorem plmn310410_read_apart :
    ¬ ∀ (digits : PlmnDigits) (type : CString) (plmnId : List Char),
      digits.ReadAlike type plmnId := by
  intro claim
  obtain ⟨plmnID, parsed, text⟩ := (claim plmn310410 ⟨"gnb_", by decide⟩ []).kpimon
  obtain rfl := Except.ok.inj (parsed.symm.trans
    (rfl : parsePLMNIdentity plmn310410.octets.toList 3 = .ok "130014"))
  exact absurd text (by decide)

end PlmnDigits

end NearRtRic.Kpimon
