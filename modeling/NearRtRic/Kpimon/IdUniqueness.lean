import Mathlib.Tactic
import NearRtRic.Kpimon.PlmnReading

/-! When two cells have different id texts, and two slices different id numbers. -/

namespace NearRtRic.Kpimon

open NearRtRic.CMemory HeaderConsumer

abbrev plmnOctets : Nat := 3

/-- A PLMN identity of 3 octets and an NR cell identity of 36 bits in 5 octets. -/
structure CellGlobalID where
  plmn : Vector UInt8 plmnOctets
  cell : Vector UInt8 5
  deriving DecidableEq

namespace CellGlobalID

def nRCGI (id : CellGlobalID) : NRCGIType where
  plmnID := { buf := [id.plmn[0], id.plmn[1], id.plmn[2]], size := 3 }
  nRCellID :=
    { buf := [id.cell[0], id.cell[1], id.cell[2], id.cell[3], id.cell[4]]
      size := 5
      bitsUnused := 4 }

def nRCellIdentity (id : CellGlobalID) : Nat :=
  (((id.cell[0].toNat * 256 + id.cell[1].toNat) * 256 + id.cell[2].toNat) * 256 +
    id.cell[3].toNat) * 16 + id.cell[4].toNat / 16

def Apart (first second : CellGlobalID) : Prop :=
  first.plmn ≠ second.plmn ∨ first.nRCellIdentity ≠ second.nRCellIdentity

/-- The nibbles in the order in which they are written, without a filler. -/
def nibbles (id : CellGlobalID) : List Nat :=
  [E2T.high id.plmn[0], E2T.low id.plmn[0], E2T.high id.plmn[1]] ++
    (if E2T.low id.plmn[1] = 15 then [] else [E2T.low id.plmn[1]]) ++
    [E2T.high id.plmn[2], E2T.low id.plmn[2]] ++
    [E2T.high id.cell[0], E2T.low id.cell[0], E2T.high id.cell[1], E2T.low id.cell[1],
      E2T.high id.cell[2], E2T.low id.cell[2], E2T.high id.cell[3], E2T.low id.cell[3],
      E2T.high id.cell[4]]

local instance neZero_digits : NeZero 10 := ⟨by decide⟩

/-- A nibble from ten on takes two digits, a one and itself less ten. -/
def split (nibble : Nat) : List (Fin 10) :=
  if nibble < 10 then [Fin.ofNat 10 nibble] else [1, Fin.ofNat 10 (nibble - 10)]

def digits (id : CellGlobalID) : List (Fin 10) := id.nibbles.flatMap split

theorem low_lt (octet : UInt8) : E2T.low octet < 16 := by
  rw [E2T.low_eq]
  omega

theorem high_lt (octet : UInt8) : E2T.high octet < 16 := by
  rw [E2T.high_eq]
  have bounded := octet.toNat_lt
  omega

theorem decimal_eq_split : ∀ nibble < 16,
    E2T.decimal nibble = (split nibble).map PlmnDigits.digitChar := by
  decide

theorem nibbles_lt (id : CellGlobalID) : ∀ nibble ∈ id.nibbles, nibble < 16 := by
  unfold nibbles
  split
  · simp [low_lt, high_lt]
  · simp [low_lt, high_lt]

theorem shifted_four (octet : UInt8) : shifted octet 4 = E2T.high octet := by
  rw [E2T.high_eq]
  exact Nat.shiftRight_eq_div_pow octet.toNat 4

theorem filler_iff (octet : UInt8) : octet &&& 0xf = 0xf ↔ E2T.low octet = 15 := by
  constructor
  · intro filler
    exact congrArg UInt8.toNat filler
  · intro filler
    exact UInt8.toNat.inj filler

theorem toString_shifted (octet : UInt8) :
    (toString (shifted octet 4)).toList = E2T.decimal (E2T.high octet) := by
  rw [shifted_four]
  exact Nat.toList_repr

theorem parsePLMNIdentity_eq (first second third : UInt8) :
    ∃ plmnID, parsePLMNIdentity [first, second, third] 3 = .ok plmnID ∧
      plmnID.toList = ([E2T.high first, E2T.low first, E2T.high second] ++
        (if E2T.low second = 15 then [] else [E2T.low second]) ++
        [E2T.high third, E2T.low third]).flatMap E2T.decimal := by
  have sized : ¬ (3 : Int) ≠ 3 := by decide
  by_cases filler : E2T.low second = 15
  · refine ⟨_, (if_neg sized).trans (if_pos ((filler_iff second).mpr filler)), ?_⟩
    simp [filler, PlmnDigits.highDigit_toList, PlmnDigits.lowDigit_toList]
  · refine ⟨_, (if_neg sized).trans (if_neg (mt (filler_iff second).mp filler)), ?_⟩
    simp [filler, PlmnDigits.highDigit_toList, PlmnDigits.lowDigit_toList]

theorem parseNRCGI_eq (id : CellGlobalID) : ∃ cellID,
    parseNRCGI id.nRCGI = .ok cellID ∧ cellID.toList = id.nibbles.flatMap E2T.decimal := by
  rcases parsePLMNIdentity_eq id.plmn[0] id.plmn[1] id.plmn[2] with ⟨plmnID, parsed, text⟩
  have sized : ¬ (id.nRCGI.plmnID.size ≠ 3 ∨ id.nRCGI.nRCellID.size ≠ 5) := by
    rintro (wrong | wrong)
    · exact wrong rfl
    · exact wrong rfl
  have plmn : ignoringError "" (parsePLMNIdentity id.nRCGI.plmnID.buf id.nRCGI.plmnID.size) =
      .ok plmnID := congrArg (ignoringError "") parsed
  have shown := toString_shifted id.cell[4]
  rw [parseNRCGI, plmn]
  refine ⟨plmnID ++ highDigit id.cell[0] ++ lowDigit id.cell[0] ++ highDigit id.cell[1] ++
    lowDigit id.cell[1] ++ highDigit id.cell[2] ++ lowDigit id.cell[2] ++ highDigit id.cell[3] ++
    lowDigit id.cell[3] ++ toString (shifted id.cell[4] 4), ?_, ?_⟩
  · rw [bind_ok, if_neg sized]
    rfl
  · simp only [String.toList_append, text, shown, PlmnDigits.highDigit_toList,
      PlmnDigits.lowDigit_toList]
    simp [nibbles]

theorem parseNRCGI_digits (id : CellGlobalID) : ∃ cellID,
    parseNRCGI id.nRCGI = .ok cellID ∧ cellID.toList = id.digits.map PlmnDigits.digitChar := by
  rcases parseNRCGI_eq id with ⟨cellID, parsed, text⟩
  refine ⟨cellID, parsed, ?_⟩
  calc
    cellID.toList = id.nibbles.flatMap E2T.decimal := text
    _ = id.nibbles.flatMap fun nibble => (split nibble).map PlmnDigits.digitChar :=
      List.flatMap_congr fun nibble member => decimal_eq_split nibble (nibbles_lt id nibble member)
    _ = id.digits.map PlmnDigits.digitChar := List.map_flatMap.symm

theorem parsed_ne_iff (first second : CellGlobalID) :
    parseNRCGI first.nRCGI ≠ parseNRCGI second.nRCGI ↔ first.digits ≠ second.digits := by
  rcases parseNRCGI_digits first with ⟨firstText, firstParsed, firstDigits⟩
  rcases parseNRCGI_digits second with ⟨secondText, secondParsed, secondDigits⟩
  rw [firstParsed, secondParsed, not_iff_not, Except.ok.injEq, ← String.toList_inj, firstDigits,
    secondDigits]
  exact (List.map_injective_iff.mpr PlmnDigits.digitChar_injective).eq_iff

theorem split_of_lt {nibble : Nat} (decimal : nibble < 10) :
    split nibble = [Fin.ofNat 10 nibble] :=
  if_pos decimal

theorem digits_of_decimal {id : CellGlobalID} (decimal : ∀ nibble ∈ id.nibbles, nibble < 10) :
    id.digits.map Fin.val = id.nibbles := by
  have single : ∀ nibbles : List Nat, (∀ nibble ∈ nibbles, nibble < 10) →
      (nibbles.flatMap split).map Fin.val = nibbles := by
    intro nibbles
    induction nibbles with
    | nil => exact fun _ => rfl
    | cons nibble nibbles ih =>
        intro decimal
        rw [List.forall_mem_cons] at decimal
        rw [List.flatMap_cons, List.map_append, ih decimal.2, split_of_lt decimal.1,
          List.map_singleton, Fin.val_ofNat, Nat.mod_eq_of_lt decimal.1, List.singleton_append]
  exact single id.nibbles decimal

theorem octet_of_nibbles {first second : UInt8} (low : E2T.low first = E2T.low second)
    (high : E2T.high first = E2T.high second) : first = second := by
  rw [E2T.low_eq, E2T.low_eq] at low
  rw [E2T.high_eq, E2T.high_eq] at high
  apply UInt8.toNat.inj
  omega

theorem length_nibbles (id : CellGlobalID) :
    id.nibbles.length = if E2T.low id.plmn[1] = 15 then 14 else 15 := by
  unfold nibbles
  split <;> rfl

theorem plmn_ext {first second : Vector UInt8 plmnOctets} (one : first[0] = second[0])
    (two : first[1] = second[1]) (three : first[2] = second[2]) : first = second := by
  apply Vector.ext
  intro index inside
  interval_cases index
  · exact one
  · exact two
  · exact three

theorem nRCellIdentity_eq (id : CellGlobalID) :
    id.nRCellIdentity = Nat.ofDigits 16 [E2T.high id.cell[4], E2T.low id.cell[3],
      E2T.high id.cell[3], E2T.low id.cell[2], E2T.high id.cell[2], E2T.low id.cell[1],
      E2T.high id.cell[1], E2T.low id.cell[0], E2T.high id.cell[0]] := by
  simp only [nRCellIdentity, E2T.high_eq, E2T.low_eq, Nat.ofDigits_cons, Nat.ofDigits_nil]
  omega

theorem nibbles_ne_of_apart {first second : CellGlobalID} (apart : Apart first second) :
    first.nibbles ≠ second.nibbles := by
  intro same
  have lengths := congrArg List.length same
  rw [length_nibbles, length_nibbles] at lengths
  have alike : first.plmn = second.plmn ∧ first.nRCellIdentity = second.nRCellIdentity := by
    rw [nRCellIdentity_eq, nRCellIdentity_eq]
    by_cases filler : E2T.low first.plmn[1] = 15
    · have other : E2T.low second.plmn[1] = 15 := by
        by_contra other
        rw [if_pos filler, if_neg other] at lengths
        cases lengths
      simp only [nibbles, if_pos filler, if_pos other, List.cons_append, List.nil_append,
        List.cons.injEq, and_true] at same
      rcases same with ⟨h0, l0, h1, h2, l2, cells⟩
      refine ⟨plmn_ext (octet_of_nibbles l0 h0) (octet_of_nibbles (filler.trans other.symm) h1)
        (octet_of_nibbles l2 h2), ?_⟩
      simp only [cells]
    · have other : E2T.low second.plmn[1] ≠ 15 := by
        intro other
        rw [if_neg filler, if_pos other] at lengths
        cases lengths
      simp only [nibbles, if_neg filler, if_neg other, List.cons_append, List.nil_append,
        List.cons.injEq, and_true] at same
      rcases same with ⟨h0, l0, h1, l1, h2, l2, cells⟩
      refine ⟨plmn_ext (octet_of_nibbles l0 h0) (octet_of_nibbles l1 h1)
        (octet_of_nibbles l2 h2), ?_⟩
      simp only [cells]
  cases apart with
  | inl plmn => exact plmn alike.1
  | inr cell => exact cell alike.2

theorem digits_ne_of_decimal {first second : CellGlobalID} (apart : Apart first second)
    (decimal : ∀ nibble ∈ first.nibbles, nibble < 10)
    (decimal' : ∀ nibble ∈ second.nibbles, nibble < 10) : first.digits ≠ second.digits := by
  intro same
  apply nibbles_ne_of_apart apart
  rw [← digits_of_decimal decimal, ← digits_of_decimal decimal', same]

/-- Two cells that are apart have different texts exactly if the digits of their nibbles differ, which
they do where neither id has a nibble from ten on. -/
theorem cellIDs_differ_iff (first second : CellGlobalID) :
    ((Apart first second → parseNRCGI first.nRCGI ≠ parseNRCGI second.nRCGI) ↔
        (Apart first second → first.digits ≠ second.digits)) ∧
      ((∀ nibble ∈ first.nibbles ++ second.nibbles, nibble < 10) → Apart first second →
        parseNRCGI first.nRCGI ≠ parseNRCGI second.nRCGI) := by
  refine ⟨forall_congr' fun _ => parsed_ne_iff first second, fun decimal apart => ?_⟩
  rw [List.forall_mem_append] at decimal
  exact (parsed_ne_iff first second).mpr (digits_ne_of_decimal apart decimal.1 decimal.2)

def plmn001 : Vector UInt8 plmnOctets := #v[0x00, 0x1F, 0x01]

/-- The nibbles 10, 1 and 0 read as 1, 0 and 10 do. -/
theorem cells_share_id :
    ¬ ∀ first second : CellGlobalID, Apart first second →
      parseNRCGI first.nRCGI ≠ parseNRCGI second.nRCGI := by
  intro claim
  have apart := claim ⟨plmn001, #v[0xA1, 0x00, 0x00, 0x00, 0x00]⟩
    ⟨plmn001, #v[0x10, 0xA0, 0x00, 0x00, 0x00]⟩ (.inr (by decide))
  exact apart (by decide +kernel)

end CellGlobalID

abbrev sdOctets : Nat := 3

/-- An SST of 1 octet and an SD of 3 octets or none. -/
structure SNSSAI where
  sST : UInt8
  sD : Option (Vector UInt8 sdOctets)
  deriving DecidableEq

namespace SNSSAI

def sliceID (snssai : SNSSAI) : SliceIDType where
  sST := { buf := [snssai.sST], size := 1 }
  sD := snssai.sD.map fun sD => { buf := [sD[0], sD[1], sD[2]], size := 3 }

def bigEndian (sD : Vector UInt8 sdOctets) : Nat :=
  (sD[0].toNat * 256 + sD[1].toNat) * 256 + sD[2].toNat

/-- An absent SD counts as zero. -/
def sd (snssai : SNSSAI) : Nat := (snssai.sD.map bigEndian).getD 0

def word (snssai : SNSSAI) : Nat := snssai.sST.toNat * 2 ^ 24 + snssai.sd

def WithoutSD (snssai : SNSSAI) : Prop :=
  snssai.sD = none ∨ snssai.sD = some #v[0, 0, 0]

theorem bigEndian_lt (sD : Vector UInt8 sdOctets) : bigEndian sD < 2 ^ 24 := by
  have first := sD[0].toNat_lt
  have second := sD[1].toNat_lt
  have third := sD[2].toNat_lt
  unfold bigEndian
  omega

theorem bigEndian_injective : Function.Injective bigEndian := by
  intro left right same
  have leftSecond := left[1].toNat_lt
  have leftThird := left[2].toNat_lt
  have rightSecond := right[1].toNat_lt
  have rightThird := right[2].toNat_lt
  unfold bigEndian at same
  apply CellGlobalID.plmn_ext
  · apply UInt8.toNat.inj
    omega
  · apply UInt8.toNat.inj
    omega
  · apply UInt8.toNat.inj
    omega

theorem sd_lt (snssai : SNSSAI) : snssai.sd < 2 ^ 24 := by
  unfold sd
  cases snssai.sD with
  | none => decide
  | some sD => exact bigEndian_lt sD

theorem word_lt (snssai : SNSSAI) : snssai.word < 2 ^ 32 := by
  have sST := snssai.sST.toNat_lt
  have bounded := snssai.sd_lt
  unfold word
  omega

theorem parseSliceID_eq (snssai : SNSSAI) :
    parseSliceID snssai.sliceID = .ok (signed 32 snssai.word) := by
  cases snssai with
  | mk sST sD =>
      cases sD with
      | none => simp [parseSliceID, sliceID, word, sd, pure, Except.pure]
      | some sD =>
          simp [parseSliceID, sliceID, word, sd, bigEndian, byteAt, orFault, pure, Except.pure]

theorem bigEndian_eq_zero_iff (sD : Vector UInt8 sdOctets) : bigEndian sD = 0 ↔ sD = #v[0, 0, 0] :=
  bigEndian_injective.eq_iff' rfl

theorem sd_eq_zero_iff (snssai : SNSSAI) : snssai.sd = 0 ↔ snssai.WithoutSD := by
  unfold sd WithoutSD
  cases snssai.sD with
  | none => simp
  | some sD => simp [bigEndian_eq_zero_iff]

/-- Equal where both are present or both absent; otherwise one is absent and the other 0. -/
theorem sd_eq_iff (first second : SNSSAI) : first.sd = second.sd ↔
    first.sD = second.sD ∨ first.WithoutSD ∧ second.WithoutSD := by
  constructor
  · intro same
    by_cases zero : first.sd = 0
    · exact .inr ⟨(sd_eq_zero_iff first).mp zero, (sd_eq_zero_iff second).mp (same ▸ zero)⟩
    · have other : second.sd ≠ 0 := same ▸ zero
      unfold sd at same zero other
      cases present : first.sD with
      | none => simp [present] at zero
      | some sD =>
          cases present' : second.sD with
          | none => simp [present'] at other
          | some sD' =>
              simp only [present, present', Option.map_some, Option.getD_some] at same
              exact .inl (congrArg some (bigEndian_injective same))
  · rintro (same | ⟨absent, absent'⟩)
    · rw [sd, sd, same]
    · rw [(sd_eq_zero_iff first).mpr absent, (sd_eq_zero_iff second).mpr absent']

/-- Two slices share a word exactly if they have one SST and one SD, where an absent SD is not
told apart from 0. -/
theorem word_eq_iff (first second : SNSSAI) : first.word = second.word ↔
    first.sST = second.sST ∧ (first.sD = second.sD ∨ first.WithoutSD ∧ second.WithoutSD) := by
  have firstBound := first.sd_lt
  have secondBound := second.sd_lt
  have parts : first.word = second.word ↔
      first.sST.toNat = second.sST.toNat ∧ first.sd = second.sd := by
    unfold word
    omega
  rw [parts, UInt8.toNat_inj, sd_eq_iff]

def lastSlice : SNSSAI where
  sST := 255
  sD := some #v[255, 255, 255]

theorem parsed_minusOne_iff (snssai : SNSSAI) :
    parseSliceID snssai.sliceID = .ok (-1) ↔ snssai = lastSlice := by
  have minusOne : signed 32 lastSlice.word = -1 := by
    unfold signed
    decide +kernel
  have withSD : ¬ lastSlice.WithoutSD := by
    rintro (absent | zero)
    · cases absent
    · exact absurd zero (by decide)
  rw [parseSliceID_eq, Except.ok.injEq, ← minusOne, signed_inj snssai.word_lt lastSlice.word_lt,
    word_eq_iff]
  constructor
  · rintro ⟨sST, sD | ⟨-, absent⟩⟩
    · cases snssai
      cases sST
      cases sD
      rfl
    · exact absurd absent withSD
  · rintro rfl
    exact ⟨rfl, .inl rfl⟩

/-- The number of a slice is not -1 and no other slice has it: exactly if the slice is not the
last one, and the other slice does not just lack what this one has as SD 0, or have what this
one lacks. -/
theorem sliceIDs_unique_iff (first second : SNSSAI) :
    (parseSliceID first.sliceID ≠ .ok (-1) ∧
        (first ≠ second → parseSliceID first.sliceID ≠ parseSliceID second.sliceID)) ↔
      first ≠ lastSlice ∧
        (first ≠ second → ¬ (first.sST = second.sST ∧ first.WithoutSD ∧ second.WithoutSD)) := by
  have parsed : parseSliceID first.sliceID = parseSliceID second.sliceID ↔
      first.word = second.word := by
    rw [parseSliceID_eq, parseSliceID_eq, Except.ok.injEq,
      signed_inj first.word_lt second.word_lt]
  apply and_congr
  · exact not_congr (parsed_minusOne_iff first)
  · apply forall_congr'
    intro apart
    rw [ne_eq, parsed, word_eq_iff, not_iff_not]
    constructor
    · rintro ⟨sST, sD | absent⟩
      · exact absurd (SNSSAI.mk.injEq .. ▸ ⟨sST, sD⟩) apart
      · exact ⟨sST, absent⟩
    · rintro ⟨sST, absent⟩
      exact ⟨sST, .inr absent⟩

/-- The last slice has the number that stands for no slice. -/
theorem lastSlice_reads_as_none :
    ¬ ∀ first second : SNSSAI, parseSliceID first.sliceID ≠ .ok (-1) ∧
      (first ≠ second → parseSliceID first.sliceID ≠ parseSliceID second.sliceID) := by
  intro claim
  exact (claim lastSlice lastSlice).1 ((parsed_minusOne_iff lastSlice).mpr rfl)

end SNSSAI

end NearRtRic.Kpimon
