import Mathlib.Tactic
import NearRtRic.Library.Bits
import NearRtRic.Library.Transmission

/-! Reading bits from the octets of a message: the half of `asn_bit_data.c` that decodes. -/

namespace NearRtRic.Asn1

open Bits Transmission

/-- How coding stops: with -1 or with a code other than `RC_OK`, or by touching an octet that
is not there. -/
inductive Stop
  | failed
  | outside
  deriving DecidableEq, Repr

structure AsnBitData where
  /-- The octets from the pointer on. -/
  buffer : List UInt8
  nboff : Nat
  nbits : Nat
  moved : Nat
  deriving DecidableEq, Repr

namespace AsnBitData

def left (pd : AsnBitData) : List Bool :=
  ((octets pd.buffer).take pd.nbits).drop pd.nboff

structure Valid (pd : AsnBitData) : Prop where
  inside : pd.nboff ≤ pd.nbits
  stored : pd.nbits ≤ 8 * pd.buffer.length
  counted : pd.moved % 8 = pd.nboff % 8

instance (pd : AsnBitData) : Decidable pd.Valid :=
  decidable_of_iff
    (pd.nboff ≤ pd.nbits ∧ pd.nbits ≤ 8 * pd.buffer.length ∧ pd.moved % 8 = pd.nboff % 8)
    ⟨fun holds => ⟨holds.1, holds.2.1, holds.2.2⟩,
      fun valid => ⟨valid.inside, valid.stored, valid.counted⟩⟩

theorem exists_standing (consumed : Nat) (symbols : List Bool) :
    ∃ pd : AsnBitData, pd.Valid ∧ pd.moved = consumed ∧ pd.left = symbols := by
  rcases exists_octets (List.replicate (consumed % 8) false ++ symbols) with ⟨bytes, hbytes⟩
  have hlength := congrArg List.length hbytes
  simp only [octets_length, List.length_append, List.length_replicate] at hlength
  refine ⟨⟨bytes, consumed % 8, consumed % 8 + symbols.length, consumed⟩, ⟨?_, ?_, ?_⟩, rfl, ?_⟩
  · exact Nat.le_add_right _ _
  · simp only [hlength]
    omega
  · exact (Nat.mod_mod _ _).symm
  · simp only [left, hbytes]
    have hbits : (List.replicate (consumed % 8) false ++ symbols).length =
        consumed % 8 + symbols.length := by
      rw [List.length_append, List.length_replicate]
    rw [List.take_left' hbits, List.drop_left' List.length_replicate]

/-- The pointer is some octets further, and as many bits of the same octets were consumed as
`moved` counts. -/
def Moves (before after : AsnBitData) : Prop :=
  ∃ count ≤ before.buffer.length, after.buffer = before.buffer.drop count ∧
    after.nbits + 8 * count = before.nbits ∧ before.moved ≤ after.moved ∧
    after.moved + before.nboff = before.moved + (8 * count + after.nboff)

theorem Moves.refl (pd : AsnBitData) : pd.Moves pd :=
  ⟨0, Nat.zero_le _, rfl, rfl, le_rfl, by omega⟩

theorem Moves.trans {first second third : AsnBitData} (moves : first.Moves second)
    (rest : second.Moves third) : first.Moves third := by
  rcases moves with ⟨count, hcount, hbuffer, hnbits, hmoved, hnboff⟩
  rcases rest with ⟨count', hcount', hbuffer', hnbits', hmoved', hnboff'⟩
  rw [hbuffer, List.length_drop] at hcount'
  refine ⟨count + count', by omega, ?_, by omega, by omega, by omega⟩
  rw [hbuffer', hbuffer, List.drop_drop]

instance : Source AsnBitData Bool Stop where
  Valid := Valid
  Moves := Moves
  fault := .outside
  refl := Moves.refl
  trans := Moves.trans
  position := moved
  left := left
  standing := exists_standing

def normalized (pd : AsnBitData) : AsnBitData :=
  { pd with
    buffer := pd.buffer.drop (pd.nboff / 8)
    nbits := pd.nbits - pd.nboff / 8 * 8
    nboff := pd.nboff % 8 }

def advanced (pd : AsnBitData) (nbits : Nat) : AsnBitData :=
  { pd with nboff := pd.nboff + nbits, moved := pd.moved + nbits }

def load (pd : AsnBitData) (count : Nat) : Except Stop Nat :=
  if count ≤ pd.buffer.length then .ok (bigEndian (pd.buffer.take count)) else .error .outside

/-- The bits up to `off`, where the branches of `asn_get_few_bits` differ in how many octets they
take: `accum` before it is masked. -/
def accumulated (pd : AsnBitData) (nbits off : Nat) : Except Stop Nat :=
  if off ≤ 8 then
    if nbits = 0 then .ok 0 else (· >>> (8 - off)) <$> pd.load 1
  else if off ≤ 16 then (· >>> (16 - off)) <$> pd.load 2
  else if off ≤ 24 then (· >>> (24 - off)) <$> pd.load 3
  else (· >>> (32 - off)) <$> pd.load 4

/-- A step of at most 31 bits with its offset. -/
def getWithin (pd : AsnBitData) (nbits : Nat) : Except Stop (Nat × AsnBitData) := do
  let pd := pd.normalized
  let accum ← pd.accumulated nbits (pd.nboff + nbits)
  pure (accum % 2 ^ nbits, pd.advanced nbits)

end AsnBitData

open AsnBitData

/-- The calls on the copy `tpd` take 24 bits and what is left, so they end in `getWithin`. -/
def getFewBits (pd : AsnBitData) (nbits : Nat) : Except Stop (Nat × AsnBitData) :=
  if pd.nbits - pd.nboff < nbits then .error .failed
  else if pd.nboff % 8 + nbits ≤ 31 then pd.getWithin nbits
  else if nbits ≤ 31 then do
    let (high, tpd) ← pd.getWithin (nbits - 24)
    let (low, _) ← tpd.getWithin 24
    pure ((high <<< 24 ||| low) % 2 ^ nbits, pd.normalized.advanced nbits)
  else .error .failed

namespace AsnBitData

variable {pd : AsnBitData} {nbits : Nat}

theorem left_length (valid : pd.Valid) : pd.left.length = pd.nbits - pd.nboff := by
  rw [left, List.length_drop, List.length_take, octets_length, Nat.min_eq_left valid.stored]

theorem normalized_nboff_lt (pd : AsnBitData) : pd.normalized.nboff < 8 :=
  Nat.mod_lt _ (by decide)

theorem Valid.normalized (valid : pd.Valid) : pd.normalized.Valid := by
  have hinside := valid.inside
  have hstored := valid.stored
  refine ⟨?_, ?_, ?_⟩
  · simp only [AsnBitData.normalized]
    omega
  · simp only [AsnBitData.normalized, List.length_drop]
    omega
  · simp only [AsnBitData.normalized, Nat.mod_mod]
    exact valid.counted

theorem left_normalized (pd : AsnBitData) : pd.normalized.left = pd.left := by
  have hoffset : 8 * (pd.nboff / 8) + pd.nboff % 8 = pd.nboff := Nat.div_add_mod _ _
  calc
    pd.normalized.left
    _ = (((octets pd.buffer).drop (8 * (pd.nboff / 8))).take (pd.nbits - pd.nboff / 8 * 8)).drop
          (pd.nboff % 8) := by
        rw [left, AsnBitData.normalized, octets_drop]
    _ = (((octets pd.buffer).take pd.nbits).drop (8 * (pd.nboff / 8))).drop (pd.nboff % 8) := by
        rw [Nat.mul_comm (pd.nboff / 8), ← List.drop_take]
    _ = pd.left := by
        rw [List.drop_drop, hoffset, left]

theorem Valid.advanced (valid : pd.Valid) (inside : pd.nboff + nbits ≤ pd.nbits) :
    (pd.advanced nbits).Valid := by
  have hcounted := valid.counted
  refine ⟨inside, valid.stored, ?_⟩
  simp only [AsnBitData.advanced]
  omega

theorem left_advanced (pd : AsnBitData) (nbits : Nat) :
    (pd.advanced nbits).left = pd.left.drop nbits := by
  rw [left, left, List.drop_drop]
  rfl

theorem load_middle (valid : pd.Valid) {count : Nat} (inside : pd.nboff + nbits ≤ pd.nbits)
    (below : pd.nboff + nbits ≤ 8 * count) (needed : 8 * count < pd.nboff + nbits + 8) :
    ∃ word, pd.load count = .ok word ∧
      word >>> (8 * count - (pd.nboff + nbits)) % 2 ^ nbits = wordOf (pd.left.take nbits) := by
  have hstored := valid.stored
  have hcount : count ≤ pd.buffer.length := by omega
  have hlength : (octets (pd.buffer.take count)).length = 8 * count := by
    rw [octets_length, List.length_take, Nat.min_eq_left hcount]
  have hbits : ((octets (pd.buffer.take count)).drop pd.nboff).take nbits = pd.left.take nbits := by
    rw [octets_take, left, List.drop_take, List.drop_take, List.take_take, List.take_take,
      Nat.min_eq_left (by omega), Nat.min_eq_left (by omega)]
  refine ⟨bigEndian (pd.buffer.take count), if_pos hcount, ?_⟩
  have hmiddle := wordOf_middle (octets (pd.buffer.take count)) (hlength.symm ▸ below)
  rw [bigEndian_eq, ← hbits, ← hmiddle, hlength]

theorem accumulated_spec (valid : pd.Valid) (inside : pd.nboff + nbits ≤ pd.nbits)
    (aligned : pd.nboff < 8) (small : pd.nboff + nbits ≤ 31) :
    ∃ accum, pd.accumulated nbits (pd.nboff + nbits) = .ok accum ∧
      accum % 2 ^ nbits = wordOf (pd.left.take nbits) := by
  have hload : ∀ count, pd.nboff + nbits ≤ 8 * count → 8 * count < pd.nboff + nbits + 8 →
      ∃ accum, (· >>> (8 * count - (pd.nboff + nbits))) <$> pd.load count = .ok accum ∧
        accum % 2 ^ nbits = wordOf (pd.left.take nbits) := by
    intro count below needed
    rcases load_middle valid inside below needed with ⟨word, hword, hmiddle⟩
    exact ⟨word >>> (8 * count - (pd.nboff + nbits)), by rw [hword]; rfl, hmiddle⟩
  unfold accumulated
  split
  · next first =>
      split
      · next none =>
          rw [none]
          exact ⟨0, rfl, rfl⟩
      · next some => exact hload 1 first (by omega)
  · split
    · next second => exact hload 2 second (by omega)
    · split
      · next third => exact hload 3 third (by omega)
      · next fourth => exact hload 4 (by omega) (by omega)

theorem getWithin_spec (valid : pd.Valid) (inside : pd.nboff + nbits ≤ pd.nbits)
    (small : pd.nboff % 8 + nbits ≤ 31) :
    pd.getWithin nbits = .ok (wordOf (pd.left.take nbits), pd.normalized.advanced nbits) := by
  have hinside : pd.normalized.nboff + nbits ≤ pd.normalized.nbits := by
    simp only [AsnBitData.normalized]
    omega
  rcases accumulated_spec valid.normalized hinside (normalized_nboff_lt pd) small with
    ⟨accum, haccum, hmasked⟩
  rw [left_normalized pd] at hmasked
  simp only [getWithin, haccum, bind, Except.bind, hmasked]
  rfl

end AsnBitData

variable {pd : AsnBitData} {nbits : Nat}

/-- So many bits are read as one word, the first one the most significant. -/
theorem getFewBits_spec (valid : pd.Valid) (nbits : Nat) (inside : pd.nboff + nbits ≤ pd.nbits)
    (small : nbits ≤ 31) :
    getFewBits pd nbits = .ok (wordOf (pd.left.take nbits), pd.normalized.advanced nbits) := by
  rw [getFewBits, if_neg (by omega)]
  split
  · next within => exact getWithin_spec valid inside within
  · next beyond =>
      have hoffset : pd.nboff % 8 < 8 := Nat.mod_lt _ (by decide)
      have hfirst : pd.getWithin (nbits - 24) = _ := getWithin_spec valid (by omega) (by omega)
      have hmiddle : (pd.normalized.advanced (nbits - 24)).Valid := by
        apply valid.normalized.advanced
        simp only [normalized]
        omega
      have hinside : (pd.normalized.advanced (nbits - 24)).nboff + 24 ≤
          (pd.normalized.advanced (nbits - 24)).nbits := by
        simp only [normalized, advanced]
        omega
      have hsecond := getWithin_spec hmiddle hinside
        (by simp only [normalized, advanced]; omega)
      have hlow : wordOf ((pd.left.drop (nbits - 24)).take 24) < 2 ^ 24 := by
        apply lt_of_lt_of_le (wordOf_lt _)
        exact Nat.pow_le_pow_right (by decide) (List.length_take_le _ _)
      have hlength := left_length valid
      have htake : pd.left.take nbits =
          pd.left.take (nbits - 24) ++ (pd.left.drop (nbits - 24)).take 24 := by
        rw [← List.take_add, Nat.sub_add_cancel (by omega)]
      have hwidth : ((pd.left.drop (nbits - 24)).take 24).length = 24 := by
        rw [List.length_take, List.length_drop]
        omega
      have hword : wordOf (pd.left.take (nbits - 24)) <<< 24 |||
          wordOf ((pd.left.drop (nbits - 24)).take 24) = wordOf (pd.left.take nbits) := by
        rw [← Nat.shiftLeft_add_eq_or_of_lt hlow, Nat.shiftLeft_eq, htake, wordOf_append, hwidth]
      have hbound : wordOf (pd.left.take nbits) < 2 ^ nbits := by
        apply lt_of_lt_of_le (wordOf_lt _)
        exact Nat.pow_le_pow_right (by decide) (List.length_take_le _ _)
      simp only [hfirst, bind, Except.bind, hsecond, left_advanced,
        left_normalized pd, hword, Nat.mod_eq_of_lt hbound]
      rfl

theorem getFewBits_failed (short : pd.left.length < nbits) (valid : pd.Valid) :
    getFewBits pd nbits = .error .failed := by
  rw [left_length valid] at short
  exact if_pos short

/-- Fewer bits than are asked for, or more than fit the answer, are refused; no octet behind the
message is looked at. -/
theorem getFewBits_kept (valid : pd.Valid) (nbits : Nat) : Kept pd (getFewBits pd nbits) := by
  have hvalid := valid.inside
  by_cases small : nbits ≤ 31
  · by_cases inside : pd.nboff + nbits ≤ pd.nbits
    · rw [getFewBits_spec valid nbits inside small]
      refine ⟨?_, ?_⟩
      · apply valid.normalized.advanced
        simp only [normalized]
        omega
      · have hstored := valid.stored
        exact ⟨pd.nboff / 8, by omega, rfl, by simp only [normalized, advanced]; omega,
          Nat.le_add_right _ _, by simp only [normalized, advanced]; omega⟩
    · have hfailed : getFewBits pd nbits = .error .failed := if_pos (by omega)
      rw [hfailed]
      exact fun impossible => by cases impossible
  · have hfailed : getFewBits pd nbits = .error .failed := by
      rw [getFewBits]
      split
      · rfl
      · have beyond : ¬pd.nboff % 8 + nbits ≤ 31 := by omega
        rw [if_neg beyond]
    rw [hfailed]
    exact fun impossible => by cases impossible

abbrev Get := Action AsnBitData

def asnGetFewBits (nbits : Nat) : Get Nat where
  run pd := getFewBits pd nbits
  keeps _ valid := getFewBits_kept valid nbits

/-- Bits whose value is not used, not even a -1. -/
def ignored (nbits : Nat) : Get Unit where
  run pd :=
    match getFewBits pd nbits with
    | .ok (_, pd') => .ok ((), pd')
    | .error .failed => .ok ((), pd)
    | .error .outside => .error .outside
  keeps pd valid := by
    have kept := getFewBits_kept valid nbits
    cases hread : getFewBits pd nbits with
    | ok outcome =>
        rw [hread] at kept
        exact kept
    | error stop =>
        rw [hread] at kept
        cases stop with
        | failed => exact ⟨valid, Device.refl pd⟩
        | outside => exact absurd rfl kept

def getGroups : Nat → Get (List UInt8)
  | 0 => pure []
  | count + 1 => do
      let value ← asnGetFewBits 24
      let rest ← getGroups count
      pure (bytesOf 3 value ++ rest)

/-- The loop over groups of 24 bits and the bits that are left after them, which are shifted to
the front of their octets. -/
def asnGetManyBits (nbits : Nat) : Get (List UInt8) := do
  let groups ← getGroups (nbits / 24)
  if nbits % 24 = 0 then pure groups
  else do
    let value ← asnGetFewBits (nbits % 24)
    pure (groups ++ bytesOf ((nbits % 24 + 7) / 8) (value <<< ((8 - nbits % 8) % 8)))

/-- The reader answers from the bits before it, and stands behind them afterwards. -/
def Reads {Value : Type} (get : Get Value) (bits : List Bool) (value : Value) : Prop :=
  ∀ pd rest, pd.Valid → pd.left = bits ++ rest →
    ∃ pd', get.run pd = .ok (value, pd') ∧ pd'.Valid ∧ pd'.left = rest ∧
      pd'.moved = pd.moved + bits.length

theorem Reads.pure {Value : Type} (value : Value) : Reads (Pure.pure value) [] value := by
  intro pd rest valid left
  exact ⟨pd, rfl, valid, left, rfl⟩

theorem Reads.bind {Value Result : Type} {first : Get Value} {next : Value → Get Result}
    {front back : List Bool} {value : Value} {result : Result} (reads : Reads first front value)
    (rest : Reads (next value) back result) : Reads (first >>= next) (front ++ back) result := by
  intro pd others valid left
  rw [List.append_assoc] at left
  rcases reads pd _ valid left with ⟨middle, hfirst, hvalid, hleft, hmoved⟩
  rcases rest middle others hvalid hleft with ⟨pd', hnext, hvalid', hleft', hmoved'⟩
  refine ⟨pd', ?_, hvalid', hleft', ?_⟩
  · rw [Action.run_bind_of_ok hfirst, hnext]
  · rw [hmoved', hmoved, List.length_append, Nat.add_assoc]

theorem asnGetFewBits_reads (bits : List Bool) (small : bits.length ≤ 31) :
    Reads (asnGetFewBits bits.length) bits (wordOf bits) := by
  intro pd rest valid left
  have hlength := left_length valid
  have hinside := valid.inside
  rw [left, List.length_append] at hlength
  refine ⟨pd.normalized.advanced bits.length, ?_, ?_, ?_, rfl⟩
  · have hread := getFewBits_spec valid bits.length (by omega) small
    rw [left, List.take_left] at hread
    exact hread
  · apply valid.normalized.advanced
    simp only [normalized]
    omega
  · rw [left_advanced, left_normalized, left, List.drop_left]

theorem getGroups_reads {bytes : List UInt8} {count : Nat} (whole : bytes.length = 3 * count) :
    Reads (getGroups count) (octets bytes) bytes := by
  induction count generalizing bytes with
  | zero =>
      have hnone : bytes = [] := List.length_eq_zero_iff.mp (by omega)
      rw [hnone]
      exact Reads.pure []
  | succ count ih =>
      have hsplit : octets bytes = octets (bytes.take 3) ++ (octets (bytes.drop 3) ++ []) := by
        rw [List.append_nil, ← octets_append, List.take_append_drop]
      have hthree : (bytes.take 3).length = 3 := by
        rw [List.length_take]
        omega
      have hbits : (octets (bytes.take 3)).length = 24 := by rw [octets_length, hthree]
      have hfirst := asnGetFewBits_reads (octets (bytes.take 3)) (by omega)
      have hrest : Reads (getGroups count) (octets (bytes.drop 3)) (bytes.drop 3) :=
        ih (by rw [List.length_drop]; omega)
      rw [hbits] at hfirst
      have hword : bytesOf 3 (wordOf (octets (bytes.take 3))) = bytes.take 3 := by
        have stored := bytesOf_wordOf (bytes.take 3)
        rwa [hthree] at stored
      rw [hsplit]
      refine hfirst.bind (hrest.bind ?_)
      rw [hword, List.take_append_drop]
      exact Reads.pure bytes

theorem asnGetManyBits_reads {bits : List Bool} {bytes : List UInt8}
    (padded : octets bytes = bits ++ padding bits.length) :
    Reads (asnGetManyBits bits.length) bits bytes := by
  have hcount := length_of_padded padded
  have hgroups : (bytes.take (3 * (bits.length / 24))).length = 3 * (bits.length / 24) := by
    rw [List.length_take]
    omega
  have hfront : octets (bytes.take (3 * (bits.length / 24))) = bits.take (24 * (bits.length / 24)) := by
    rw [octets_take, padded, ← Nat.mul_assoc, List.take_append_of_le_length (Nat.mul_div_le _ _)]
  have hback : octets (bytes.drop (3 * (bits.length / 24))) =
      bits.drop (24 * (bits.length / 24)) ++ padding bits.length := by
    rw [octets_drop, padded, ← Nat.mul_assoc, List.drop_append_of_le_length (Nat.mul_div_le _ _)]
  have hrest : (bits.drop (24 * (bits.length / 24))).length = bits.length % 24 := by
    rw [List.length_drop]
    omega
  have hread := getGroups_reads hgroups
  rw [hfront] at hread
  rw [asnGetManyBits]
  rw [show Reads _ bits bytes ↔ Reads _ (bits.take (24 * (bits.length / 24)) ++
    bits.drop (24 * (bits.length / 24))) bytes by rw [List.take_append_drop]]
  refine hread.bind ?_
  by_cases whole : bits.length % 24 = 0
  · have hnone : bits.drop (24 * (bits.length / 24)) = [] :=
      List.length_eq_zero_iff.mp (by rw [hrest, whole])
    have hall : bytes.take (3 * (bits.length / 24)) = bytes :=
      List.take_of_length_le (by omega)
    rw [if_pos whole, hnone, hall]
    exact Reads.pure bytes
  · have hfew := asnGetFewBits_reads (bits.drop (24 * (bits.length / 24))) (by omega)
    have hstored : bytesOf ((bits.length % 24 + 7) / 8)
        (wordOf (bits.drop (24 * (bits.length / 24))) <<< ((8 - bits.length % 8) % 8)) =
        bytes.drop (3 * (bits.length / 24)) := by
      have hwidth : 8 * ((bits.length % 24 + 7) / 8) =
          (bits.drop (24 * (bits.length / 24))).length + (8 - bits.length % 8) % 8 := by omega
      apply octets_inj
      rw [octets_bytesOf, hwidth, Nat.shiftLeft_eq, bitsOf_shift, bitsOf_wordOf, hback, padding]
    rw [hrest] at hfew
    rw [if_neg whole, ← List.append_nil (bits.drop _)]
    refine hfew.bind ?_
    rw [hstored, List.take_append_drop]
    exact Reads.pure bytes

end NearRtRic.Asn1
