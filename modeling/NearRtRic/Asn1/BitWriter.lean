import Mathlib.Tactic
import NearRtRic.Asn1.BitReader

/-! Writing bits through a small buffer: the half of `asn_bit_data.c` that encodes. -/

namespace NearRtRic.Asn1

open Bits Transmission

/-- What the callback that takes the octets was given, call by call, and how many more it takes: any
number where it refuses none (`encode_dyn_cb`), `left` where they go into a buffer that is given
(`encode_to_buffer_cb`). -/
structure Output where
  pieces : List (List UInt8)
  left : Option Nat
  deriving DecidableEq, Repr

def Output.stored (output : Output) : List UInt8 :=
  output.pieces.flatten

def Output.room (output : Output) : Option Nat :=
  output.left.map (· + output.stored.length)

def Output.take (output : Output) (octets : List UInt8) : Except Stop Output :=
  match output.left with
  | none => .ok ⟨output.pieces ++ [octets], none⟩
  | some left =>
      if left < octets.length then .error .failed
      else .ok ⟨output.pieces ++ [octets], some (left - octets.length)⟩

theorem Output.stored_concat (output : Output) (octets : List UInt8) (left : Option Nat) :
    Output.stored ⟨output.pieces ++ [octets], left⟩ = output.stored ++ octets :=
  List.flatten_concat

def TMPSPACE_SIZE : Nat := 32

structure AsnBitOutp where
  /-- Where the pointer stands in `tmpspace`. -/
  buffer : Nat
  nboff : Nat
  nbits : Nat
  tmpspace : List UInt8
  op_key : Output
  flushed_bytes : Nat
  deriving DecidableEq, Repr

namespace AsnBitOutp

/-- The bits written so far, whether they were passed on or not. -/
def written (po : AsnBitOutp) : List Bool :=
  octets po.op_key.stored ++ (octets po.tmpspace).take (8 * po.buffer + po.nboff)

structure Valid (po : AsnBitOutp) : Prop where
  space : po.tmpspace.length = TMPSPACE_SIZE
  remaining : 8 * po.buffer + po.nbits = 8 * TMPSPACE_SIZE
  inside : po.nboff ≤ po.nbits
  counted : po.flushed_bytes = po.op_key.stored.length

instance (po : AsnBitOutp) : Decidable po.Valid :=
  decidable_of_iff
    (po.tmpspace.length = TMPSPACE_SIZE ∧ 8 * po.buffer + po.nbits = 8 * TMPSPACE_SIZE ∧
      po.nboff ≤ po.nbits ∧ po.flushed_bytes = po.op_key.stored.length)
    ⟨fun holds => ⟨holds.1, holds.2.1, holds.2.2.1, holds.2.2.2⟩,
      fun valid => ⟨valid.space, valid.remaining, valid.inside, valid.counted⟩⟩

instance : Sink AsnBitOutp Bool Stop where
  Valid := Valid
  Moves before after := before.written <+: after.written ∧ after.op_key.room = before.op_key.room
  fault := .outside
  refl po := ⟨List.prefix_refl po.written, rfl⟩
  trans first second := ⟨first.1.trans second.1, second.2.trans first.2⟩
  written := written
  Roomy po := po.op_key.left = none
  appends moves := moves.1

def normalized (po : AsnBitOutp) : AsnBitOutp :=
  { po with
    buffer := po.buffer + po.nboff / 8
    nbits := po.nbits - po.nboff / 8 * 8
    nboff := po.nboff % 8 }

def octetAt (po : AsnBitOutp) (index : Nat) : Except Stop UInt8 :=
  if h : index < po.tmpspace.length then .ok po.tmpspace[index] else .error .outside

/-- The octet that is only begun is moved to the front. -/
def begun (po : AsnBitOutp) : Except Stop (List UInt8) :=
  if po.nboff = 0 then pure po.tmpspace
  else do
    let octet ← po.octetAt po.buffer
    pure (po.tmpspace.set 0 octet)

/-- Whole octets are passed on where so many bits would not fit behind them. -/
def flushed (po : AsnBitOutp) (obits : Nat) : Except Stop AsnBitOutp :=
  if po.nboff + obits > po.nbits then do
    let op_key ← po.op_key.take (po.tmpspace.take po.buffer)
    let tmpspace ← po.begun
    pure { po with
      tmpspace
      buffer := 0
      nbits := 8 * TMPSPACE_SIZE
      op_key
      flushed_bytes := po.flushed_bytes + po.buffer }
  else pure po

/-- `omsk`, in an octet: the bits before the offset. -/
def omsk (nboff : Nat) : Nat :=
  0xff ^^^ (2 ^ (8 - nboff) - 1)

def storeIn (po : AsnBitOutp) (bits off count : Nat) : Except Stop AsnBitOutp := do
  let first ← po.octetAt po.buffer
  let bits := bits <<< (8 * count - off)
  let word := bits ||| ((first.toNat &&& omsk po.nboff) <<< (8 * (count - 1)))
  if po.buffer + count ≤ po.tmpspace.length then
    pure { po with
      nboff := off
      tmpspace := po.tmpspace.take po.buffer ++ bytesOf count word ++
        po.tmpspace.drop (po.buffer + count) }
  else .error .outside

/-- The branches of `asn_put_few_bits` differ in how many octets they store. -/
def store (po : AsnBitOutp) (bits obits : Nat) : Except Stop AsnBitOutp :=
  let off := po.nboff + obits
  let bits := bits % 2 ^ obits
  if off ≤ 8 then po.storeIn bits off 1
  else if off ≤ 16 then po.storeIn bits off 2
  else if off ≤ 24 then po.storeIn bits off 3
  else po.storeIn bits off 4

def putWithin (po : AsnBitOutp) (bits obits : Nat) : Except Stop AsnBitOutp := do
  let po ← po.normalized.flushed obits
  po.store bits obits

end AsnBitOutp

open AsnBitOutp

/-- The recursive calls put 24 bits and what is left, so they end in a branch that stores. -/
def putFewBits (po : AsnBitOutp) (bits obits : Nat) : Except Stop AsnBitOutp :=
  if obits = 0 then pure po
  else if obits ≥ 32 then .error .failed
  else do
    let po ← po.normalized.flushed obits
    if po.nboff + obits ≤ 31 then po.store bits obits
    else do
      let bits := bits % 2 ^ obits
      let po ← po.putWithin (bits >>> (obits - 24)) 24
      po.putWithin bits (obits - 24)

namespace AsnBitOutp

variable {po : AsnBitOutp} {bits obits : Nat}

/-- The bits are behind what was written, or the callback refused octets. -/
def Grows (po : AsnBitOutp) (bits : List Bool) : Except Stop AsnBitOutp → Prop
  | .ok po' => po'.Valid ∧ po'.written = po.written ++ bits ∧
      po'.op_key.room = po.op_key.room
  | .error stop => stop = .failed ∧ po.op_key.room.isSome

theorem Grows.bind {front back : List Bool} {result : Except Stop AsnBitOutp}
    {next : AsnBitOutp → Except Stop AsnBitOutp} (grows : po.Grows front result)
    (rest : ∀ middle : AsnBitOutp, middle.Valid → middle.Grows back (next middle)) :
    po.Grows (front ++ back) (result >>= next) := by
  cases result with
  | error stop => exact grows
  | ok middle =>
      rcases grows with ⟨hvalid, hwritten, hleft⟩
      have hnext := rest middle hvalid
      change po.Grows _ (next middle)
      cases hresult : next middle with
      | error stop =>
          rw [hresult] at hnext
          exact ⟨hnext.1, hleft ▸ hnext.2⟩
      | ok after =>
          rw [hresult] at hnext
          rcases hnext with ⟨hafter, hback, hroom⟩
          exact ⟨hafter, by rw [hback, hwritten, List.append_assoc], hroom.trans hleft⟩

theorem Grows.of_same {middle : AsnBitOutp} {front : List Bool} {result : Except Stop AsnBitOutp}
    (hwritten : middle.written = po.written)
    (hroom : middle.op_key.room = po.op_key.room) (grows : middle.Grows front result) :
    po.Grows front result := by
  cases result with
  | error stop => exact ⟨grows.1, hroom ▸ grows.2⟩
  | ok after => exact ⟨grows.1, hwritten ▸ grows.2.1, grows.2.2.trans hroom⟩

theorem Output.take_eq (output : Output) (octets : List UInt8) :
    output.take octets = .error .failed ∧ output.room.isSome ∨
      ∃ left, output.take octets = .ok ⟨output.pieces ++ [octets], left⟩ ∧
        Output.room ⟨output.pieces ++ [octets], left⟩ = output.room := by
  rcases output with ⟨pieces, _ | left⟩
  · exact Or.inr ⟨none, rfl, rfl⟩
  · by_cases full : left < octets.length
    · exact Or.inl ⟨if_pos full, rfl⟩
    · refine Or.inr ⟨some (left - octets.length), if_neg full, ?_⟩
      have hstored := Output.stored_concat ⟨pieces, some left⟩ octets (some (left - octets.length))
      simp only [Output.room, Option.map_some, hstored, List.length_append]
      congr 1
      omega

theorem normalized_nboff_lt (po : AsnBitOutp) : po.normalized.nboff < 8 :=
  Nat.mod_lt _ (by decide)

theorem Valid.normalized (valid : po.Valid) : po.normalized.Valid := by
  have hremaining := valid.remaining
  have hinside := valid.inside
  refine ⟨valid.space, ?_, ?_, valid.counted⟩
  · simp only [AsnBitOutp.normalized]
    omega
  · simp only [AsnBitOutp.normalized]
    omega

theorem written_normalized (po : AsnBitOutp) : po.normalized.written = po.written := by
  have hoffset : 8 * (po.buffer + po.nboff / 8) + po.nboff % 8 = 8 * po.buffer + po.nboff := by
    omega
  simp only [written, normalized, hoffset]

theorem written_eq (valid : po.Valid) :
    po.written = octets po.op_key.stored ++ (octets (po.tmpspace.take po.buffer) ++
      (octets (po.tmpspace.drop po.buffer)).take po.nboff) := by
  have hspace := valid.space
  have hremaining := valid.remaining
  have hlength : (octets (po.tmpspace.take po.buffer)).length = 8 * po.buffer := by
    rw [octets_length, List.length_take, Nat.min_eq_left (by omega)]
  have hsplit : octets po.tmpspace = octets (po.tmpspace.take po.buffer) ++
      octets (po.tmpspace.drop po.buffer) := by
    rw [← octets_append, List.take_append_drop]
  rw [written, hsplit, ← hlength, List.take_length_add_append]

theorem octetAt_eq {index : Nat} (inside : index < po.tmpspace.length) :
    po.octetAt index = .ok po.tmpspace[index] :=
  dif_pos inside

theorem take_octets {bytes : List UInt8} {index count : Nat} (inside : index < bytes.length)
    (below : count ≤ 8) :
    (octets (bytes.drop index)).take count = (bitsOf 8 bytes[index].toNat).take count := by
  rw [List.drop_eq_getElem_cons inside, octets_cons,
    List.take_append_of_le_length (by rw [bitsOf_length]; exact below)]

theorem begun_spec (valid : po.Valid) (aligned : po.nboff < 8) :
    ∃ tmpspace, po.begun = .ok tmpspace ∧ tmpspace.length = TMPSPACE_SIZE ∧
      (octets tmpspace).take po.nboff = (octets (po.tmpspace.drop po.buffer)).take po.nboff := by
  have hspace := valid.space
  have hremaining := valid.remaining
  have hinside := valid.inside
  unfold begun
  by_cases whole : po.nboff = 0
  · rw [if_pos whole, whole]
    exact ⟨po.tmpspace, rfl, hspace, rfl⟩
  · have hindex : po.buffer < po.tmpspace.length := by
      rw [hspace]
      omega
    have hfirst : 0 < (po.tmpspace.set 0 po.tmpspace[po.buffer]).length := by
      rw [List.length_set]
      omega
    have hmoved := take_octets hfirst aligned.le
    rw [List.drop_zero, List.getElem_set_self] at hmoved
    rw [if_neg whole, octetAt_eq hindex]
    refine ⟨po.tmpspace.set 0 po.tmpspace[po.buffer], rfl, ?_, ?_⟩
    · rw [List.length_set, hspace]
    · rw [hmoved, take_octets hindex aligned.le]

theorem flushed_spec (valid : po.Valid) (aligned : po.nboff < 8) (small : obits ≤ 31) :
    (po.flushed obits = .error .failed ∧ po.op_key.room.isSome) ∨
      ∃ po', po.flushed obits = .ok po' ∧ po'.Valid ∧ po'.written = po.written ∧
        po'.op_key.room = po.op_key.room ∧ po'.nboff = po.nboff ∧
        po'.nboff + obits ≤ po'.nbits := by
  have hspace := valid.space
  have hremaining := valid.remaining
  have hcounted := valid.counted
  unfold flushed
  split
  · next full =>
      rcases Output.take_eq po.op_key (po.tmpspace.take po.buffer) with
        ⟨htake, hleft⟩ | ⟨left, htake, hleft⟩
      · left
        rw [htake]
        exact ⟨rfl, hleft⟩
      · right
        rcases begun_spec valid aligned with ⟨tmpspace, hbegun, hsize, hbits⟩
        have hbuffer : (po.tmpspace.take po.buffer).length = po.buffer := by
          rw [List.length_take, Nat.min_eq_left (by omega)]
        rw [htake, hbegun]
        refine ⟨_, rfl, ⟨hsize, ?_, ?_, ?_⟩, ?_, hleft, rfl, ?_⟩
        · exact Nat.zero_add _
        · simp only [TMPSPACE_SIZE]
          omega
        · rw [Output.stored_concat, List.length_append, hbuffer, hcounted]
        · rw [written_eq valid, written, Output.stored_concat, octets_append, Nat.mul_zero, Nat.zero_add, hbits,
            List.append_assoc]
        · simp only [TMPSPACE_SIZE]
          omega
  · next room => exact Or.inr ⟨po, rfl, valid, rfl, rfl, rfl, by omega⟩

theorem and_omsk (octet : UInt8) {nboff : Nat} (aligned : nboff < 8) :
    octet.toNat &&& omsk nboff = octet.toNat / 2 ^ (8 - nboff) * 2 ^ (8 - nboff) := by
  have all : ∀ (offset : Fin 8) (word : Fin 256), word.val &&& omsk offset.val =
      word.val / 2 ^ (8 - offset.val) * 2 ^ (8 - offset.val) := by decide +kernel
  exact all ⟨nboff, aligned⟩ ⟨octet.toNat, octet.toNat_lt⟩

theorem bitsOf_word (octet : UInt8) {nboff count : Nat} (aligned : nboff < 8) (positive : 0 < count)
    (fits : bits < 2 ^ obits) (below : nboff + obits ≤ 8 * count) :
    bitsOf (8 * count) (bits <<< (8 * count - (nboff + obits)) |||
        (octet.toNat &&& omsk nboff) <<< (8 * (count - 1))) =
      (bitsOf 8 octet.toNat).take nboff ++ (bitsOf obits bits ++
        List.replicate (8 * count - (nboff + obits)) false) := by
  have hwidth : 8 * count = nboff + (8 * count - nboff) := by omega
  have hrest : 8 * count - nboff = obits + (8 * count - (nboff + obits)) := by omega
  have hkept : (octet.toNat &&& omsk nboff) <<< (8 * (count - 1)) =
      (octet.toNat / 2 ^ (8 - nboff)) <<< (8 * count - nboff) := by
    have hshift : 8 * count - nboff = 8 - nboff + 8 * (count - 1) := by omega
    rw [and_omsk octet aligned, Nat.shiftLeft_eq, Nat.shiftLeft_eq, hshift, pow_add, Nat.mul_assoc]
  have hsmall : bits <<< (8 * count - (nboff + obits)) < 2 ^ (8 * count - nboff) := by
    rw [Nat.shiftLeft_eq, hrest, pow_add]
    exact Nat.mul_lt_mul_of_pos_right fits (Nat.two_pow_pos _)
  have hword : bits <<< (8 * count - (nboff + obits)) |||
        (octet.toNat &&& omsk nboff) <<< (8 * (count - 1)) =
      octet.toNat / 2 ^ (8 - nboff) * 2 ^ (8 * count - nboff) +
        bits * 2 ^ (8 * count - (nboff + obits)) := by
    rw [hkept, Nat.or_comm, ← Nat.shiftLeft_add_eq_or_of_lt hsmall, Nat.shiftLeft_eq,
      Nat.shiftLeft_eq]
  have hfirst : (bitsOf 8 octet.toNat).take nboff = bitsOf nboff (octet.toNat / 2 ^ (8 - nboff)) := by
    have hsplit := bitsOf_add nboff (8 - nboff) octet.toNat
    rw [Nat.add_sub_cancel' aligned.le] at hsplit
    rw [hsplit, List.take_left' (bitsOf_length _ _)]
  rw [Nat.shiftLeft_eq] at hsmall
  rw [hword, hfirst, ← bitsOf_shift, ← hrest]
  calc
    _ = bitsOf (nboff + (8 * count - nboff)) (octet.toNat / 2 ^ (8 - nboff) * 2 ^ (8 * count - nboff) +
          bits * 2 ^ (8 * count - (nboff + obits))) := by rw [← hwidth]
    _ = _ := bitsOf_high hsmall

theorem storeIn_grows {count : Nat} (valid : po.Valid) (aligned : po.nboff < 8)
    (fits : bits < 2 ^ obits) (positive : 0 < obits) (inside : po.nboff + obits ≤ po.nbits)
    (below : po.nboff + obits ≤ 8 * count) (needed : 8 * count < po.nboff + obits + 8) :
    po.Grows (bitsOf obits bits) (po.storeIn bits (po.nboff + obits) count) := by
  have hspace := valid.space
  have hremaining := valid.remaining
  have hindex : po.buffer < po.tmpspace.length := by
    rw [hspace]
    omega
  have hcount : po.buffer + count ≤ po.tmpspace.length := by
    rw [hspace]
    omega
  have hbuffer : (po.tmpspace.take po.buffer).length = po.buffer := by
    rw [List.length_take, Nat.min_eq_left hindex.le]
  simp only [storeIn, octetAt_eq hindex, bind, Except.bind, if_pos hcount]
  refine ⟨⟨?_, hremaining, inside, valid.counted⟩, ?_, rfl⟩
  · simp only [List.length_append, bytesOf_length, hbuffer, List.length_drop]
    omega
  · have hfront : 8 * po.buffer = (octets (po.tmpspace.take po.buffer)).length := by
      rw [octets_length, hbuffer]
    have hprefix : ((bitsOf 8 po.tmpspace[po.buffer].toNat).take po.nboff ++ bitsOf obits bits).length =
        po.nboff + obits := by
      rw [List.length_append, List.length_take, bitsOf_length, bitsOf_length,
        Nat.min_eq_left aligned.le]
    rw [written_eq valid, written, take_octets hindex aligned.le]
    simp only [octets_append, octets_bytesOf, bitsOf_word _ aligned (by omega : 0 < count) fits below]
    rw [hfront, List.append_assoc (octets (po.tmpspace.take po.buffer)),
      List.take_length_add_append, List.append_assoc, List.append_assoc (bitsOf obits bits),
      ← List.append_assoc ((bitsOf 8 _).take _), List.take_left' hprefix]
    simp only [List.append_assoc]

theorem store_grows (valid : po.Valid) (aligned : po.nboff < 8) (positive : 0 < obits)
    (inside : po.nboff + obits ≤ po.nbits) (small : po.nboff + obits ≤ 31) :
    po.Grows (bitsOf obits bits) (po.store bits obits) := by
  have hfits : bits % 2 ^ obits < 2 ^ obits := Nat.mod_lt _ (Nat.two_pow_pos _)
  rw [← bitsOf_mod]
  unfold store
  simp only
  split
  · next first => exact storeIn_grows valid aligned hfits positive inside first (by omega)
  · split
    · next second => exact storeIn_grows valid aligned hfits positive inside second (by omega)
    · split
      · next third => exact storeIn_grows valid aligned hfits positive inside third (by omega)
      · next fourth =>
          exact storeIn_grows valid aligned hfits positive inside (by omega) (by omega)

theorem flushed_grows {result : AsnBitOutp → Except Stop AsnBitOutp} {front : List Bool}
    (valid : po.Valid) (small : obits ≤ 31)
    (rest : ∀ middle : AsnBitOutp, middle.Valid → middle.nboff = po.nboff % 8 →
      middle.nboff + obits ≤ middle.nbits → middle.Grows front (result middle)) :
    po.Grows front (po.normalized.flushed obits >>= result) := by
  rcases flushed_spec valid.normalized (normalized_nboff_lt po) small with
    ⟨hflushed, hleft⟩ | ⟨middle, hflushed, hvalid, hwritten, hleft, hnboff, hroom⟩
  · rw [hflushed]
    exact ⟨rfl, hleft⟩
  · rw [hflushed]
    exact (rest middle hvalid hnboff hroom).of_same (hwritten.trans (written_normalized po)) hleft

theorem putWithin_grows (valid : po.Valid) (positive : 0 < obits)
    (small : po.nboff % 8 + obits ≤ 31) : po.Grows (bitsOf obits bits) (po.putWithin bits obits) := by
  apply flushed_grows valid (by omega)
  intro middle hvalid hnboff hroom
  exact store_grows hvalid (by omega) positive hroom (by omega)

end AsnBitOutp

variable {po : AsnBitOutp}

/-- The low bits of a word are put behind what was written, wherever that ends. -/
theorem putFewBits_grows (valid : po.Valid) (bits : Nat) {obits : Nat} (small : obits ≤ 31) :
    po.Grows (bitsOf obits bits) (putFewBits po bits obits) := by
  by_cases empty : obits = 0
  · rw [putFewBits, if_pos empty, empty]
    exact ⟨valid, (List.append_nil _).symm, rfl⟩
  · have hfew : ¬obits ≥ 32 := by omega
    rw [putFewBits, if_neg empty, if_neg hfew]
    apply flushed_grows valid small
    intro middle hvalid hnboff hroom
    split
    · next within => exact store_grows hvalid (by omega) (by omega) hroom within
    · next beyond =>
        have hsplit := bitsOf_add 24 (obits - 24) (bits % 2 ^ obits)
        rw [Nat.add_sub_cancel' (by omega), bitsOf_mod, ← Nat.shiftRight_eq_div_pow] at hsplit
        rw [hsplit]
        refine Grows.bind (putWithin_grows hvalid (by decide) (by omega)) ?_
        intro after hafter
        exact putWithin_grows hafter (by omega) (by omega)

theorem putFewBits_kept (valid : po.Valid) (bits obits : Nat) :
    Kept po ((fun after => ((), after)) <$> putFewBits po bits obits) := by
  by_cases small : obits ≤ 31
  · have grows := putFewBits_grows valid bits small
    cases hput : putFewBits po bits obits with
    | error stop =>
        rw [hput] at grows
        change stop ≠ .outside
        rw [grows.1]
        decide
    | ok after =>
        rw [hput] at grows
        refine ⟨grows.1, ?_, grows.2.2⟩
        rw [grows.2.1]
        exact List.prefix_append _ _
  · have positive : obits ≠ 0 := by omega
    rw [putFewBits, if_neg positive, if_pos (by omega)]
    exact fun impossible => by cases impossible

abbrev Put := Action AsnBitOutp

def asnPutFewBits (bits obits : Nat) : Put Unit where
  run po := (fun after => ((), after)) <$> putFewBits po bits obits
  keeps _ valid := putFewBits_kept valid bits obits

def putGroups : Nat → List UInt8 → Put Unit
  | 0, _ => pure ()
  | count + 1, src => do
      asnPutFewBits (bigEndian (src.take 3)) 24
      putGroups count (src.drop 3)

/-- The loop over groups of 24 bits and the bits that are left after them, which stand at the
front of their octets. -/
def asnPutManyBits (src : List UInt8) (nbits : Nat) (_inside : nbits ≤ 8 * src.length) :
    Put Unit := do
  putGroups (nbits / 24) src
  if nbits % 24 = 0 then pure ()
  else do
    let value := bigEndian ((src.drop (3 * (nbits / 24))).take ((nbits % 24 + 7) / 8))
    asnPutFewBits (value >>> ((8 - nbits % 8) % 8)) (nbits % 24)

/-- The writer puts these bits behind what was written, wherever that ends. -/
def Writes (put : Put Unit) (bits : List Bool) : Prop :=
  ∀ po : AsnBitOutp, po.Valid → po.Grows bits (Prod.snd <$> put.run po)

theorem Writes.pure : Writes (Pure.pure ()) [] :=
  fun _ valid => ⟨valid, (List.append_nil _).symm, rfl⟩

theorem Writes.bind {first second : Put Unit} {front back : List Bool}
    (writes : Writes first front) (rest : Writes second back) :
    Writes (first >>= fun _ => second) (front ++ back) := by
  intro po valid
  have grows := writes po valid
  have hbind : Prod.snd <$> (first >>= fun _ => second).run po =
      (Prod.snd <$> first.run po) >>= fun middle => Prod.snd <$> second.run middle := by
    cases hfirst : first.run po with
    | error stop => rw [Action.run_bind_of_error hfirst]; rfl
    | ok outcome =>
        rcases outcome with ⟨value, middle⟩
        rw [Action.run_bind_of_ok hfirst]
        rfl
  rw [hbind]
  exact grows.bind fun middle hvalid => rest middle hvalid

theorem asnPutFewBits_writes (bits : Nat) {obits : Nat} (small : obits ≤ 31) :
    Writes (asnPutFewBits bits obits) (bitsOf obits bits) := by
  intro po valid
  have hrun : Prod.snd <$> (asnPutFewBits bits obits).run po = putFewBits po bits obits := by
    change Prod.snd <$> (fun after => ((), after)) <$> putFewBits po bits obits = _
    cases putFewBits po bits obits with
    | error stop => rfl
    | ok after => rfl
  rw [hrun]
  exact putFewBits_grows valid bits small

theorem putGroups_writes (count : Nat) {src : List UInt8} (inside : 3 * count ≤ src.length) :
    Writes (putGroups count src) (octets (src.take (3 * count))) := by
  induction count generalizing src with
  | zero => exact Writes.pure
  | succ count ih =>
      have hthree : (src.take 3).length = 3 := by
        rw [List.length_take]
        omega
      have hword : bitsOf 24 (bigEndian (src.take 3)) = octets (src.take 3) := by
        have hbits : (octets (src.take 3)).length = 24 := by rw [octets_length, hthree]
        rw [bigEndian_eq, ← hbits, bitsOf_wordOf]
      have hsplit : octets (src.take (3 * (count + 1))) =
          octets (src.take 3) ++ octets ((src.drop 3).take (3 * count)) := by
        rw [← octets_append, ← List.take_add, Nat.mul_succ, Nat.add_comm]
      rw [hsplit, ← hword]
      apply Writes.bind (asnPutFewBits_writes _ (by decide))
      exact ih (by rw [List.length_drop]; omega)

theorem asnPutManyBits_writes (src : List UInt8) (nbits : Nat) (inside : nbits ≤ 8 * src.length) :
    Writes (asnPutManyBits src nbits inside) ((octets src).take nbits) := by
  have hgroups := putGroups_writes (nbits / 24) (by omega : _ ≤ src.length)
  have hsplit : (octets src).take nbits = octets (src.take (3 * (nbits / 24))) ++
      (octets (src.drop (3 * (nbits / 24)))).take (nbits % 24) := by
    rw [octets_take, octets_drop, ← List.take_add]
    congr 1
    omega
  rw [hsplit]
  refine hgroups.bind ?_
  by_cases whole : nbits % 24 = 0
  · rw [if_pos whole, whole]
    exact Writes.pure
  · rw [if_neg whole]
    have hcount : ((src.drop (3 * (nbits / 24))).take ((nbits % 24 + 7) / 8)).length =
        (nbits % 24 + 7) / 8 := by
      rw [List.length_take, List.length_drop]
      omega
    have hbits : bitsOf (nbits % 24) (bigEndian ((src.drop (3 * (nbits / 24))).take
        ((nbits % 24 + 7) / 8)) >>> ((8 - nbits % 8) % 8)) =
        (octets (src.drop (3 * (nbits / 24)))).take (nbits % 24) := by
      have hlength : (octets ((src.drop (3 * (nbits / 24))).take ((nbits % 24 + 7) / 8))).length =
          8 * ((nbits % 24 + 7) / 8) := by
        rw [octets_length, hcount]
      have hshift := bitsOf_shiftRight (octets ((src.drop (3 * (nbits / 24))).take
        ((nbits % 24 + 7) / 8))) (by omega : nbits % 24 ≤ _)
      have hpad : (8 - nbits % 8) % 8 = 8 * ((nbits % 24 + 7) / 8) - nbits % 24 := by omega
      rw [bigEndian_eq, hpad, ← hlength, hshift, octets_take, List.take_take,
        Nat.min_eq_left (by omega)]
    rw [← hbits]
    exact asnPutFewBits_writes _ (by omega)

theorem written_length {po : AsnBitOutp} (valid : po.Valid) :
    po.written.length = 8 * po.op_key.stored.length + (8 * po.buffer + po.nboff) := by
  have hspace := valid.space
  have hremaining := valid.remaining
  have hinside := valid.inside
  rw [AsnBitOutp.written, List.length_append, octets_length, List.length_take, octets_length,
    Nat.min_eq_left (by omega)]

theorem room_eq_none {output : Output} : output.room = none ↔ output.left = none :=
  Option.map_eq_none_iff

theorem Writes.roomy {put : Put Unit} {bits : List Bool} (writes : Writes put bits)
    (before : AsnBitOutp) (valid : before.Valid) (roomy : before.op_key.left = none) :
    ∃ sent after, put.run before = .ok (sent, after) ∧ after.op_key.left = none := by
  have grows := writes before valid
  cases hput : put.run before with
  | error stop =>
      rw [hput] at grows
      have refused := grows.2
      rw [room_eq_none.mpr roomy] at refused
      cases refused
  | ok outcome =>
      rw [hput] at grows
      refine ⟨outcome.1, outcome.2, rfl, ?_⟩
      have hroom : outcome.2.op_key.room = before.op_key.room := grows.2.2
      rw [room_eq_none.mpr roomy] at hroom
      exact room_eq_none.mp hroom

theorem Writes.written_eq {put : Put Unit} {bits : List Bool} (writes : Writes put bits)
    {before after : AsnBitOutp} {sent : Unit} (valid : before.Valid)
    (run : put.run before = .ok (sent, after)) : after.written = before.written ++ bits := by
  have grows := writes before valid
  rw [run] at grows
  exact grows.2.1

/-- A reader that answers from exactly the bits of a writer gets what the writer conveys. -/
theorem Writes.conveys {Value : Type} {put : Put Unit} {get : Get Value} {bits : List Bool}
    {value : Value} (writes : Writes put bits) (reads : Reads get bits value) :
    Conveys put get fun _ got => got = value := by
  refine ⟨writes.roomy, ?_⟩
  intro before sent after valid run reader rest faces
  have hwritten := writes.written_eq valid run
  have hleft : reader.left = bits ++ rest := by
    have hfaces := faces.left
    change before.written ++ reader.left = after.written ++ rest at hfaces
    rw [hwritten, List.append_assoc] at hfaces
    exact List.append_cancel_left hfaces
  rcases reads reader rest faces.valid hleft with ⟨reader', hget, hvalid, hrest, hmoved⟩
  refine ⟨value, reader', hget, hvalid, ?_, hrest, rfl⟩
  have hposition := faces.position
  change reader'.moved = after.written.length
  change reader.moved = before.written.length at hposition
  rw [hmoved, hposition, hwritten, List.length_append]

/-- `aper_encode` starts so; what uninitialised octets hold is masked wherever it would show. -/
def AsnBitOutp.fresh (left : Option Nat) : AsnBitOutp where
  buffer := 0
  nboff := 0
  nbits := 8 * TMPSPACE_SIZE
  tmpspace := List.replicate TMPSPACE_SIZE 0
  op_key := ⟨[], left⟩
  flushed_bytes := 0

theorem fresh_valid (left : Option Nat) : (AsnBitOutp.fresh left).Valid :=
  ⟨rfl, rfl, Nat.zero_le _, rfl⟩

@[simp] theorem fresh_written (left : Option Nat) : (AsnBitOutp.fresh left).written = [] := rfl

/-- A reader that is satisfied with the first bits of a writer answers from them. -/
theorem post_of_reads {Value : Type} {put : Put Unit} {get : Get Value} {front back : List Bool}
    {value : Value} {Post : Unit → Value → Prop} (conveys : Conveys put get Post)
    (writes : Writes put (front ++ back)) (reads : Reads get front value) : Post () value := by
  rcases conveys.writes (.fresh none) (fresh_valid none) rfl with ⟨sent, after, hput, _⟩
  have grows := writes (.fresh none) (fresh_valid none)
  rw [hput] at grows
  rcases (Conveys.faced (fresh_valid none) hput : ∃ reader : AsnBitData, _) with ⟨reader, faces⟩
  have hleft : reader.left = front ++ back := by
    have hfaces : [] ++ reader.left = after.written ++ [] := faces.left
    rw [grows.2.1, List.append_nil] at hfaces
    exact hfaces
  rcases conveys.reads _ sent after (fresh_valid none) hput reader [] faces with
    ⟨got, reader', hget, _, _, _, hpost⟩
  rcases reads reader back faces.valid hleft with ⟨other, hread, _⟩
  rw [hread] at hget
  rw [(Prod.mk.inj (Except.ok.inj hget)).1]
  exact hpost

/-- So many bits are read as they were put, but for what the width does not hold. -/
theorem asnPutFewBits_conveys (bits : Nat) {nbits : Nat} (small : nbits ≤ 31) :
    Conveys (asnPutFewBits bits nbits) (asnGetFewBits nbits) fun _ got => got = bits % 2 ^ nbits := by
  have hreads := asnGetFewBits_reads (bitsOf nbits bits) (by rw [bitsOf_length]; exact small)
  rw [bitsOf_length, wordOf_bitsOf] at hreads
  exact (asnPutFewBits_writes bits small).conveys hreads

/-- Whole octets are read as they were put. -/
theorem asnPutManyBits_conveys (src : List UInt8) :
    Conveys (asnPutManyBits src (8 * src.length) le_rfl) (asnGetManyBits (8 * src.length))
      fun _ got => got = src := by
  have hwrites := asnPutManyBits_writes src (8 * src.length) le_rfl
  have hlength : 8 * src.length = (octets src).length := (octets_length src).symm
  rw [List.take_of_length_le hlength.ge] at hwrites
  have hpadding : padding (octets src).length = [] := by
    rw [padding, octets_length, Nat.mul_mod_right]
    rfl
  have hreads : Reads (asnGetManyBits (octets src).length) (octets src) src :=
    asnGetManyBits_reads (by rw [hpadding, List.append_nil])
  rw [octets_length] at hreads
  exact hwrites.conveys hreads

end NearRtRic.Asn1
