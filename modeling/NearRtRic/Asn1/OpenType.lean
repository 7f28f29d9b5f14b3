import Mathlib.Tactic
import NearRtRic.Asn1.Integer

/-! Whole messages, and open types, which are messages inside of messages. -/

namespace NearRtRic.Asn1

open Bits Transmission

namespace AsnBitOutp

/-- The octets up to the pointer, and the one that is only begun, whose other bits are cleared. -/
def pending (po : AsnBitOutp) : Except Stop (List UInt8) :=
  if po.nboff % 8 ≠ 0 then do
    let last ← po.octetAt (po.buffer + po.nboff / 8)
    pure (po.tmpspace.take (po.buffer + po.nboff / 8) ++
      [UInt8.ofNat (last.toNat &&& 0xff <<< (8 - po.nboff % 8))])
  else if po.buffer + po.nboff / 8 ≤ po.tmpspace.length then
    pure (po.tmpspace.take (po.buffer + po.nboff / 8))
  else .error .outside

def flushOutp (po : AsnBitOutp) : Except Stop Output :=
  if po.nboff = 0 ∧ po.buffer = 0 then pure po.op_key
  else do
    let buf ← po.pending
    po.op_key.take buf

end AsnBitOutp

/-- What the callback has taken of what an encoder puts, and how many bits those are. -/
def aperEncode (encode : Put Unit) (left : Option Nat) : Except Stop (Output × Nat) := do
  let (_, po) ← encode.run (.fresh left)
  let op_key ← po.flushOutp
  pure (op_key, 8 * po.flushed_bytes + (8 * po.buffer + po.nboff))

def aperEncodeToBuffer (encode : Put Unit) (buffer_size : Nat) : Except Stop (List UInt8 × Nat) := do
  let (op_key, encoded) ← aperEncode encode (some buffer_size)
  pure (op_key.stored, encoded)

/-- No bits become one octet of zeros. -/
def aperEncodeToNewBuffer (encode : Put Unit) : Except Stop (List UInt8) := do
  let (op_key, encoded) ← aperEncode encode none
  if encoded = 0 then pure [0] else pure (op_key.stored.take ((encoded + 7) / 8))

structure OverrunEncoderKey where
  buffer : List UInt8
  buffer_size : Nat
  computed_size : Nat

/-- Goes on counting past the end of the buffer. -/
def overrunEncoderCb (key : OverrunEncoderKey) (data : List UInt8) : OverrunEncoderKey :=
  if key.computed_size + data.length > key.buffer_size then
    -- nothing is added to the buffer from here on
    { key with buffer_size := 0, computed_size := key.computed_size + data.length }
  else
    { key with
      buffer := key.buffer.take key.computed_size ++ data ++
        key.buffer.drop (key.computed_size + data.length)
      computed_size := key.computed_size + data.length }

/-- `asn_encode_to_buffer` for `ATS_ALIGNED_BASIC_PER`: the number of octets, and what the buffer
holds where there is room for so many. The callback refuses none. -/
def asnEncodeToBuffer (encode : Put Unit) (buffer_size : Nat) :
    Except Stop (Option (List UInt8) × Nat) := do
  let (op_key, encoded) ← aperEncode encode none
  let pieces := if encoded = 0 then op_key.pieces ++ [[0]] else op_key.pieces
  let buf_key := pieces.foldl overrunEncoderCb ⟨List.replicate buffer_size 0, buffer_size, 0⟩
  let encoded := ((if encoded = 0 then 8 else encoded) + 7) / 8
  pure (if encoded ≤ buffer_size then some (buf_key.buffer.take encoded) else none, encoded)

def AsnBitData.whole (buffer : List UInt8) : AsnBitData :=
  ⟨buffer, 0, 8 * buffer.length, 0⟩

def aperDecode {Value : Type} (decode : Get Value) (buffer : List UInt8) :
    Except Stop (Value × Nat) := do
  let (value, pd) ← decode.run (.whole buffer)
  pure (value, 8 * (buffer.length - pd.buffer.length) + pd.nboff)

/-- Where no bits were consumed there is one octet of zeros. -/
def aperDecodeComplete {Value : Type} (decode : Get Value) (buffer : List UInt8) :
    Except Stop (Value × Nat) := do
  let (value, consumed) ← aperDecode decode buffer
  if consumed ≠ 0 then pure (value, (consumed + 7) / 8)
  else if buffer.head? = some 0 then pure (value, 1)
  else .error .failed

/-- Less than an octet may be left of an open type, whatever it holds, or all of it where that is
one octet of zeros. -/
def decodeOpen {Value : Type} (decode : Get Value) (buf : List UInt8) : Except Stop Value := do
  let (value, spd) ← decode.run (.whole buf)
  let padding := spd.nbits - spd.nboff
  let zeros := (getFewBits spd padding).toOption.map Prod.fst = some 0
  if (0 < padding ∧ padding < 8 ∨ spd.nboff = 0 ∧ spd.nbits = 8 ∧ spd.buffer = buf) ∧ zeros then
    pure value
  else if padding ≥ 8 then .error .failed
  else pure value

namespace AsnBitOutp

variable {po : AsnBitOutp}

theorem and_cleared (octet : UInt8) {nboff : Nat} (some : 0 < nboff) (aligned : nboff < 8) :
    octet.toNat &&& 0xff <<< (8 - nboff) = octet.toNat &&& omsk nboff := by
  have all : ∀ (offset : Fin 8) (word : Fin 256), 0 < offset.val →
      word.val &&& 0xff <<< (8 - offset.val) = word.val &&& omsk offset.val := by decide +kernel
  exact all ⟨nboff, aligned⟩ ⟨octet.toNat, octet.toNat_lt⟩ some

theorem bitsOf_cleared (octet : UInt8) {nboff : Nat} (some : 0 < nboff) (aligned : nboff < 8) :
    bitsOf 8 (octet.toNat &&& 0xff <<< (8 - nboff)) =
      (bitsOf 8 octet.toNat).take nboff ++ List.replicate (8 - nboff) false := by
  have hword := bitsOf_word octet aligned Nat.one_pos (Nat.two_pow_pos (8 - nboff))
    (by omega : nboff + (8 - nboff) ≤ 8 * 1)
  rw [bitsOf_zero, Nat.zero_shiftLeft, Nat.zero_or, Nat.sub_self, Nat.mul_zero, Nat.shiftLeft_zero,
    Nat.add_sub_cancel' aligned.le, Nat.mul_one, Nat.sub_self, List.replicate_zero,
    List.append_nil] at hword
  rw [and_cleared octet some aligned, hword]

theorem pending_spec (valid : po.Valid) :
    ∃ buf, po.pending = .ok buf ∧
      octets buf = (octets po.tmpspace).take (8 * po.buffer + po.nboff) ++ padding po.nboff := by
  have hspace := valid.space
  have hremaining := valid.remaining
  have hinside := valid.inside
  have hoffset : 8 * (po.buffer + po.nboff / 8) + po.nboff % 8 = 8 * po.buffer + po.nboff := by
    omega
  unfold pending
  by_cases whole : po.nboff % 8 = 0
  · rw [if_neg (not_not.mpr whole), if_pos (by omega)]
    refine ⟨_, rfl, ?_⟩
    rw [whole, Nat.add_zero] at hoffset
    rw [octets_take, hoffset, padding, whole]
    exact (List.append_nil _).symm
  · have hindex : po.buffer + po.nboff / 8 < po.tmpspace.length := by omega
    have hfew : po.nboff % 8 < 8 := Nat.mod_lt _ (by decide)
    rw [if_pos whole, octetAt_eq hindex]
    refine ⟨_, rfl, ?_⟩
    rw [octets_append, octets_cons, octets_nil, List.append_nil, bitsOf_ofNat,
      bitsOf_cleared _ (Nat.pos_of_ne_zero whole) hfew, ← take_octets hindex hfew.le,
      octets_take, octets_drop, ← List.append_assoc, ← List.take_add, hoffset, padding]
    congr 2
    omega

theorem padding_written (valid : po.Valid) : padding po.written.length = padding po.nboff := by
  have hmod : po.written.length % 8 = po.nboff % 8 := by
    rw [written_length valid]
    omega
  rw [padding, padding, hmod]

theorem flushOutp_spec (valid : po.Valid) :
    (po.flushOutp = .error .failed ∧ po.op_key.room.isSome) ∨
      ∃ op_key, po.flushOutp = .ok op_key ∧ op_key.room = po.op_key.room ∧
        octets op_key.stored = po.written ++ padding po.written.length := by
  rw [padding_written valid]
  unfold flushOutp
  by_cases nothing : po.nboff = 0 ∧ po.buffer = 0
  · right
    rw [if_pos nothing]
    refine ⟨po.op_key, rfl, rfl, ?_⟩
    rw [written, nothing.1, nothing.2]
    exact ((List.append_nil _).trans (List.append_nil _)).symm
  · rcases pending_spec valid with ⟨buf, hbuf, hoctets⟩
    rw [if_neg nothing, hbuf]
    rcases Output.take_eq po.op_key buf with ⟨htake, hroom⟩ | ⟨left, htake, hroom⟩
    · exact Or.inl ⟨htake, hroom⟩
    · refine Or.inr ⟨_, htake, hroom, ?_⟩
      rw [Output.stored_concat, octets_append, hoctets, written, List.append_assoc]

end AsnBitOutp

namespace AsnBitData

theorem whole_valid (buffer : List UInt8) : (whole buffer).Valid :=
  ⟨Nat.zero_le _, le_rfl, rfl⟩

@[simp] theorem whole_left (buffer : List UInt8) : (whole buffer).left = octets buffer := by
  rw [left, whole, List.drop_zero, List.take_of_length_le (octets_length buffer).le]

/-- `assert(rval.consumed == pd.moved)`, and all octets from the pointer on are there. -/
theorem Moves.of_whole {buffer : List UInt8} {pd : AsnBitData} (moves : (whole buffer).Moves pd) :
    8 * (buffer.length - pd.buffer.length) + pd.nboff = pd.moved ∧
      pd.nbits = 8 * pd.buffer.length ∧ (pd.moved = 0 → pd.nboff = 0 ∧ pd.buffer = buffer) := by
  rcases moves with ⟨count, hcount, hbuffer, hnbits, _, hmoved⟩
  simp only [whole] at hcount hbuffer hnbits hmoved
  have hlength : pd.buffer.length = buffer.length - count := by
    rw [hbuffer, List.length_drop]
  refine ⟨by omega, by omega, fun none => ⟨by omega, ?_⟩⟩
  have hnone : count = 0 := by omega
  rw [hbuffer, hnone, List.drop_zero]

end AsnBitData

open AsnBitOutp AsnBitData

theorem fresh_room (left : Option Nat) : (AsnBitOutp.fresh left).op_key.room = left := by
  cases left with
  | none => rfl
  | some left => rfl

/-- What goes out is what the encoder has written, in whole octets, and no more than was asked for. -/
theorem aperEncode_spec {encode : Put Unit} {left : Option Nat} {op_key : Output} {encoded : Nat}
    (run : aperEncode encode left = .ok (op_key, encoded)) :
    ∃ sent after, encode.run (.fresh left) = .ok (sent, after) ∧ op_key.room = left ∧
      encoded = after.written.length ∧
      octets op_key.stored = after.written ++ padding after.written.length := by
  unfold aperEncode at run
  cases hencode : encode.run (.fresh left) with
  | error stop =>
      rw [hencode] at run
      cases run
  | ok outcome =>
      rcases outcome with ⟨sent, after⟩
      rcases Action.kept_of_ok (fresh_valid left) hencode with ⟨hvalid, hmoves⟩
      simp only [hencode, bind, Except.bind] at run
      rcases flushOutp_spec hvalid with ⟨hflush, _⟩ | ⟨taken, hflush, hroom, hoctets⟩
      · rw [hflush] at run
        cases run
      · rw [hflush] at run
        rcases Prod.mk.inj (Except.ok.inj run) with ⟨rfl, rfl⟩
        refine ⟨sent, after, rfl, ?_, ?_, hoctets⟩
        · rw [hroom, hmoves.2, fresh_room]
        · rw [written_length hvalid, hvalid.counted]

theorem stored_of_aperEncode {encode : Put Unit} {op_key : Output} {encoded : Nat}
    (run : aperEncode encode none = .ok (op_key, encoded)) :
    aperEncodeToNewBuffer encode = .ok (if encoded = 0 then [0] else op_key.stored) ∧
      op_key.stored.length = (encoded + 7) / 8 := by
  rcases aperEncode_spec run with ⟨_, _, _, _, rfl, hoctets⟩
  have hlength := length_of_padded hoctets
  refine ⟨?_, hlength⟩
  unfold aperEncodeToNewBuffer
  rw [run]
  simp only [bind, Except.bind]
  split
  · rfl
  · rw [← hlength, List.take_length]
    rfl

theorem foldl_overrunEncoderCb (pieces : List (List UInt8)) (key : OverrunEncoderKey)
    (room : key.computed_size + pieces.flatten.length ≤ key.buffer_size)
    (whole : key.buffer_size ≤ key.buffer.length) :
    (pieces.foldl overrunEncoderCb key).buffer.take (key.computed_size + pieces.flatten.length) =
      key.buffer.take key.computed_size ++ pieces.flatten := by
  induction pieces generalizing key with
  | nil => simp
  | cons data pieces ih =>
      rw [List.flatten_cons, List.length_append] at room ⊢
      have fits : ¬key.computed_size + data.length > key.buffer_size := by omega
      have hfront : (key.buffer.take key.computed_size ++ data).length =
          key.computed_size + data.length := by
        rw [List.length_append, List.length_take, Nat.min_eq_left (by omega)]
      have hlength : (key.buffer.take key.computed_size ++ data ++
          key.buffer.drop (key.computed_size + data.length)).length = key.buffer.length := by
        rw [List.length_append, hfront, List.length_drop]
        omega
      rw [List.foldl_cons, overrunEncoderCb, if_neg fits]
      have rest := ih
        { key with
          buffer := key.buffer.take key.computed_size ++ data ++
            key.buffer.drop (key.computed_size + data.length)
          computed_size := key.computed_size + data.length }
        (by simp only; omega) (by simp only [hlength]; exact whole)
      simp only [← hfront, List.take_left] at rest
      rw [← Nat.add_assoc, ← hfront, rest, List.append_assoc]

theorem asnEncodeToBuffer_eq (encode : Put Unit) (buffer_size : Nat) :
    asnEncodeToBuffer encode buffer_size = aperEncodeToNewBuffer encode >>= fun buf =>
      pure (if buf.length ≤ buffer_size then some buf else none, buf.length) := by
  unfold asnEncodeToBuffer
  cases hencode : aperEncode encode none with
  | error stop =>
      rw [aperEncodeToNewBuffer, hencode]
      rfl
  | ok outcome =>
      rcases outcome with ⟨op_key, encoded⟩
      rcases stored_of_aperEncode hencode with ⟨hnew, hlength⟩
      rw [hnew]
      have hpieces : (if encoded = 0 then op_key.pieces ++ [[0]] else op_key.pieces).flatten =
          if encoded = 0 then [0] else op_key.stored := by
        split
        · next none =>
          have hnone : op_key.stored = [] := List.length_eq_zero_iff.mp (by omega)
          rw [List.flatten_concat, ← Output.stored, hnone]
          rfl
        · rfl
      have hcount : ((if encoded = 0 then 8 else encoded) + 7) / 8 =
          (if encoded = 0 then [0] else op_key.stored).length := by
        split
        · rfl
        · exact hlength.symm
      simp only [bind, Except.bind, pure, Except.pure, hcount]
      by_cases fits : (if encoded = 0 then [0] else op_key.stored).length ≤ buffer_size
      · have htaken := foldl_overrunEncoderCb
          (if encoded = 0 then op_key.pieces ++ [[0]] else op_key.pieces)
          ⟨List.replicate buffer_size 0, buffer_size, 0⟩
          (by rw [hpieces, Nat.zero_add]; exact fits) (by simp)
        rw [hpieces, Nat.zero_add, List.take_zero, List.nil_append] at htaken
        rw [if_pos fits, if_pos fits, htaken]
      · rw [if_neg fits, if_neg fits]

theorem aperEncode_of_roomy {encode : Put Unit} {sent : Unit} {after : AsnBitOutp}
    (run : encode.run (.fresh none) = .ok (sent, after)) (roomy : after.op_key.left = none) :
    ∃ op_key, aperEncode encode none = .ok (op_key, after.written.length) := by
  have hvalid := (Action.kept_of_ok (fresh_valid none) run).1
  rcases flushOutp_spec hvalid with ⟨_, hroom⟩ | ⟨op_key, hflush, _⟩
  · rw [room_eq_none.mpr roomy] at hroom
    cases hroom
  · refine ⟨op_key, ?_⟩
    simp only [aperEncode, run, bind, Except.bind, hflush]
    rw [written_length hvalid, ← hvalid.counted]
    rfl

theorem aperEncode_kept (encode : Put Unit) (left : Option Nat) :
    aperEncode encode left ≠ .error .outside := by
  intro outside
  unfold aperEncode at outside
  cases hencode : encode.run (.fresh left) with
  | error stop =>
      have hnever := encode.never_fault (fresh_valid left)
      simp only [hencode, bind, Except.bind] at outside
      cases outside
      exact hnever hencode
  | ok outcome =>
      have hvalid := (Action.kept_of_ok (fresh_valid left) hencode).1
      simp only [hencode, bind, Except.bind] at outside
      rcases flushOutp_spec hvalid with ⟨hflush, _⟩ | ⟨op_key, hflush, _⟩
      · rw [hflush] at outside
        cases outside
      · rw [hflush] at outside
        cases outside

theorem aperEncodeToNewBuffer_kept (encode : Put Unit) :
    aperEncodeToNewBuffer encode ≠ .error .outside := by
  intro outside
  have hkept := aperEncode_kept encode none
  unfold aperEncodeToNewBuffer at outside
  cases hencode : aperEncode encode none with
  | error stop =>
      simp only [hencode, bind, Except.bind] at outside
      cases outside
      exact hkept hencode
  | ok outcome =>
      simp only [hencode, bind, Except.bind] at outside
      split at outside
      · cases outside
      · cases outside

def completed (bits : List Bool) : List Bool :=
  if bits = [] then List.replicate 8 false else bits ++ padding bits.length

theorem completed_eq (bits : List Bool) :
    ∃ zeros, completed bits = bits ++ List.replicate zeros false ∧
      (bits ≠ [] ∧ zeros < 8 ∨ bits = [] ∧ zeros = 8) := by
  unfold completed
  split
  · next nothing => exact ⟨8, by rw [nothing]; rfl, .inr ⟨nothing, rfl⟩⟩
  · next something => exact ⟨_, rfl, .inl ⟨something, Nat.mod_lt _ (by decide)⟩⟩

theorem aperEncodeToNewBuffer_of_roomy {encode : Put Unit} {sent : Unit} {after : AsnBitOutp}
    (run : encode.run (.fresh none) = .ok (sent, after)) (roomy : after.op_key.left = none) :
    ∃ buf, aperEncodeToNewBuffer encode = .ok buf ∧ octets buf = completed after.written := by
  rcases aperEncode_of_roomy run roomy with ⟨op_key, hencode⟩
  rcases aperEncode_spec hencode with ⟨sent', after', hrun, _, _, hoctets⟩
  rw [run] at hrun
  rcases Prod.mk.inj (Except.ok.inj hrun) with ⟨_, rfl⟩
  unfold aperEncodeToNewBuffer completed
  simp only [hencode, bind, Except.bind, List.length_eq_zero_iff]
  by_cases nothing : after.written = []
  · rw [if_pos nothing, if_pos nothing]
    exact ⟨[0], rfl, by decide⟩
  · have hlength := length_of_padded hoctets
    rw [if_neg nothing, if_neg nothing]
    exact ⟨op_key.stored, by rw [← hlength, List.take_length]; rfl, hoctets⟩

theorem aperDecodeComplete_kept {Value : Type} (decode : Get Value) (buffer : List UInt8) :
    aperDecodeComplete decode buffer ≠ .error .outside ∧
      ∀ value consumed, aperDecodeComplete decode buffer = .ok (value, consumed) →
        0 < consumed ∧ consumed ≤ buffer.length := by
  unfold aperDecodeComplete aperDecode
  cases hdecode : decode.run (.whole buffer) with
  | error stop =>
      have hnever := decode.never_fault (whole_valid buffer)
      simp only [bind, Except.bind]
      refine ⟨?_, fun value consumed impossible => by cases impossible⟩
      intro outside
      cases outside
      exact hnever hdecode
  | ok outcome =>
      rcases outcome with ⟨value, pd⟩
      rcases Action.kept_of_ok (whole_valid buffer) hdecode with ⟨hvalid, hmoves⟩
      rcases hmoves.of_whole with ⟨_, hnbits, _⟩
      rcases hmoves with ⟨count, hcount, hbuffer, _⟩
      have hinside := hvalid.inside
      have hlength : pd.buffer.length = buffer.length - count := by
        rw [hbuffer, List.length_drop]
        rfl
      have hbound : count ≤ buffer.length := hcount
      simp only [bind, Except.bind, pure, Except.pure]
      by_cases some : 8 * (buffer.length - pd.buffer.length) + pd.nboff ≠ 0
      · rw [if_pos some]
        refine ⟨fun outside => (by cases outside), ?_⟩
        intro value' consumed run
        rcases Prod.mk.inj (Except.ok.inj run) with ⟨_, rfl⟩
        omega
      · rw [if_neg some]
        by_cases zero : buffer.head? = .some 0
        · rw [if_pos zero]
          refine ⟨fun outside => (by cases outside), ?_⟩
          intro value' consumed run
          rcases Prod.mk.inj (Except.ok.inj run) with ⟨_, rfl⟩
          rcases buffer with _ | ⟨first, rest⟩
          · cases zero
          · exact ⟨Nat.one_pos, Nat.le_add_left 1 rest.length⟩
        · rw [if_neg zero]
          exact ⟨fun outside => (by cases outside), fun _ _ impossible => (by cases impossible)⟩

/-- An encoder stores no more than the buffer takes, in as many octets as its bits need. -/
theorem aperEncodeToBuffer_kept {encode : Put Unit} {buffer_size encoded : Nat} {stored : List UInt8}
    (run : aperEncodeToBuffer encode buffer_size = .ok (stored, encoded)) :
    stored.length ≤ buffer_size ∧ stored.length = (encoded + 7) / 8 := by
  unfold aperEncodeToBuffer at run
  cases hencode : aperEncode encode (some buffer_size) with
  | error stop =>
      rw [hencode] at run
      cases run
  | ok outcome =>
      rcases outcome with ⟨op_key, encoded'⟩
      rw [hencode] at run
      rcases Prod.mk.inj (Except.ok.inj run) with ⟨rfl, rfl⟩
      rcases aperEncode_spec hencode with ⟨_, _, _, hroom, rfl, hoctets⟩
      refine ⟨?_, length_of_padded hoctets⟩
      rcases Option.map_eq_some_iff.mp hroom with ⟨left, _, htotal⟩
      omega

section

variable {Value : Type} {encode : Put Unit} {decode : Get Value} {Post : Unit → Value → Prop}

/-- The reader of a message goes exactly as far in it as the bits go that were encoded. -/
theorem whole_conveyed (conveys : Conveys encode decode Post) {left : Option Nat} {sent : Unit}
    {after : AsnBitOutp} (run : encode.run (.fresh left) = .ok (sent, after)) {buf : List UInt8}
    {rest : List Bool} (same : octets buf = after.written ++ rest) :
    ∃ value pd, decode.run (.whole buf) = .ok (value, pd) ∧ pd.Valid ∧
      (AsnBitData.whole buf).Moves pd ∧ pd.moved = after.written.length ∧ pd.left = rest ∧
      Post sent value := by
  have hfaces : Faces (AsnBitOutp.fresh left) after (AsnBitData.whole buf) rest :=
    ⟨whole_valid buf, rfl, (whole_left buf).trans same⟩
  rcases conveys.reads _ sent after (fresh_valid left) run _ rest hfaces with
    ⟨value, pd, hdecode, hvalid, hmoved, hleft, hpost⟩
  exact ⟨value, pd, hdecode, hvalid, (Action.kept_of_ok (whole_valid buf) hdecode).2, hmoved, hleft,
    hpost⟩

/-- A message that is encoded is decoded to what was encoded, from all of its octets and no others. -/
theorem aperDecodeComplete_of_encoded (conveys : Conveys encode decode Post) {left : Option Nat}
    {op_key : Output} {encoded : Nat} (run : aperEncode encode left = .ok (op_key, encoded))
    (some : 0 < encoded) (rest : List UInt8) :
    ∃ value, aperDecodeComplete decode (op_key.stored ++ rest) = .ok (value, op_key.stored.length) ∧
      Post () value := by
  rcases aperEncode_spec run with ⟨sent, after, hrun, _, rfl, hoctets⟩
  have hall : octets (op_key.stored ++ rest) =
      after.written ++ (padding after.written.length ++ octets rest) := by
    rw [octets_append, hoctets, List.append_assoc]
  rcases whole_conveyed conveys hrun hall with
    ⟨value, pd, hdecode, _, hmoves, hmoved, _, hpost⟩
  have hconsumed := hmoves.of_whole.1
  have hlength := length_of_padded hoctets
  refine ⟨value, ?_, hpost⟩
  simp only [aperDecodeComplete, aperDecode, hdecode, bind, Except.bind, pure, Except.pure, hconsumed,
    hmoved]
  rw [if_pos some.ne', hlength]

theorem aperDecodeComplete_of_new_buffer (conveys : Conveys encode decode Post) :
    ∃ buf, aperEncodeToNewBuffer encode = .ok buf ∧ ∀ rest, ∃ value,
      aperDecodeComplete decode (buf ++ rest) = .ok (value, buf.length) ∧ Post () value := by
  rcases conveys.writes (.fresh none) (fresh_valid none) rfl with ⟨sent, after, hrun, roomy⟩
  rcases aperEncodeToNewBuffer_of_roomy hrun roomy with ⟨buf, hencode, hoctets⟩
  rcases completed_eq after.written with ⟨zeros, hcompleted, hzeros⟩
  rw [hcompleted] at hoctets
  refine ⟨buf, hencode, fun rest => ?_⟩
  have hall : octets (buf ++ rest) =
      after.written ++ (List.replicate zeros false ++ octets rest) := by
    rw [octets_append, hoctets, List.append_assoc]
  rcases whole_conveyed conveys hrun hall with ⟨value, pd, hdecode, _, hmoves, hmoved, _, hpost⟩
  have hconsumed := hmoves.of_whole.1
  have hlength := congrArg List.length hoctets
  rw [octets_length, List.length_append, List.length_replicate] at hlength
  refine ⟨value, ?_, hpost⟩
  simp only [aperDecodeComplete, aperDecode, hdecode, bind, Except.bind, pure, Except.pure, hconsumed,
    hmoved]
  rcases hzeros with ⟨something, hfew⟩ | ⟨nothing, rfl⟩
  · have hsome : after.written.length ≠ 0 := fun none => something (List.length_eq_zero_iff.mp none)
    have hcount : (after.written.length + 7) / 8 = buf.length := by omega
    rw [if_pos hsome, hcount]
  · rw [nothing] at hoctets ⊢
    have hbits : octets buf = octets [0] := hoctets.trans (by decide)
    rw [if_neg (by decide), octets_inj hbits]
    rfl

theorem decodeOpen_of_new_buffer (conveys : Conveys encode decode Post) :
    ∃ buf value, aperEncodeToNewBuffer encode = .ok buf ∧ decodeOpen decode buf = .ok value ∧
      Post () value := by
  rcases conveys.writes (.fresh none) (fresh_valid none) rfl with ⟨sent, after, hrun, roomy⟩
  rcases aperEncodeToNewBuffer_of_roomy hrun roomy with ⟨buf, hencode, hoctets⟩
  rcases completed_eq after.written with ⟨zeros, hcompleted, hzeros⟩
  rw [hcompleted] at hoctets
  rcases whole_conveyed conveys hrun hoctets with
    ⟨value, pd, hdecode, hvalid, hmoves, hmoved, hleft, hpost⟩
  have hlength := left_length hvalid
  rw [hleft, List.length_replicate] at hlength
  refine ⟨buf, value, hencode, ?_, hpost⟩
  simp only [decodeOpen, hdecode, bind, Except.bind, ← hlength]
  rcases hzeros with ⟨_, hfew⟩ | ⟨nothing, rfl⟩
  · rw [if_neg (by omega : ¬zeros ≥ 8), ite_self]
    rfl
  · rcases hmoves.of_whole with ⟨_, hnbits, hunread⟩
    rcases hunread (by rw [hmoved, nothing]; rfl) with ⟨hnboff, hbuffer⟩
    have hzero : (getFewBits pd 8).toOption.map Prod.fst = some 0 := by
      rw [getFewBits_spec hvalid 8 (by omega) (by decide), hleft]
      rfl
    have height : pd.nbits = 8 := by omega
    rw [if_pos ⟨.inr ⟨hnboff, height, hbuffer⟩, hzero⟩]
    rfl

theorem decodeOpen_kept (decode : Get Value) (buf : List UInt8) :
    decodeOpen decode buf ≠ .error .outside := by
  intro outside
  unfold decodeOpen at outside
  cases hdecode : decode.run (.whole buf) with
  | error stop =>
      have hnever := decode.never_fault (whole_valid buf)
      simp only [hdecode, bind, Except.bind] at outside
      cases outside
      exact hnever hdecode
  | ok outcome =>
      simp only [hdecode, bind, Except.bind] at outside
      split at outside
      · cases outside
      · split at outside
        · cases outside
        · cases outside

end

def aperOpenTypePut (encode : Put Unit) : Put Unit := do
  let buf ← Action.outcome (aperEncodeToNewBuffer encode) (aperEncodeToNewBuffer_kept encode)
  putBody buf

def aperOpenTypeGet {Value : Type} (decode : Get Value) : Get Value := do
  let buf ← getBody
  Action.outcome (decodeOpen decode buf) (decodeOpen_kept decode buf)

/-- Bits up to the end, behind which every read fails as the one does that ends the loop. -/
def suck : Nat → Get Unit
  | 0 => pure ()
  | rounds + 1 => do
      ignored 1
      suck rounds

def uperSotSuck : Get Unit :=
  Action.reading fun pd => suck pd.nbits

def aperOpenTypeSkip : Get Unit :=
  aperOpenTypeGet uperSotSuck

/-- An open type comes back exactly where it takes no multiple of 16K. -/
theorem aperOpenType_conveys_iff {Value : Type} {encode : Put Unit} {decode : Get Value}
    {Post : Unit → Value → Prop} (conveys : Conveys encode decode Post) :
    Conveys (aperOpenTypePut encode) (aperOpenTypeGet decode) Post ↔
      ∀ buf, aperEncodeToNewBuffer encode = .ok buf → Ends buf.length := by
  rcases decodeOpen_of_new_buffer conveys with ⟨buf, value, hencode, hdecode, hpost⟩
  unfold aperOpenTypePut aperOpenTypeGet
  rw [Action.outcome_ok hencode, Action.pure_bind]
  constructor
  · intro opened buf' hencode'
    rw [hencode] at hencode'
    rw [← Except.ok.inj hencode']
    by_contra lost
    exact putBody_lost lost opened
  · intro ends
    apply (putBody_conveys (ends buf hencode)).finishing
    intro _ got same
    subst same
    rw [Action.outcome_ok hdecode]
    exact Conveys.pure hpost

end NearRtRic.Asn1
