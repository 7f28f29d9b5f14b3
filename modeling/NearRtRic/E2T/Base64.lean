import Mathlib.Tactic
import NearRtRic.Library.CInteger
import NearRtRic.Library.Cursor
import NearRtRic.Library.Radix64

/-! The `base64` class of the E2 termination. -/

namespace NearRtRic.E2T.Base64

open CInteger Cursor

def base64Table : List UInt8 :=
  "ABCDEFGHIJKLMNOPQRSTUVWXYZabcdefghijklmnopqrstuvwxyz0123456789+/".toList.map
    fun char => UInt8.ofNat char.toNat

def equals : UInt8 := 61

/-- `base64_table[index]` -/
def symbol (index : Nat) : UInt8 := base64Table.getD index 0

/-- The table filled with 0x80, then with the positions in `base64Table`, then '='. -/
def invTable : List UInt8 :=
  ((List.range 64).foldl
    (fun table i => table.set (symbol i).toNat (UInt8.ofNat i))
    (List.replicate 256 0x80)).set equals.toNat 0

def inv (byte : UInt8) : UInt8 := invTable.getD byte.toNat 0

def bytesAt (src : Nat → UInt8) (count : Nat) : List UInt8 :=
  (List.range count).map src

structure Encoded where
  result : Int
  dstLen : Int
  dst : Cursor UInt8

/-- The arguments pass the checks: `srcLen * 4` is an `int`. -/
def encodeAccepts (src : Option (Nat → UInt8)) (srcLen : Int) (dst : Bool) (dstLen : Int) :
    Bool :=
  !(dstLen ≤ 0 || srcLen ≤ 0) && !(dstLen < (toSigned 32 (srcLen * 4)).tdiv 3) &&
    dst && src.isSome

/-- `while (end - in >= 3)` -/
def encodeBlocks : List UInt8 → Cursor UInt8 → List UInt8 × Cursor UInt8
  | in0 :: in1 :: in2 :: rest, pos =>
      let pos := pos.put (symbol (in0.toNat >>> 2))
      let pos := pos.put (symbol ((in0.toNat &&& 0x03) <<< 4 ||| in1.toNat >>> 4))
      let pos := pos.put (symbol ((in1.toNat &&& 0x0f) <<< 2 ||| in2.toNat >>> 6))
      let pos := pos.put (symbol (in2.toNat &&& 0x3f))
      encodeBlocks rest pos
  | rest, pos => (rest, pos)

/-- `if (end - in)` -/
def encodeRest : List UInt8 → Cursor UInt8 → Cursor UInt8
  | [], pos => pos
  | [in0], pos =>
      let pos := pos.put (symbol (in0.toNat >>> 2))
      let pos := pos.put (symbol ((in0.toNat &&& 0x03) <<< 4))
      let pos := pos.put equals
      pos.put equals
  | in0 :: in1 :: _, pos =>
      let pos := pos.put (symbol (in0.toNat >>> 2))
      let pos := pos.put (symbol ((in0.toNat &&& 0x03) <<< 4 ||| in1.toNat >>> 4))
      let pos := pos.put (symbol ((in1.toNat &&& 0x0f) <<< 2))
      pos.put equals

/-- `none` is a null pointer, as is a `dst` that is false. -/
def encode (src : Option (Nat → UInt8)) (srcLen : Int) (dst : Bool) (dstLen : Int) : Encoded :=
  if encodeAccepts src srcLen dst dstLen then
    let blocks := encodeBlocks (bytesAt (src.getD fun _ => 0) srcLen.toNat) start
    let pos := (encodeRest blocks.1 blocks.2).set 0
    { result := 0, dstLen := pos.pos, dst := pos }
  else
    { result := -1, dstLen := dstLen, dst := start }

/-- `unread` is what the loop has not looked at. -/
structure Decoded where
  result : Int
  dst : Cursor UInt8
  unread : List UInt8

def putBlock (block : List UInt8) (pos : Cursor UInt8) : Cursor UInt8 :=
  let b := fun i => (block.getD i 0).toNat
  let pos := pos.put (UInt8.ofNat (b 0 <<< 2 ||| b 1 >>> 4))
  let pos := pos.put (UInt8.ofNat (b 1 <<< 4 ||| b 2 >>> 2))
  pos.put (UInt8.ofNat (b 2 <<< 6 ||| b 3))

/-- The second loop, with the first `count` bytes of `block`. -/
def decodeLoop : List UInt8 → List UInt8 → Nat → Cursor UInt8 → Decoded
  | [], _, _, pos => { result := 0, dst := pos, unread := [] }
  | byte :: src, block, pad, pos =>
      let tmp := inv byte
      if tmp = 0x80 then decodeLoop src block pad pos
      else
        let block := block ++ [tmp]
        let pad := if byte = equals then pad + 1 else pad
        if block.length = 4 then
          let pos := putBlock block pos
          if pad = 0 then decodeLoop src [] pad pos
          else if pad = 1 then { result := 0, dst := pos.back 1, unread := src }
          else if pad = 2 then { result := 0, dst := pos.back 2, unread := src }
          else { result := -1, dst := pos, unread := src }
        else decodeLoop src block pad pos

def decodeAccepts (srcLen : Int) (dst : Bool) (dstLen : Int) : Bool :=
  !(dstLen = 0 || dstLen < srcLen.tdiv 4 * 3) && dst

/-- `dstLen` is passed by value: what is assigned to it at the end is lost. -/
def decode (src : Nat → UInt8) (srcLen : Int) (dst : Bool) (dstLen : Int) : Decoded :=
  let bytes := bytesAt src srcLen.toNat
  let count := bytes.countP (inv · ≠ 0x80)
  if !decodeAccepts srcLen dst dstLen then { result := -1, dst := start, unread := bytes }
  else if count = 0 || count % 4 ≠ 0 then { result := -1, dst := start, unread := bytes }
  else decodeLoop bytes [] 0 start

def alphabet (index : Fin 64) : UInt8 := symbol index

def rfc4648 (octets : List UInt8) : List UInt8 := Radix64.encode alphabet equals octets

theorem or_eq {low bits : Nat} (small : low < 2 ^ bits) (high : Nat) :
    high <<< bits ||| low = high * 2 ^ bits + low := by
  rw [← Nat.shiftLeft_add_eq_or_of_lt small, Nat.shiftLeft_eq]

theorem first_index (in0 in1 in2 : UInt8) :
    in0.toNat >>> 2 = Radix64.digit (Radix64.group in0 in1 in2) 3 := by
  have bounds := And.intro in0.toNat_lt (And.intro in1.toNat_lt in2.toNat_lt)
  rw [Nat.shiftRight_eq_div_pow]
  simp only [Radix64.digit, Radix64.group]
  omega

theorem second_index (in0 in1 in2 : UInt8) :
    ((in0.toNat &&& 0x03) <<< 4 ||| in1.toNat >>> 4) =
      Radix64.digit (Radix64.group in0 in1 in2) 2 := by
  have bounds := And.intro in0.toNat_lt (And.intro in1.toNat_lt in2.toNat_lt)
  have low : in1.toNat >>> 4 < 2 ^ 4 := by
    rw [Nat.shiftRight_eq_div_pow]
    omega
  have mask : in0.toNat &&& 0x03 = in0.toNat % 4 := Nat.and_two_pow_sub_one_eq_mod _ 2
  rw [or_eq low, mask, Nat.shiftRight_eq_div_pow]
  simp only [Radix64.digit, Radix64.group]
  omega

theorem third_index (in0 in1 in2 : UInt8) :
    ((in1.toNat &&& 0x0f) <<< 2 ||| in2.toNat >>> 6) =
      Radix64.digit (Radix64.group in0 in1 in2) 1 := by
  have bounds := And.intro in0.toNat_lt (And.intro in1.toNat_lt in2.toNat_lt)
  have low : in2.toNat >>> 6 < 2 ^ 2 := by
    rw [Nat.shiftRight_eq_div_pow]
    omega
  have mask : in1.toNat &&& 0x0f = in1.toNat % 16 := Nat.and_two_pow_sub_one_eq_mod _ 4
  rw [or_eq low, mask, Nat.shiftRight_eq_div_pow]
  simp only [Radix64.digit, Radix64.group]
  omega

theorem fourth_index (in0 in1 in2 : UInt8) :
    (in2.toNat &&& 0x3f) = Radix64.digit (Radix64.group in0 in1 in2) 0 := by
  have bounds := And.intro in0.toNat_lt (And.intro in1.toNat_lt in2.toNat_lt)
  have mask : in2.toNat &&& 0x3f = in2.toNat % 64 := Nat.and_two_pow_sub_one_eq_mod _ 6
  rw [mask]
  simp only [Radix64.digit, Radix64.group]
  omega

theorem second_index_last (in0 : UInt8) :
    (in0.toNat &&& 0x03) <<< 4 = Radix64.digit (Radix64.group in0 0 0) 2 := by
  rw [← second_index in0 0 0]
  simp

theorem third_index_last (in0 in1 : UInt8) :
    (in1.toNat &&& 0x0f) <<< 2 = Radix64.digit (Radix64.group in0 in1 0) 1 := by
  rw [← third_index in0 in1 0]
  simp

theorem encode_rfc4648 (octets : List UInt8) (pos : Cursor UInt8) :
    encodeRest (encodeBlocks octets pos).1 (encodeBlocks octets pos).2 =
      pos.putAll (rfc4648 octets) := by
  rw [rfc4648]
  fun_induction Radix64.encode alphabet equals octets generalizing pos with
  | case1 => rfl
  | case2 in0 value =>
      simp only [encodeBlocks, encodeRest, first_index in0 0 0, second_index_last]
      rfl
  | case3 in0 in1 value =>
      simp only [encodeBlocks, encodeRest, first_index in0 in1 0, second_index in0 in1 0,
        third_index_last in0 in1]
      rfl
  | case4 in0 in1 in2 rest value ih =>
      rw [encodeBlocks, ih, Cursor.putAll_append]
      simp only [first_index in0 in1 in2, second_index in0 in1 in2, third_index in0 in1 in2,
        fourth_index in0 in1 in2]
      rfl

theorem bytesAt_length (src : Nat → UInt8) (count : Nat) :
    (bytesAt src count).length = count := by
  rw [bytesAt, List.length_map, List.length_range]

theorem rfc4648_length (src : Nat → UInt8) (count : Nat) :
    (rfc4648 (bytesAt src count)).length = 4 * ((count + 2) / 3) := by
  rw [rfc4648, Radix64.encode_length, bytesAt_length]

/-- What is written where the arguments are accepted: the encoding and a NUL. -/
theorem encode_accepted {src : Nat → UInt8} {srcLen dstLen : Int} {dst : Bool}
    (accepts : encodeAccepts (some src) srcLen dst dstLen = true) :
    encode (some src) srcLen dst dstLen =
      { result := 0
        dstLen := (4 * ((srcLen.toNat + 2) / 3) : Nat)
        dst := (start.putAll (rfc4648 (bytesAt src srcLen.toNat))).set 0 } := by
  rw [encode, if_pos accepts]
  simp only [Option.getD_some, encode_rfc4648, Cursor.set, Cursor.putAll_pos, rfc4648_length]
  simp [start]

theorem encode_within_iff (src : Option (Nat → UInt8)) (srcLen : Int) (dst : Bool)
    (dstLen : Int) :
    (encode src srcLen dst dstLen).dst.Within dstLen ↔
      (encodeAccepts src srcLen dst dstLen = true → 4 * ((srcLen + 2) / 3) + 1 ≤ dstLen) := by
  by_cases accepts : encodeAccepts src srcLen dst dstLen = true
  · cases src with
    | none => simp [encodeAccepts] at accepts
    | some src =>
        have positive : 0 < srcLen := by
          simp only [encodeAccepts, Bool.and_eq_true, Bool.not_eq_true', Bool.or_eq_false_iff,
            decide_eq_false_iff_not] at accepts
          omega
        have filled := (Cursor.within_start (start : Cursor UInt8).pos).putAll
          (rfc4648 (bytesAt src srcLen.toNat))
        have ends : (start.putAll (rfc4648 (bytesAt src srcLen.toNat))).pos =
            4 * ((srcLen.toNat + 2) / 3) := by
          rw [Cursor.putAll_pos, rfc4648_length]
          simp [start]
        rw [ends] at filled
        simp only [encode_accepted accepts, accepts, forall_const, Cursor.within_set_iff, ends]
        constructor
        · rintro ⟨_, last⟩
          omega
        · intro room
          exact ⟨filled.mono (by omega), by omega⟩
  · have nothing : (encode src srcLen dst dstLen).dst = start := by
      rw [encode, if_neg accepts]
    rw [nothing]
    exact ⟨fun _ accepted => absurd accepted accepts, fun _ => Cursor.within_start dstLen⟩

def isBase64 (byte : UInt8) : Bool := byte ∈ base64Table || byte = equals

theorem tables_agree :
    (∀ index : Fin 64, inv (alphabet index) = UInt8.ofNat index ∧ alphabet index ≠ equals ∧
      isBase64 (alphabet index) = true) ∧
    inv equals = 0 ∧ isBase64 equals = true := by
  decide +kernel

theorem inv_alphabet (index : Fin 64) : inv (alphabet index) = UInt8.ofNat index :=
  (tables_agree.1 index).1

theorem alphabet_ne_equals (index : Fin 64) : alphabet index ≠ equals :=
  (tables_agree.1 index).2.1

theorem inv_equals : inv equals = 0 :=
  tables_agree.2.1

theorem invTable_filled : invTable.map (fun value => decide (value = 0x80)) =
    (List.range 256).map fun byte => !isBase64 (UInt8.ofNat byte) := by
  decide +kernel

theorem inv_eq_iff (byte : UInt8) : inv byte = 0x80 ↔ isBase64 byte = false := by
  have entry := congrArg (fun table => table[byte.toNat]?) invTable_filled
  simp only [List.getElem?_map, List.getElem?_range byte.toNat_lt, Option.map_some,
    UInt8.ofNat_toNat] at entry
  rcases Option.map_eq_some_iff.mp entry with ⟨value, found, same⟩
  have read : inv byte = value := by
    rw [inv, List.getD_eq_getElem?_getD, found, Option.getD_some]
  have filled : value = 0x80 ↔ decide (value = 0x80) = true := decide_eq_true_iff.symm
  rw [read, filled, same, Bool.not_eq_true']

theorem isBase64_alphabet (index : Fin 64) : isBase64 (alphabet index) = true :=
  (tables_agree.1 index).2.2

theorem isBase64_equals : isBase64 equals = true :=
  tables_agree.2.2

theorem inv_ne {byte : UInt8} (base : isBase64 byte = true) : inv byte ≠ 0x80 := by
  rw [Ne, inv_eq_iff, base]
  decide

theorem used_iff (byte : UInt8) : decide (inv byte ≠ 0x80) = isBase64 byte := by
  cases base : isBase64 byte with
  | false => exact decide_eq_false (not_not.mpr ((inv_eq_iff byte).mpr base))
  | true => exact decide_eq_true (inv_ne base)

theorem decodeLoop_filter (src block : List UInt8) (pad : Nat) (pos : Cursor UInt8) :
    decodeLoop (src.filter isBase64) block pad pos =
      { decodeLoop src block pad pos with
        unread := (decodeLoop src block pad pos).unread.filter isBase64 } := by
  induction src generalizing block pad pos with
  | nil => rfl
  | cons byte src ih =>
      cases base : isBase64 byte with
      | false =>
          have skipped := (inv_eq_iff byte).mpr base
          rw [List.filter_cons_of_neg (by simp [base]), decodeLoop, if_pos skipped]
          exact ih block pad pos
      | true =>
          have used := inv_ne base
          rw [List.filter_cons_of_pos base, decodeLoop, decodeLoop, if_neg used, if_neg used]
          simp only
          split_ifs
          all_goals first | exact ih _ _ _ | rfl

theorem decodeLoop_block {b0 b1 b2 b3 : UInt8}
    (base : ∀ byte ∈ [b0, b1, b2, b3], isBase64 byte = true) (src : List UInt8)
    (pos : Cursor UInt8) :
    decodeLoop (b0 :: b1 :: b2 :: b3 :: src) [] 0 pos =
      let pad := [b0, b1, b2, b3].count equals
      let after := putBlock [inv b0, inv b1, inv b2, inv b3] pos
      if pad = 0 then decodeLoop src [] 0 after
      else if pad = 1 then { result := 0, dst := after.back 1, unread := src }
      else if pad = 2 then { result := 0, dst := after.back 2, unread := src }
      else { result := -1, dst := after, unread := src } := by
  have used : ∀ byte ∈ [b0, b1, b2, b3], inv byte ≠ 0x80 :=
    fun byte member => inv_ne (base byte member)
  simp only [List.forall_mem_cons] at used
  have ⟨used0, used1, used2, used3, _⟩ := used
  simp only [decodeLoop, if_neg used0, if_neg used1, if_neg used2, if_neg used3]
  by_cases is0 : b0 = equals <;> by_cases is1 : b1 = equals <;>
    by_cases is2 : b2 = equals <;> by_cases is3 : b3 = equals <;>
    simp [is0, is1, is2, is3]

theorem putBlock_eq (block : List UInt8) (pos : Cursor UInt8) :
    ∃ out, out.length = 3 ∧ putBlock block pos = pos.putAll out :=
  ⟨[_, _, _], rfl, rfl⟩

theorem putBlock_digits (first second third : UInt8) (pos : Cursor UInt8) :
    let value := Radix64.group first second third
    putBlock
        [UInt8.ofNat (Radix64.digit value 3), UInt8.ofNat (Radix64.digit value 2),
          UInt8.ofNat (Radix64.digit value 1), UInt8.ofNat (Radix64.digit value 0)] pos =
      pos.putAll [first, second, third] := by
  intro value
  have digits : ∀ place, (UInt8.ofNat (Radix64.digit value place)).toNat =
      Radix64.digit value place := by
    intro place
    rw [UInt8.toNat_ofNat', Nat.mod_eq_of_lt ((Radix64.digit value place).isLt.trans (by decide))]
  have quarter : (Radix64.digit value 2).val >>> 4 < 2 ^ 2 := by
    rw [Nat.shiftRight_eq_div_pow]
    omega
  have sixteenth : (Radix64.digit value 1).val >>> 2 < 2 ^ 4 := by
    rw [Nat.shiftRight_eq_div_pow]
    omega
  have out0 : UInt8.ofNat
      ((Radix64.digit value 3).val <<< 2 ||| (Radix64.digit value 2).val >>> 4) = first := by
    rw [or_eq quarter, Nat.shiftRight_eq_div_pow]
    exact (congrArg UInt8.ofNat (Radix64.first_octet first second third)).trans
      UInt8.ofNat_toNat
  have out1 : UInt8.ofNat
      ((Radix64.digit value 2).val <<< 4 ||| (Radix64.digit value 1).val >>> 2) = second := by
    rw [or_eq sixteenth, Nat.shiftRight_eq_div_pow, ← UInt8.toNat_inj, UInt8.toNat_ofNat']
    exact Radix64.second_octet first second third
  have out2 : UInt8.ofNat
      ((Radix64.digit value 1).val <<< 6 ||| (Radix64.digit value 0).val) = third := by
    rw [or_eq (Radix64.digit value 0).isLt, ← UInt8.toNat_inj, UInt8.toNat_ofNat']
    exact Radix64.third_octet first second third
  simp only [putBlock, List.getD_cons_zero, List.getD_cons_succ, digits, out0, out1, out2]
  rfl

def Leaves (before after : Cursor UInt8) (values : List UInt8) : Prop :=
  after.pos = before.pos + values.length ∧
    ∀ offset < after.pos, after.read offset = (before.putAll values).read offset

theorem leaves_back (before : Cursor UInt8) (values taken : List UInt8) :
    Leaves before ((before.putAll (values ++ taken)).back taken.length) values := by
  have ends : ((before.putAll (values ++ taken)).back taken.length).pos =
      before.pos + values.length := by
    rw [Cursor.back, Cursor.putAll_pos, List.length_append]
    simp only
    omega
  refine ⟨ends, fun offset below => ?_⟩
  rw [ends] at below
  have kept : ((before.putAll (values ++ taken)).back taken.length).read offset =
      (before.putAll (values ++ taken)).read offset := rfl
  have outside : ¬ ((before.putAll values).pos ≤ offset ∧
      offset < (before.putAll values).pos + taken.length) := by
    rw [Cursor.putAll_pos]
    omega
  rw [kept, Cursor.putAll_append, Cursor.read_putAll _ taken, if_neg outside]

theorem rfc4648_isBase64 (octets : List UInt8) :
    ∀ byte ∈ rfc4648 octets, isBase64 byte = true := by
  rw [rfc4648]
  fun_induction Radix64.encode alphabet equals octets with
  | case1 =>
      intro byte member
      cases member
  | case2 first value => simp [isBase64_alphabet, isBase64_equals]
  | case3 first second value => simp [isBase64_alphabet, isBase64_equals]
  | case4 first second third rest value ih =>
      intro byte member
      rcases List.mem_append.mp member with here | later
      · simp only [List.mem_cons, List.not_mem_nil, or_false] at here
        rcases here with rfl | rfl | rfl | rfl <;> exact isBase64_alphabet _
      · exact ih byte later

theorem count_alphabet (indices : List (Fin 64)) : (indices.map alphabet).count equals = 0 := by
  rw [List.count_eq_zero]
  intro member
  rcases List.mem_map.mp member with ⟨index, _, same⟩
  exact alphabet_ne_equals index same

/-- The zero bits that were added are those for which '=' stands. -/
theorem digit_zero (first second : UInt8) :
    UInt8.ofNat (Radix64.digit (Radix64.group first second 0) 0) = 0 ∧
      UInt8.ofNat (Radix64.digit (Radix64.group first 0 0) 1) = 0 := by
  have low : (Radix64.digit (Radix64.group first second 0) 0).val = 0 := by
    simp only [Radix64.digit, Radix64.group, UInt8.toNat_zero]
    omega
  have next : (Radix64.digit (Radix64.group first 0 0) 1).val = 0 := by
    simp only [Radix64.digit, Radix64.group, UInt8.toNat_zero]
    omega
  rw [low, next]
  exact ⟨rfl, rfl⟩

theorem decode_rfc4648 (octets : List UInt8) (pos : Cursor UInt8) :
    (decodeLoop (rfc4648 octets) [] 0 pos).result = 0 ∧
      Leaves pos (decodeLoop (rfc4648 octets) [] 0 pos).dst octets := by
  have base := rfc4648_isBase64 octets
  revert base
  rw [rfc4648]
  fun_induction Radix64.encode alphabet equals octets generalizing pos with
  | case1 =>
      intro base
      exact ⟨rfl, leaves_back pos [] []⟩
  | case2 first value =>
      intro base
      have zeros := digit_zero first 0
      have block := putBlock_digits first 0 0 pos
      simp only [zeros.1, zeros.2] at block
      have pad : [alphabet (Radix64.digit value 3), alphabet (Radix64.digit value 2), equals,
          equals].count equals = 2 := by
        simp [alphabet_ne_equals]
      rw [decodeLoop_block base, pad]
      simp only [inv_alphabet, inv_equals, value, block]
      exact ⟨rfl, leaves_back pos [first] [0, 0]⟩
  | case3 first second value =>
      intro base
      have zeros := digit_zero first second
      have block := putBlock_digits first second 0 pos
      simp only [zeros.1] at block
      have pad : [alphabet (Radix64.digit value 3), alphabet (Radix64.digit value 2),
          alphabet (Radix64.digit value 1), equals].count equals = 1 := by
        simp [alphabet_ne_equals]
      rw [decodeLoop_block base, pad]
      simp only [inv_alphabet, inv_equals, value, block]
      exact ⟨rfl, leaves_back pos [first, second] [0]⟩
  | case4 first second third rest value ih =>
      intro base
      rcases List.forall_mem_append.mp base with ⟨here, later⟩
      have pad := count_alphabet [Radix64.digit value 3, Radix64.digit value 2,
        Radix64.digit value 1, Radix64.digit value 0]
      have block := putBlock_digits first second third pos
      rcases ih (pos.putAll [first, second, third]) later with ⟨result, ends, reads⟩
      simp only [List.cons_append, List.nil_append]
      rw [decodeLoop_block here, show [alphabet (Radix64.digit value 3),
        alphabet (Radix64.digit value 2), alphabet (Radix64.digit value 1),
        alphabet (Radix64.digit value 0)].count equals = 0 from pad]
      simp only [inv_alphabet, value, block, if_true]
      refine ⟨result, ?_, reads⟩
      rw [ends, Cursor.putAll_pos]
      simp only [List.length_cons, List.length_nil]
      omega

theorem countP_isBase64 (bytes : List UInt8) :
    bytes.countP (inv · ≠ 0x80) = (bytes.filter isBase64).length := by
  rw [List.countP_eq_length_filter, List.filter_congr fun byte _ => used_iff byte]

theorem decode_eq (src : Nat → UInt8) (srcLen dstLen : Int) (dst : Bool)
    (accepts : decodeAccepts srcLen dst dstLen = true)
    (positive : 0 < ((bytesAt src srcLen.toNat).filter isBase64).length)
    (whole : 4 ∣ ((bytesAt src srcLen.toNat).filter isBase64).length) :
    decode src srcLen dst dstLen = decodeLoop (bytesAt src srcLen.toNat) [] 0 start := by
  have passes : ¬ ((!decodeAccepts srcLen dst dstLen) = true) := by simp [accepts]
  have count : ¬ ((((bytesAt src srcLen.toNat).filter isBase64).length = 0 ||
      ((bytesAt src srcLen.toNat).filter isBase64).length % 4 ≠ 0) = true) := by
    rw [Bool.or_eq_true, decide_eq_true_iff, decide_eq_true_iff]
    omega
  rw [← countP_isBase64] at count
  rw [decode, if_neg passes, if_neg count]

theorem bytesAt_memory (values : List UInt8) (last : UInt8) (before : Nat → UInt8) :
    bytesAt (((start.putAll values).set last).memory before) values.length = values := by
  apply List.ext_getElem
  · exact bytesAt_length _ _
  · intro offset _ inside
    have behind : offset ≠ (start.putAll values).pos := by
      rw [Cursor.putAll_pos]
      simp only [start]
      omega
    simp only [bytesAt, List.getElem_map, List.getElem_range, Cursor.memory]
    rw [Cursor.read_set, if_neg behind, Cursor.read_putAll_start, List.getElem?_eq_getElem inside]
    rfl

theorem encodeAccepts_of_room (src : Nat → UInt8) {srcLen dstLen : Int} (nonempty : 0 < srcLen)
    (small : 4 * srcLen < 2 ^ 31) (room : 4 * ((srcLen + 2) / 3) + 1 ≤ dstLen) :
    encodeAccepts (some src) srcLen true dstLen = true := by
  have product : toSigned 32 (srcLen * 4) = srcLen * 4 :=
    toSigned_of_range (by omega) (by omega)
  simp only [encodeAccepts, product, Bool.and_eq_true, Bool.not_eq_true',
    Bool.or_eq_false_iff, decide_eq_false_iff_not, Option.isSome_some, and_true]
  rw [Int.tdiv_eq_ediv_of_nonneg (by omega)]
  omega

theorem decodeAccepts_of_room {groups : Nat} {dstLen : Int} (nonempty : 0 < groups)
    (room : 3 * (groups : Int) ≤ dstLen) :
    decodeAccepts (4 * groups : Nat) true dstLen = true := by
  simp only [decodeAccepts, Bool.and_eq_true, Bool.not_eq_true', Bool.or_eq_false_iff,
    decide_eq_false_iff_not, and_true]
  rw [Int.tdiv_eq_ediv_of_nonneg (by omega)]
  omega

/-- Encoding writes what RFC 4648 says, with a NUL behind it, and decoding gives the octets
back: `before` is what the destination of the encoding held. -/
theorem base64_round_trip (src before : Nat → UInt8) (srcLen dstLen backLen : Int)
    (nonempty : 0 < srcLen) (small : 4 * srcLen < 2 ^ 31)
    (room : 4 * ((srcLen + 2) / 3) + 1 ≤ dstLen) (backRoom : 3 * ((srcLen + 2) / 3) ≤ backLen) :
    let octets := bytesAt src srcLen.toNat
    let encoded := encode (some src) srcLen true dstLen
    let decoded := decode (encoded.dst.memory before) encoded.dstLen true backLen
    encoded.result = 0 ∧ encoded.dstLen = 4 * ((srcLen + 2) / 3) ∧
      (∀ offset, encoded.dst.read offset = (rfc4648 octets ++ [0])[offset]?) ∧
      decoded.result = 0 ∧ decoded.dst.pos = srcLen.toNat ∧
      ∀ offset < decoded.dst.pos, decoded.dst.read offset = octets[offset]? := by
  intro octets encoded decoded
  have accepts : encodeAccepts (some src) srcLen true dstLen = true :=
    encodeAccepts_of_room src nonempty small room
  have length : (rfc4648 octets).length = 4 * ((srcLen.toNat + 2) / 3) := rfc4648_length src _
  have written : encoded = _ := encode_accepted accepts
  have size : encoded.dstLen = ((rfc4648 octets).length : Int) := by rw [written, length]
  have memory : bytesAt (encoded.dst.memory before) encoded.dstLen.toNat = rfc4648 octets := by
    rw [size, Int.toNat_natCast, written]
    exact bytesAt_memory _ _ _
  have filtered : (rfc4648 octets).filter isBase64 = rfc4648 octets :=
    List.filter_eq_self.mpr (rfc4648_isBase64 octets)
  have decodes : decoded = decodeLoop (rfc4648 octets) [] 0 start := by
    rw [← memory]
    apply decode_eq
    · rw [size, length]
      exact decodeAccepts_of_room (by omega) (by omega)
    · rw [memory, filtered, length]
      omega
    · rw [memory, filtered, length]
      exact Dvd.intro _ rfl
  have ⟨result, ends, reads⟩ := decode_rfc4648 octets start
  rw [← decodes] at result ends reads
  have octetsLength : octets.length = srcLen.toNat := bytesAt_length src _
  refine ⟨by rw [written], by rw [size, length]; omega, fun offset => ?_, result, ?_, ?_⟩
  · rw [written]
    exact Cursor.read_putAll_set _ _ _
  · rw [ends, octetsLength]
    simp [start]
  · intro offset below
    rw [reads offset below, Cursor.read_putAll_start]

theorem base64_round_trip_ab :
    let octets := bytesAt (fun offset => if offset = 0 then 97 else 98) 2
    let encoded := encode (some fun offset => if offset = 0 then 97 else 98) 2 true 5
    let decoded := decode (encoded.dst.memory fun _ => 0) encoded.dstLen true 3
    encoded.result = 0 ∧ encoded.dstLen = 4 * ((2 + 2) / 3) ∧
      (∀ offset, encoded.dst.read offset = (rfc4648 octets ++ [0])[offset]?) ∧
      decoded.result = 0 ∧ decoded.dst.pos = 2 ∧
      ∀ offset < decoded.dst.pos, decoded.dst.read offset = octets[offset]? :=
  base64_round_trip (fun offset => if offset = 0 then 97 else 98) (fun _ => 0) 2 5 3
    (by decide) (by decide) (by decide) (by decide)

theorem decodeLoop_within (src block : List UInt8) (pad : Nat) {pos : Cursor UInt8}
    (filled : pos.Within pos.pos) :
    (decodeLoop src block pad pos).dst.Within
      (pos.pos + 3 * ((block.length + src.length) / 4) : Nat) := by
  induction src generalizing block pad pos with
  | nil => exact filled.mono (by omega)
  | cons byte src ih =>
      simp only [decodeLoop, List.length_append, List.length_cons, List.length_nil]
      generalize (if byte = equals then pad + 1 else pad) = counted
      split_ifs with other full
      · exact (ih block pad filled).mono (by omega)
      all_goals
        have ⟨out, three, put⟩ := putBlock_eq (block ++ [inv byte]) pos
        have ends : (putBlock (block ++ [inv byte]) pos).pos = pos.pos + 3 := by
          rw [put, Cursor.putAll_pos, three]
        have written : (putBlock (block ++ [inv byte]) pos).Within
            (putBlock (block ++ [inv byte]) pos).pos := by
          rw [put]
          exact filled.putAll out
      · refine (ih [] counted written).mono ?_
        rw [ends, List.length_nil]
        omega
      · exact written.mono (by omega)
      · exact written.mono (by omega)
      · exact written.mono (by omega)
      · refine (ih (block ++ [inv byte]) counted filled).mono ?_
        rw [List.length_append, List.length_singleton]
        omega

theorem decode_within (src : Nat → UInt8) (srcLen : Int) (dst : Bool) (dstLen : Int) :
    (decode src srcLen dst dstLen).dst.Within dstLen := by
  have within := decodeLoop_within (bytesAt src srcLen.toNat) [] 0
    (Cursor.within_start (start : Cursor UInt8).pos)
  unfold decode
  simp only
  split_ifs with refused empty
  · exact Cursor.within_start dstLen
  · exact Cursor.within_start dstLen
  · have accepts : dstLen ≠ 0 ∧ srcLen.tdiv 4 * 3 ≤ dstLen := by
      simp only [decodeAccepts, Bool.not_eq_true', Bool.and_eq_false_iff, Bool.not_eq_false',
        Bool.or_eq_true, decide_eq_true_iff, not_or, not_lt] at refused
      exact refused.1
    have positive : 0 ≤ srcLen := by
      by_contra negative
      have nothing : srcLen.toNat = 0 := by omega
      simp [nothing, bytesAt] at empty
    rw [Int.tdiv_eq_ediv_of_nonneg positive] at accepts
    refine within.mono ?_
    rw [bytesAt_length]
    simp only [start, List.length_nil]
    omega

/-- Every byte is written inside the destination: what is encoded, with its NUL, and what is
decoded. -/
def WritesInside (src : Option (Nat → UInt8)) (text : Nat → UInt8) (srcLen : Int) (dst : Bool)
    (dstLen : Int) : Prop :=
  (encode src srcLen dst dstLen).dst.Within dstLen ∧
    (decode text srcLen dst dstLen).dst.Within dstLen

/-- Decoding does so always, encoding where there is room for every group of four and a NUL. -/
theorem base64_writes_inside_iff (src : Option (Nat → UInt8)) (text : Nat → UInt8)
    (srcLen : Int) (dst : Bool) (dstLen : Int) :
    WritesInside src text srcLen dst dstLen ↔
      (encodeAccepts src srcLen dst dstLen = true → 4 * ((srcLen + 2) / 3) + 1 ≤ dstLen) := by
  rw [WritesInside, encode_within_iff]
  exact and_iff_left (decode_within text srcLen dst dstLen)

theorem encode_writes_behind :
    ¬ ∀ src text srcLen dst dstLen, WritesInside src text srcLen dst dstLen := by
  intro claim
  have inside := (claim (some fun _ => 97) (fun _ => 97) 3 true 4).1
  rw [encode_within_iff] at inside
  exact absurd (inside (by decide +kernel)) (by decide)

/-- The first group of four in which '=' stands, and what follows it. -/
def firstPadded : List UInt8 → Option (List UInt8 × List UInt8)
  | b0 :: b1 :: b2 :: b3 :: rest =>
      if equals ∈ [b0, b1, b2, b3] then some ([b0, b1, b2, b3], rest) else firstPadded rest
  | _ => none

theorem forall_padded_iff (padded rest : List UInt8) (holds : List UInt8 → List UInt8 → Prop) :
    (∀ other later, some (padded, rest) = some (other, later) → holds other later) ↔
      holds padded rest := by
  constructor
  · intro all
    exact all padded rest rfl
  · rintro here other later same
    have ⟨sameGroup, sameRest⟩ := Prod.mk.inj (Option.some.inj same)
    rw [← sameGroup, ← sameRest]
    exact here

theorem eq_nil_of_short {text : List UInt8} (whole : 4 ∣ text.length)
    (short : ∀ b0 b1 b2 b3 rest, text = b0 :: b1 :: b2 :: b3 :: rest → False) : text = [] := by
  rcases text with _ | ⟨b0, _ | ⟨b1, _ | ⟨b2, _ | ⟨b3, rest⟩⟩⟩⟩
  · rfl
  · exact absurd whole (by decide : ¬ 4 ∣ 1)
  · exact absurd whole (by decide : ¬ 4 ∣ 2)
  · exact absurd whole (by decide : ¬ 4 ∣ 3)
  · exact absurd rfl (short b0 b1 b2 b3 rest)

theorem dvd_length_rest {b0 b1 b2 b3 : UInt8} {rest : List UInt8}
    (whole : 4 ∣ (b0 :: b1 :: b2 :: b3 :: rest).length) : 4 ∣ rest.length := by
  simp only [List.length_cons] at whole
  omega

theorem decodeLoop_groups (text : List UInt8) (base : ∀ byte ∈ text, isBase64 byte = true)
    (whole : 4 ∣ text.length) (pos : Cursor UInt8) :
    ((decodeLoop text [] 0 pos).result = 0 ↔
        ∀ padded rest, firstPadded text = some (padded, rest) → padded.count equals ≤ 2) ∧
      (decodeLoop text [] 0 pos).unread = ((firstPadded text).map Prod.snd).getD [] := by
  fun_induction firstPadded text generalizing pos with
  | case1 b0 b1 b2 b3 rest padded =>
      have ⟨here, later⟩ : (∀ byte ∈ [b0, b1, b2, b3], isBase64 byte = true) ∧
          ∀ byte ∈ rest, isBase64 byte = true :=
        List.forall_mem_append.mp base
      have some_pad : [b0, b1, b2, b3].count equals ≠ 0 :=
        (List.count_pos_iff.mpr padded).ne'
      rw [decodeLoop_block here,
        forall_padded_iff _ _ fun padded _ => padded.count equals ≤ 2]
      simp only [if_neg some_pad]
      split_ifs with one two
      · simp [one]
      · simp [two]
      · refine ⟨iff_of_false (by decide : ¬ (-1 : Int) = 0) ?_, rfl⟩
        omega
  | case2 b0 b1 b2 b3 rest plain ih =>
      have ⟨here, later⟩ : (∀ byte ∈ [b0, b1, b2, b3], isBase64 byte = true) ∧
          ∀ byte ∈ rest, isBase64 byte = true :=
        List.forall_mem_append.mp base
      have no_pad : [b0, b1, b2, b3].count equals = 0 := List.count_eq_zero.mpr plain
      rw [decodeLoop_block here]
      simp only [if_pos no_pad]
      exact ih later (dvd_length_rest whole) _
  | case3 text short =>
      have empty := eq_nil_of_short whole short
      subst empty
      simp [decodeLoop]

/-- The padding of a group is its last byte, or the last two. -/
def PadsLast (padded : List UInt8) : Prop :=
  Radix64.Formed equals padded

theorem formed_iff (text : List UInt8) (nonempty : text ≠ []) (whole : 4 ∣ text.length) :
    Radix64.Formed equals text ↔
      ∀ padded rest, firstPadded text = some (padded, rest) → PadsLast padded ∧ rest = [] := by
  fun_induction firstPadded text with
  | case1 b0 b1 b2 b3 rest padded =>
      rw [forall_padded_iff _ _ fun padded rest => PadsLast padded ∧ rest = [], PadsLast,
        Radix64.Formed, Radix64.Formed]
      simp only [List.mem_cons, List.not_mem_nil, or_false] at padded
      tauto
  | case2 b0 b1 b2 b3 rest plain ih =>
      simp only [List.mem_cons, List.not_mem_nil, or_false, not_or] at plain
      have ⟨plain0, plain1, plain2, plain3⟩ := plain
      rw [Radix64.Formed]
      by_cases last : rest = []
      · subst last
        simp [firstPadded, Ne.symm plain0, Ne.symm plain1, Ne.symm plain2]
      · rw [← ih last (dvd_length_rest whole)]
        simp [last, Ne.symm plain0, Ne.symm plain1, Ne.symm plain2, Ne.symm plain3]
  | case3 text short => exact absurd (eq_nil_of_short whole short) nonempty

def textOf (src : Nat → UInt8) (srcLen : Int) : List UInt8 :=
  (bytesAt src srcLen.toNat).filter isBase64

/-- With room enough, what is accepted is base 64, and all of it has been read. -/
def AcceptsBase64 (src : Nat → UInt8) (srcLen : Int) : Prop :=
  ∀ dstLen, dstLen ≠ 0 → srcLen.tdiv 4 * 3 ≤ dstLen →
    ((decode src srcLen true dstLen).result = 0 ↔ Radix64.Formed equals (textOf src srcLen)) ∧
      ((decode src srcLen true dstLen).result = 0 →
        (decode src srcLen true dstLen).unread.filter isBase64 = [])

/-- Where '=' stands first in a group of four, it stands there more than twice, or at the end of
the text. -/
def PaddedAtEnd (text : List UInt8) : Prop :=
  4 ∣ text.length → ∀ padded rest, firstPadded text = some (padded, rest) →
    padded.count equals ≤ 2 → PadsLast padded ∧ rest = []

theorem formed_length {text : List UInt8} (formed : Radix64.Formed equals text) :
    text ≠ [] ∧ 4 ∣ text.length := by
  fun_induction Radix64.Formed equals text with
  | case1 b0 b1 b2 b3 rest ih =>
      refine ⟨List.cons_ne_nil _ _, ?_⟩
      have whole : 4 ∣ rest.length := by
        rcases formed.2.2 with ⟨last, _⟩ | ⟨_, _, more⟩
        · rw [last]
          exact Nat.dvd_zero 4 |>.trans (dvd_refl _)
        · exact (ih more).2
      simp only [List.length_cons]
      omega
  | case2 text short => exact absurd formed id

theorem decode_broken (src : Nat → UInt8) (srcLen dstLen : Int)
    (broken : ¬ (textOf src srcLen ≠ [] ∧ 4 ∣ (textOf src srcLen).length)) :
    (decode src srcLen true dstLen).result = -1 := by
  have count : textOf src srcLen = [] ∨ (textOf src srcLen).length % 4 ≠ 0 := by
    by_contra whole
    rw [not_or] at whole
    exact broken ⟨whole.1, Nat.dvd_of_mod_eq_zero (not_not.mp whole.2)⟩
  rw [decode, countP_isBase64]
  split_ifs with refused empty
  · rfl
  · rfl
  · rw [textOf, ← List.length_eq_zero_iff] at count
    simp only [Bool.or_eq_true, decide_eq_true_iff] at empty
    exact absurd count empty

theorem decode_whole {src : Nat → UInt8} {srcLen dstLen : Int} (nonempty : textOf src srcLen ≠ [])
    (whole : 4 ∣ (textOf src srcLen).length) (nonzero : dstLen ≠ 0)
    (room : srcLen.tdiv 4 * 3 ≤ dstLen) :
    ((decode src srcLen true dstLen).result = 0 ↔
        ∀ padded rest, firstPadded (textOf src srcLen) = some (padded, rest) →
          padded.count equals ≤ 2) ∧
      (decode src srcLen true dstLen).unread.filter isBase64 =
        ((firstPadded (textOf src srcLen)).map Prod.snd).getD [] := by
  have base : ∀ byte ∈ textOf src srcLen, isBase64 byte = true :=
    fun byte member => (List.mem_filter.mp member).2
  have accepts : decodeAccepts srcLen true dstLen = true := by
    simp [decodeAccepts, nonzero, room]
  have groups := decodeLoop_groups (textOf src srcLen) base whole start
  rw [textOf, decodeLoop_filter] at groups
  rw [decode_eq src srcLen dstLen true accepts (List.length_pos_iff.mpr nonempty) whole]
  exact groups

theorem padsLast_count {text padded rest : List UInt8}
    (first : firstPadded text = some (padded, rest)) (last : PadsLast padded) :
    padded.count equals ≤ 2 := by
  fun_induction firstPadded text with
  | case1 b0 b1 b2 b3 later found =>
      have ⟨same, _⟩ := Prod.mk.inj (Option.some.inj first)
      subst same
      have ⟨plain0, plain1, _⟩ := last
      rw [List.count_cons_of_ne plain0, List.count_cons_of_ne plain1]
      exact List.count_le_length
  | case2 b0 b1 b2 b3 later plain ih => exact ih first
  | case3 text short => cases first

/-- A padded group that is not the last one, or with '=' at its start, is decoded all the same,
and nothing behind it is read. -/
theorem accepts_base64_iff (src : Nat → UInt8) (srcLen : Int) :
    AcceptsBase64 src srcLen ↔ PaddedAtEnd (textOf src srcLen) := by
  by_cases whole : textOf src srcLen ≠ [] ∧ 4 ∣ (textOf src srcLen).length
  · have property : ∀ dstLen, dstLen ≠ 0 → srcLen.tdiv 4 * 3 ≤ dstLen →
        ((((decode src srcLen true dstLen).result = 0 ↔
            Radix64.Formed equals (textOf src srcLen)) ∧
          ((decode src srcLen true dstLen).result = 0 →
            (decode src srcLen true dstLen).unread.filter isBase64 = [])) ↔
          PaddedAtEnd (textOf src srcLen)) := by
      intro dstLen nonzero room
      have ⟨result, unread⟩ := decode_whole whole.1 whole.2 nonzero room
      have few := fun padded rest first => @padsLast_count (textOf src srcLen) padded rest first
      rw [result, unread, formed_iff _ whole.1 whole.2, PaddedAtEnd]
      cases first : firstPadded (textOf src srcLen) with
      | none => simp
      | some found =>
          rw [forall_padded_iff _ _ fun padded _ => padded.count equals ≤ 2,
            forall_padded_iff _ _ fun padded rest => PadsLast padded ∧ rest = [],
            forall_padded_iff _ _ fun padded rest =>
              padded.count equals ≤ 2 → PadsLast padded ∧ rest = []]
          have fewHere := few found.1 found.2 first
          simp only [whole.2, forall_const, Option.map_some, Option.getD_some]
          tauto
    constructor
    · intro accepts
      have large := le_max_right 1 (srcLen.tdiv 4 * 3)
      have nonzero : max 1 (srcLen.tdiv 4 * 3) ≠ 0 := by omega
      exact (property _ nonzero large).mp (accepts _ nonzero large)
    · intro padded dstLen nonzero room
      exact (property dstLen nonzero room).mpr padded
  · have rejects := fun dstLen => decode_broken src srcLen dstLen whole
    have unformed : ¬ Radix64.Formed equals (textOf src srcLen) :=
      fun formed => whole (formed_length formed)
    constructor
    · intro _ divides padded rest first
      have empty : textOf src srcLen = [] := by
        by_contra nonempty
        exact whole ⟨nonempty, divides⟩
      rw [empty] at first
      cases first
    · intro _ dstLen _ _
      rw [rejects dstLen]
      exact ⟨iff_of_false (by decide) unformed, fun accepted => absurd accepted (by decide)⟩

/-- The text "AA==AAAA" is accepted, and its end is not read. -/
theorem padded_middle_accepted : ¬ ∀ src srcLen, AcceptsBase64 src srcLen := by
  intro claim
  have padded := (accepts_base64_iff
    (fun offset => if offset = 2 ∨ offset = 3 then equals else 65) 8).mp (claim _ _)
  have text : textOf (fun offset => if offset = 2 ∨ offset = 3 then equals else 65) 8 =
      [65, 65, equals, equals, 65, 65, 65, 65] := by
    decide +kernel
  rw [text] at padded
  have last := (padded (by decide) [65, 65, equals, equals] [65, 65, 65, 65] (by decide)
    (by decide)).2
  cases last

end NearRtRic.E2T.Base64
