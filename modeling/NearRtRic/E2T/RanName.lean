import Mathlib.Tactic
import NearRtRic.Library.Buffer
import NearRtRic.Library.Text

/-! The name of an E2 node, composed by `buildRanName` in the caller's character array. -/

namespace NearRtRic.E2T

open Buffer

def MAX_ENODB_NAME_SIZE : Nat := 64

/-- `BIT_STRING_t`: the octets and how many trailing bits of the last one are unused. -/
structure BitString where
  buf : List UInt8
  bitsUnused : Nat
  deriving DecidableEq, Repr

def BitString.bits (data : BitString) : Nat :=
  8 * data.buf.length - data.bitsUnused

abbrev PlmnIdentity := Vector UInt8 3

inductive GnbIdPr where
  | nothing
  | gnbId
  deriving DecidableEq, Repr

inductive EngnbIdPr where
  | nothing
  | gnbId
  deriving DecidableEq, Repr

inductive EnbIdChoicePr where
  | nothing
  | enbIdMacro
  | enbIdShortMacro
  | enbIdLongMacro
  deriving DecidableEq, Repr

inductive EnbIdPr where
  | nothing
  | macroEnbId
  | homeEnbId
  | shortMacroEnbId
  | longMacroEnbId
  deriving DecidableEq, Repr

/-! The SIZE constraint of each alternative, in bits. -/

def GnbIdPr.size : GnbIdPr → Option (Nat × Nat)
  | .nothing => none
  | .gnbId => some (22, 32)

def EngnbIdPr.size : EngnbIdPr → Option (Nat × Nat)
  | .nothing => none
  | .gnbId => some (22, 32)

def EnbIdChoicePr.size : EnbIdChoicePr → Option (Nat × Nat)
  | .nothing => none
  | .enbIdMacro => some (20, 20)
  | .enbIdShortMacro => some (18, 18)
  | .enbIdLongMacro => some (21, 21)

def EnbIdPr.size : EnbIdPr → Option (Nat × Nat)
  | .nothing => none
  | .macroEnbId => some (20, 20)
  | .homeEnbId => some (28, 28)
  | .shortMacroEnbId => some (18, 18)
  | .longMacroEnbId => some (21, 21)

/-- An inner node id as the decoder hands it over: the tag, the BIT STRING of the union, and
the SIZE constraint of the alternative that is present. -/
structure NodeId {Tag : Type} (size : Tag → Option (Nat × Nat)) where
  present : Tag
  choice : BitString
  sized : ∀ range, size present = some range →
    range.1 ≤ choice.bits ∧ choice.bits ≤ range.2 ∧ choice.bitsUnused < 8

inductive GlobalE2nodeId where
  | nothing
  | gNB (plmnId : PlmnIdentity) (gnbId : NodeId GnbIdPr.size)
  | enGNB (plmnIdentity : PlmnIdentity) (gnbId : NodeId EngnbIdPr.size)
  | ngENB (plmnId : PlmnIdentity) (enbId : NodeId EnbIdChoicePr.size)
  | eNB (plmnIdentity : PlmnIdentity) (enbId : NodeId EnbIdPr.size)

def low (octet : UInt8) : Nat := (octet &&& 0x0F).toNat
def high (octet : UInt8) : Nat := ((octet &&& 0xF0) >>> 4).toNat

def decimal (value : Nat) : List Char := Nat.toDigits 10 value

def hexadecimal (value : Nat) : List Char := Nat.toDigits 16 value

def translatePlmnId (plmnId : List Char) (data : PlmnIdentity) (type : String) :
    List Char × Nat :=
  let mcc1 := low data[0]
  let mcc2 := high data[0]
  let mcc3 := low data[1]
  let mnc1 := low data[2]
  let mnc2 := high data[2]
  let mnc3 := high data[1]
  let text :=
    if mnc3 ≠ 15 then
      type.toList ++ decimal mcc1 ++ decimal mcc2 ++ decimal mcc3 ++ ['_'] ++
        decimal mnc1 ++ decimal mnc2 ++ decimal mnc3
    else
      type.toList ++ decimal mcc1 ++ decimal mcc2 ++ decimal mcc3 ++ ['_', '0'] ++
        decimal mnc1 ++ decimal mnc2
  (snprintf plmnId 20 text, text.length)

/-- `j = snprintf(buffer, 256, "%s...", ranName, ...); memcpy(ranName, buffer, j)`: the
terminating NUL is not copied. -/
def printBehind (ranName text : List Char) : List Char × Nat :=
  let printed := string ranName ++ text
  let buffer := snprintf (zeroed 256) 256 printed
  (memcpy ranName (buffer.take printed.length), printed.length)

def translateBitStringToChar (ranName : List Char) (data : BitString) : List Char × Nat :=
  data.buf.foldl
    (fun state octet =>
      printBehind (printBehind state.1 (hexadecimal (high octet))).1
        (hexadecimal (low octet)))
    (printBehind ranName ['_'])

def writeName (ranName : List Char) (type : String) (plmnId : PlmnIdentity)
    (data : BitString) : List Char :=
  (translateBitStringToChar (translatePlmnId ranName plmnId type).1 data).1

/-- The `GlobalE2node_ID_PR_eNB` case: it ends without a `break`, in the `return -1` of
the default case. -/
def buildEnbName (ranName : List Char) (plmnIdentity : PlmnIdentity) (present : EnbIdPr)
    (choice : BitString) : Int × List Char :=
  match present with
  | .nothing => (-1, ranName)
  | .macroEnbId => (-1, writeName ranName "enB_macro_" plmnIdentity choice)
  | .homeEnbId => (-1, writeName ranName "enB_home_" plmnIdentity choice)
  | .shortMacroEnbId => (-1, writeName ranName "enB_shortmacro_" plmnIdentity choice)
  | .longMacroEnbId => (-1, writeName ranName "enB_longmacro_" plmnIdentity choice)

/-- The tag of an `ENB_ID_Choice` read as the tag of an `ENB_ID`: the same number. -/
def EnbIdChoicePr.asEnbIdPr : EnbIdChoicePr → EnbIdPr
  | .nothing => .nothing
  | .enbIdMacro => .macroEnbId
  | .enbIdShortMacro => .homeEnbId
  | .enbIdLongMacro => .shortMacroEnbId

/-- The return value and the array afterwards. -/
def buildRanName (ranName : List Char) : GlobalE2nodeId → Int × List Char
  | .gNB plmnId gnbId =>
      let ranName := (translatePlmnId ranName plmnId "gnb_").1
      match gnbId.present with
      | .gnbId => (0, (translateBitStringToChar ranName gnbId.choice).1)
      | .nothing => (0, ranName)
  | .enGNB plmnIdentity gnbId =>
      let ranName := (translatePlmnId ranName plmnIdentity "en_gnb_").1
      match gnbId.present with
      | .gnbId => (0, (translateBitStringToChar ranName gnbId.choice).1)
      | .nothing => (0, ranName)
  | .ngENB plmnId enbId =>
      let ranName := match enbId.present with
        | .nothing => ranName
        | .enbIdMacro => writeName ranName "ng_enB_macro_" plmnId enbId.choice
        | .enbIdShortMacro => writeName ranName "ng_enB_shortmacro_" plmnId enbId.choice
        | .enbIdLongMacro => writeName ranName "ng_enB_longmacro_" plmnId enbId.choice
      -- no break: the eNB case reads the same memory, whose layout is the one of an eNB id
      buildEnbName ranName plmnId enbId.present.asEnbIdPr enbId.choice
  | .eNB plmnIdentity enbId =>
      buildEnbName ranName plmnIdentity enbId.present enbId.choice
  | .nothing => (-1, ranName)

def mcc (data : PlmnIdentity) : List Nat :=
  [low data[0], high data[0], low data[1]]

/-- The digits of the MNC: 15 in the place of the third one is a filler. -/
def mnc (data : PlmnIdentity) : List Nat :=
  if high data[1] ≠ 15 then
    [low data[2], high data[2], high data[1]]
  else
    [low data[2], high data[2]]

def mccText (data : PlmnIdentity) : List Char :=
  decimal (low data[0]) ++ decimal (high data[0]) ++ decimal (low data[1])

/-- The MNC: an MNC of two digits is filled up with a zero in front. -/
def mncText (data : PlmnIdentity) : List Char :=
  if high data[1] ≠ 15 then
    decimal (low data[2]) ++ decimal (high data[2]) ++ decimal (high data[1])
  else
    '0' :: (decimal (low data[2]) ++ decimal (high data[2]))

def plmnText (type : String) (data : PlmnIdentity) : List Char :=
  type.toList ++ mccText data ++ '_' :: mncText data

def hexText (octets : List UInt8) : List Char :=
  octets.flatMap fun octet => hexadecimal (high octet) ++ hexadecimal (low octet)

theorem low_eq (octet : UInt8) : low octet = octet.toNat % 16 := by
  simpa [low] using Nat.and_two_pow_sub_one_eq_mod octet.toNat 4

theorem high_eq (octet : UInt8) : high octet = octet.toNat / 16 := by
  have bound : octet.toNat / 16 < 2 ^ 4 := by
    have := octet.toNat_lt
    omega
  calc
    high octet = (octet.toNat &&& 0xF0) >>> 4 := by
      simp only [high, UInt8.toNat_shiftRight, UInt8.toNat_and]
      rfl
    _ = (octet.toNat >>> 4) &&& (2 ^ 4 - 1) := by
      rw [Nat.shiftRight_and_distrib]
      rfl
    _ = octet.toNat / 16 := by
      rw [Nat.and_two_pow_sub_one_eq_mod, Nat.shiftRight_eq_div_pow, Nat.mod_eq_of_lt bound]

theorem low_lt (octet : UInt8) : low octet < 16 := by
  rw [low_eq]
  omega

theorem high_lt (octet : UInt8) : high octet < 16 := by
  have bound := octet.toNat_lt
  rw [high_eq]
  omega

theorem octet_eq {first second : UInt8} (lows : low first = low second)
    (highs : high first = high second) : first = second := by
  rw [low_eq, low_eq] at lows
  rw [high_eq, high_eq] at highs
  apply UInt8.toNat_inj.mp
  omega

theorem hexadecimal_eq {value : Nat} (nibble : value < 16) :
    hexadecimal value = [value.digitChar] :=
  Nat.toDigits_of_lt_base nibble

theorem decimal_length {value : Nat} (nibble : value < 16) :
    (decimal value).length = if value < 10 then 1 else 2 := by
  interval_cases value <;> rfl

theorem mem_decimal {value : Nat} {char : Char} (member : char ∈ decimal value) :
    char.isDigit = true :=
  Nat.isDigit_of_mem_toDigits (by decide) (by decide) member

theorem plain_decimal (value : Nat) : Plain (decimal value) := by
  rintro char member rfl
  exact absurd (mem_decimal member) (by decide)

theorem plain_hexadecimal {value : Nat} (nibble : value < 16) :
    Plain (hexadecimal value) := by
  intro char member
  rw [hexadecimal_eq nibble, List.mem_singleton] at member
  subst member
  interval_cases value <;> decide

theorem plain_mccText (data : PlmnIdentity) : Plain (mccText data) :=
  ((plain_decimal _).append (plain_decimal _)).append (plain_decimal _)

theorem plain_mncText (data : PlmnIdentity) : Plain (mncText data) := by
  have digits := (plain_decimal (low data[2])).append (plain_decimal (high data[2]))
  rw [mncText]
  split
  · exact digits.append (plain_decimal _)
  · have zero : Plain ['0'] := by decide
    exact zero.append digits

theorem plain_plmnText {type : String} (plain : Plain type.toList) (data : PlmnIdentity) :
    Plain (plmnText type data) := by
  have underscore : Plain ['_'] := by decide
  exact (plain.append (plain_mccText data)).append (underscore.append (plain_mncText data))

theorem plain_hexText (octets : List UInt8) : Plain (hexText octets) := by
  intro char member
  rcases List.mem_flatMap.mp member with ⟨octet, -, digit⟩
  exact (plain_hexadecimal (high_lt octet)).append (plain_hexadecimal (low_lt octet)) char digit

theorem hexText_length (octets : List UInt8) : (hexText octets).length = 2 * octets.length := by
  induction octets with
  | nil => rfl
  | cons octet rest ih =>
      have pair : (hexText (octet :: rest)).length = 2 + (hexText rest).length := by
        simp [hexText, hexadecimal_eq (high_lt octet), hexadecimal_eq (low_lt octet)]
        omega
      rw [pair, ih, List.length_cons]
      omega

/-! What the two translations leave in an array that is zero behind its text. -/

theorem translatePlmnId_eq (ranName : List Char) (data : PlmnIdentity) (type : String) :
    (translatePlmnId ranName data type).1 = snprintf ranName 20 (plmnText type data) := by
  simp only [translatePlmnId, plmnText, mccText, mncText]
  split <;> simp

theorem translatePlmnId_zeroed (data : PlmnIdentity) (type : String) :
    (translatePlmnId (zeroed MAX_ENODB_NAME_SIZE) data type).1 =
      padded MAX_ENODB_NAME_SIZE ((plmnText type data).take 19) := by
  rw [translatePlmnId_eq, snprintf_zeroed (by decide) (by decide)]

theorem printed_whole {printed : List Char} (short : printed.length ≤ 255) :
    (snprintf (zeroed 256) 256 printed).take printed.length = printed := by
  have fits : printed.take 255 = printed := List.take_of_length_le short
  rw [snprintf_zeroed (by decide) (by decide), fits, padded, List.take_left]

theorem printBehind_padded {size : Nat} {name text : List Char} (small : size ≤ 255)
    (plain : Plain name) (room : name.length + text.length ≤ size) :
    (printBehind (padded size name) text).1 = padded size (name ++ text) := by
  rw [← List.length_append] at room
  simp only [printBehind, string_padded plain, printed_whole (room.trans small)]
  exact memcpy_padded (by simp) room

/-- The underscore takes the place of the NUL: what an earlier name has behind it comes
back. -/
theorem printBehind_snprintf {size limit : Nat} {name text : List Char} (small : size ≤ 255)
    (plain : Plain text) (room : limit < size) (nameRoom : name.length ≤ size) :
    let cut := text.take (limit - 1)
    (printBehind (snprintf (padded size name) limit text) ['_']).1 =
      padded size (cut ++ '_' :: name.drop (cut.length + 1)) := by
  intro cut
  have short : cut.length ≤ limit - 1 := List.length_take_le _ _
  have plainCut : Plain cut := plain.take _
  obtain ⟨rest, restIs⟩ : ∃ rest, rest = (padded size name).drop (cut.length + 1) := ⟨_, rfl⟩
  have memory : snprintf (padded size name) limit text = cut ++ NUL :: rest := by
    rw [restIs, snprintf, memcpy]
    simp [cut]
  have read : string (cut ++ NUL :: rest) = cut :=
    string_of_holds plainCut ⟨rest, by simp⟩
  have printed : (snprintf (zeroed 256) 256 (cut ++ ['_'])).take (cut ++ ['_']).length =
      cut ++ ['_'] := by
    apply printed_whole
    rw [List.length_append, List.length_singleton]
    omega
  have behind : rest = name.drop (cut.length + 1) ++
      zeroed (size - (cut ++ '_' :: name.drop (cut.length + 1)).length) := by
    rw [restIs, padded, List.drop_append, zeroed, List.drop_replicate, zeroed]
    congr 2
    simp
    omega
  have replaced : memcpy (cut ++ NUL :: rest) (cut ++ ['_']) = cut ++ '_' :: rest := by
    simp [memcpy]
  rw [memory]
  simp only [printBehind, read, printed, replaced]
  rw [behind, padded]
  simp

theorem printOctets_padded {size : Nat} (small : size ≤ 255) (octets : List UInt8)
    (name : List Char) (count : Nat) (plain : Plain name)
    (room : name.length + 2 * octets.length ≤ size) :
    (octets.foldl
      (fun state octet =>
        printBehind (printBehind state.1 (hexadecimal (high octet))).1
          (hexadecimal (low octet)))
      (padded size name, count)).1 = padded size (name ++ hexText octets) := by
  induction octets generalizing name count with
  | nil => simp [hexText]
  | cons octet rest ih =>
      have highDigit := hexadecimal_eq (high_lt octet)
      have lowDigit := hexadecimal_eq (low_lt octet)
      have plainHigh := plain.append (plain_hexadecimal (high_lt octet))
      have plainBoth := plainHigh.append (plain_hexadecimal (low_lt octet))
      rw [List.length_cons] at room
      have first : (printBehind (padded size name) (hexadecimal (high octet))).1 =
          padded size (name ++ hexadecimal (high octet)) :=
        printBehind_padded small plain (by simp [highDigit]; omega)
      have second : (printBehind (padded size (name ++ hexadecimal (high octet)))
          (hexadecimal (low octet))).1 =
          padded size (name ++ hexadecimal (high octet) ++ hexadecimal (low octet)) :=
        printBehind_padded small plainHigh (by simp [highDigit, lowDigit]; omega)
      rw [List.foldl_cons, first]
      have state : printBehind (padded size (name ++ hexadecimal (high octet)))
          (hexadecimal (low octet)) =
          (padded size (name ++ hexadecimal (high octet) ++ hexadecimal (low octet)),
            (printBehind (padded size (name ++ hexadecimal (high octet)))
              (hexadecimal (low octet))).2) := Prod.ext second rfl
      rw [state, ih _ _ plainBoth (by simp [highDigit, lowDigit]; omega)]
      simp [hexText]

theorem translateBitStringToChar_padded {size : Nat} {name : List Char} {data : BitString}
    (small : size ≤ 255) (plain : Plain name)
    (room : name.length + 1 + 2 * data.buf.length ≤ size) :
    (translateBitStringToChar (padded size name) data).1 =
      padded size (name ++ '_' :: hexText data.buf) := by
  have behind : printBehind (padded size name) ['_'] =
      (padded size (name ++ ['_']), (printBehind (padded size name) ['_']).2) :=
    Prod.ext (printBehind_padded small plain (by simp; omega)) rfl
  have plainBehind : Plain (name ++ ['_']) := plain.append (by decide)
  rw [translateBitStringToChar, behind,
    printOctets_padded small data.buf _ _ plainBehind (by simp; omega)]
  simp

def NodeId.inner {Tag : Type} {size : Tag → Option (Nat × Nat)} (nodeId : NodeId size) :
    Option BitString :=
  if (size nodeId.present).isSome then some nodeId.choice else none

def GlobalE2nodeId.innerId : GlobalE2nodeId → Option BitString
  | .nothing => none
  | .gNB _ gnbId => gnbId.inner
  | .enGNB _ gnbId => gnbId.inner
  | .ngENB _ enbId => enbId.inner
  | .eNB _ enbId => enbId.inner

def GlobalE2nodeId.text : GlobalE2nodeId → List Char
  | .nothing => []
  | .gNB plmnId _ => plmnText "gnb_" plmnId
  | .enGNB plmnIdentity _ => plmnText "en_gnb_" plmnIdentity
  | .ngENB plmnId enbId =>
      match enbId.present with
      | .nothing => []
      | .enbIdMacro => plmnText "ng_enB_macro_" plmnId
      | .enbIdShortMacro => plmnText "ng_enB_shortmacro_" plmnId
      | .enbIdLongMacro => plmnText "ng_enB_longmacro_" plmnId
  | .eNB plmnIdentity enbId =>
      match enbId.present with
      | .nothing => []
      | .macroEnbId => plmnText "enB_macro_" plmnIdentity
      | .homeEnbId => plmnText "enB_home_" plmnIdentity
      | .shortMacroEnbId => plmnText "enB_shortmacro_" plmnIdentity
      | .longMacroEnbId => plmnText "enB_longmacro_" plmnIdentity

/-- `buildRanName` accepts the node and leaves its complete name in a zeroed array. -/
def Named (node : GlobalE2nodeId) (nodeId : BitString) : Prop :=
  (buildRanName (zeroed MAX_ENODB_NAME_SIZE) node).1 = 0 ∧
    Holds (buildRanName (zeroed MAX_ENODB_NAME_SIZE) node).2
      (node.text ++ '_' :: hexText nodeId.buf)

def AllWide (data : PlmnIdentity) : Prop :=
  10 ≤ low data[0] ∧ 10 ≤ high data[0] ∧ 10 ≤ low data[1] ∧
    10 ≤ low data[2] ∧ 10 ≤ high data[2] ∧ 10 ≤ high data[1] ∧ high data[1] ≠ 15

def Nameable : GlobalE2nodeId → Prop
  | .gNB _ _ => True
  | .enGNB plmnIdentity _ => ¬ AllWide plmnIdentity
  | _ => False

theorem NodeId.inner_eq_some {Tag : Type} {size : Tag → Option (Nat × Nat)}
    {nodeId : NodeId size} {data : BitString} :
    nodeId.inner = some data ↔ (size nodeId.present).isSome ∧ nodeId.choice = data := by
  rw [NodeId.inner]
  split <;> simp_all

theorem NodeId.inner_octets {Tag : Type} {size : Tag → Option (Nat × Nat)}
    (atMost : ∀ tag range, size tag = some range → range.2 ≤ 32) {nodeId : NodeId size}
    {data : BitString} (present : nodeId.inner = some data) : data.buf.length ≤ 4 := by
  rcases NodeId.inner_eq_some.mp present with ⟨isPresent, choice⟩
  rcases Option.isSome_iff_exists.mp isPresent with ⟨range, sizeIs⟩
  have sized := nodeId.sized range sizeIs
  have bound := atMost nodeId.present range sizeIs
  rw [choice, BitString.bits] at sized
  omega

theorem GnbIdPr.size_le (tag : GnbIdPr) (range : Nat × Nat) (is : tag.size = some range) :
    range.2 ≤ 32 := by
  cases tag <;> cases is
  decide

theorem EngnbIdPr.size_le (tag : EngnbIdPr) (range : Nat × Nat) (is : tag.size = some range) :
    range.2 ≤ 32 := by
  cases tag <;> cases is
  decide

theorem decimal_width {value : Nat} (nibble : value < 16) :
    (decimal value).length ≤ 2 ∧ ((decimal value).length = 2 ↔ 10 ≤ value) := by
  rw [decimal_length nibble]
  split <;> omega

theorem mccText_width (data : PlmnIdentity) :
    (mccText data).length ≤ 6 ∧ ((mccText data).length = 6 ↔
      10 ≤ low data[0] ∧ 10 ≤ high data[0] ∧ 10 ≤ low data[1]) := by
  have mcc1 := decimal_width (low_lt data[0])
  have mcc2 := decimal_width (high_lt data[0])
  have mcc3 := decimal_width (low_lt data[1])
  simp only [mccText, List.length_append]
  omega

theorem mncText_width (data : PlmnIdentity) :
    (mncText data).length ≤ 6 ∧ ((mncText data).length = 6 ↔
      10 ≤ low data[2] ∧ 10 ≤ high data[2] ∧ 10 ≤ high data[1] ∧ high data[1] ≠ 15) := by
  have mnc1 := decimal_width (low_lt data[2])
  have mnc2 := decimal_width (high_lt data[2])
  have mnc3 := decimal_width (high_lt data[1])
  by_cases filled : high data[1] ≠ 15
  · simp only [mncText, if_pos filled, List.length_append]
    omega
  · -- the zero in front is one character, so five is the most
    simp only [mncText, if_neg filled, List.length_cons, List.length_append]
    omega

theorem plmnText_length (type : String) (data : PlmnIdentity) :
    (plmnText type data).length =
      type.toList.length + (mccText data).length + ((mncText data).length + 1) := by
  rw [plmnText, List.length_append, List.length_append, List.length_cons]

theorem plmnText_length_le (type : String) (data : PlmnIdentity) :
    (plmnText type data).length ≤ type.toList.length + 13 := by
  have mcc := (mccText_width data).1
  have mnc := (mncText_width data).1
  rw [plmnText_length]
  omega

theorem plmnText_length_eq_iff (type : String) (data : PlmnIdentity) :
    (plmnText type data).length = type.toList.length + 13 ↔ AllWide data := by
  have ⟨mcc, mccWide⟩ := mccText_width data
  have ⟨mnc, mncWide⟩ := mncText_width data
  calc
    (plmnText type data).length = type.toList.length + 13 ↔
        (mccText data).length = 6 ∧ (mncText data).length = 6 := by
      rw [plmnText_length]
      omega
    _ ↔ AllWide data := by
      rw [mccWide, mncWide, AllWide, and_assoc, and_assoc]

def idText : Option (List UInt8) → List Char
  | none => []
  | some octets => '_' :: hexText octets

/-- The name of a gNB: the 19 characters that fit of the PLMN part, then the id. -/
def writtenName (type : String) (data : PlmnIdentity) (octets : Option (List UInt8)) :
    List Char :=
  (plmnText type data).take 19 ++ idText octets

theorem plain_idText (octets : Option (List UInt8)) : Plain (idText octets) := by
  cases octets with
  | none =>
      intro char member
      cases member
  | some octets =>
      have underscore : Plain ['_'] := by decide
      exact underscore.append (plain_hexText octets)

theorem written_gnb {Tag : Type} {size : Tag → Option (Nat × Nat)}
    (atMost : ∀ tag range, size tag = some range → range.2 ≤ 32) (nodeId : NodeId size)
    {type : String} (plain : Plain type.toList) (data : PlmnIdentity) :
    let ranName := (translatePlmnId (zeroed MAX_ENODB_NAME_SIZE) data type).1
    (if (size nodeId.present).isSome then (translateBitStringToChar ranName nodeId.choice).1
      else ranName) =
      padded MAX_ENODB_NAME_SIZE (writtenName type data (nodeId.inner.map BitString.buf)) := by
  intro ranName
  have array : ranName = padded MAX_ENODB_NAME_SIZE ((plmnText type data).take 19) :=
    translatePlmnId_zeroed data type
  rw [array]
  split
  · rename_i isPresent
    have inner : nodeId.inner = some nodeId.choice := NodeId.inner_eq_some.mpr ⟨isPresent, rfl⟩
    have octets := NodeId.inner_octets atMost inner
    have short : ((plmnText type data).take 19).length ≤ 19 := List.length_take_le _ _
    rw [inner]
    apply translateBitStringToChar_padded (by decide) ((plain_plmnText plain data).take 19)
    rw [MAX_ENODB_NAME_SIZE]
    omega
  · rename_i isAbsent
    have inner : nodeId.inner = none := by rw [NodeId.inner, if_neg isAbsent]
    simp [inner, writtenName, idText]

theorem buildRanName_gNB (plmnId : PlmnIdentity) (gnbId : NodeId GnbIdPr.size) :
    buildRanName (zeroed MAX_ENODB_NAME_SIZE) (.gNB plmnId gnbId) =
      (0, padded MAX_ENODB_NAME_SIZE
        (writtenName "gnb_" plmnId (gnbId.inner.map BitString.buf))) := by
  have plain : Plain "gnb_".toList := by decide
  rw [← written_gnb GnbIdPr.size_le gnbId plain]
  cases is : gnbId.present <;> simp [buildRanName, is, GnbIdPr.size]

theorem buildRanName_enGNB (plmnIdentity : PlmnIdentity) (gnbId : NodeId EngnbIdPr.size) :
    buildRanName (zeroed MAX_ENODB_NAME_SIZE) (.enGNB plmnIdentity gnbId) =
      (0, padded MAX_ENODB_NAME_SIZE
        (writtenName "en_gnb_" plmnIdentity (gnbId.inner.map BitString.buf))) := by
  have plain : Plain "en_gnb_".toList := by decide
  rw [← written_gnb EngnbIdPr.size_le gnbId plain]
  cases is : gnbId.present <;> simp [buildRanName, is, EngnbIdPr.size]

/-- A name written in the array is the complete one exactly if nothing was cut. -/
theorem holds_written_iff {text : List Char} {octets : List UInt8} (plain : Plain text)
    (room : text.length + 1 + 2 * octets.length < MAX_ENODB_NAME_SIZE) :
    Holds (padded MAX_ENODB_NAME_SIZE (text.take 19 ++ '_' :: hexText octets))
      (text ++ '_' :: hexText octets) ↔ text.length ≤ 19 := by
  have underscore : Plain ['_'] := by decide
  have plainId : Plain ('_' :: hexText octets) := underscore.append (plain_hexText octets)
  constructor
  · intro holds
    have complete := string_of_holds (plain.append plainId) holds
    rw [string_padded ((plain.take 19).append plainId)] at complete
    have lengths := congrArg List.length complete
    simp only [List.length_append, List.length_take] at lengths
    omega
  · intro short
    rw [List.take_of_length_le short]
    apply holds_padded
    rw [List.length_append, List.length_cons, hexText_length]
    omega

theorem buildEnbName_rejects (ranName : List Char) (plmnIdentity : PlmnIdentity)
    (present : EnbIdPr) (choice : BitString) :
    (buildEnbName ranName plmnIdentity present choice).1 = -1 := by
  cases present <;> rfl

/-- The array holds a text of at most `bound` characters and is zero behind it. -/
def Written (memory : List Char) (bound : Nat) : Prop :=
  ∃ name, Plain name ∧ name.length ≤ bound ∧ memory = padded MAX_ENODB_NAME_SIZE name

theorem Written.mono {memory : List Char} {bound larger : Nat} (written : Written memory bound)
    (le : bound ≤ larger) : Written memory larger := by
  rcases written with ⟨name, plain, length, array⟩
  exact ⟨name, plain, length.trans le, array⟩

theorem written_zeroed (bound : Nat) : Written (zeroed MAX_ENODB_NAME_SIZE) bound := by
  have plain : Plain [] := by decide
  exact ⟨[], plain, Nat.zero_le _, (padded_nil _).symm⟩

theorem written_string {memory : List Char} {bound : Nat} (written : Written memory bound) :
    memory = padded MAX_ENODB_NAME_SIZE (string memory) ∧ Plain (string memory) ∧
      (string memory).length ≤ bound := by
  rcases written with ⟨name, plain, length, rfl⟩
  rw [string_padded plain]
  exact ⟨rfl, plain, length⟩

/-- A name written over a text: what the text has behind the PLMN part stays before the id. -/
def overwritten (name : List Char) (type : String) (plmnId : PlmnIdentity) (octets : List UInt8) :
    List Char :=
  let cut := (plmnText type plmnId).take 19
  cut ++ '_' :: name.drop (cut.length + 1) ++ hexText octets

theorem plain_cut {name : List Char} (plainName : Plain name) {type : String}
    (plain : Plain type.toList) (plmnId : PlmnIdentity) :
    let cut := (plmnText type plmnId).take 19
    Plain (cut ++ '_' :: name.drop (cut.length + 1)) := by
  intro cut
  have underscore : Plain ['_'] := by decide
  have rest : Plain (name.drop (cut.length + 1)) :=
    fun char member => plainName char (List.mem_of_mem_drop member)
  exact ((plain_plmnText plain plmnId).take 19).append (underscore.append rest)

theorem plain_overwritten {name : List Char} (plainName : Plain name) {type : String}
    (plain : Plain type.toList) (plmnId : PlmnIdentity) (octets : List UInt8) :
    Plain (overwritten name type plmnId octets) :=
  (plain_cut plainName plain plmnId).append (plain_hexText octets)

theorem overwritten_length_le {name : List Char} {bound : Nat} (length : name.length ≤ bound)
    (atLeast : 20 ≤ bound) (type : String) (plmnId : PlmnIdentity) (octets : List UInt8) :
    (overwritten name type plmnId octets).length ≤ bound + 2 * octets.length := by
  have cut : ((plmnText type plmnId).take 19).length ≤ 19 := List.length_take_le _ _
  simp only [overwritten, List.length_append, List.length_cons, List.length_drop,
    hexText_length]
  omega

theorem writeName_padded {name : List Char} (plainName : Plain name) {type : String}
    (plain : Plain type.toList) (plmnId : PlmnIdentity) {data : BitString}
    (within : name.length ≤ MAX_ENODB_NAME_SIZE)
    (room : (overwritten name type plmnId data.buf).length ≤ MAX_ENODB_NAME_SIZE) :
    writeName (padded MAX_ENODB_NAME_SIZE name) type plmnId data =
      padded MAX_ENODB_NAME_SIZE (overwritten name type plmnId data.buf) := by
  have first := printBehind_snprintf (by decide : MAX_ENODB_NAME_SIZE ≤ 255)
    (plain_plmnText plain plmnId) (by decide : 20 < MAX_ENODB_NAME_SIZE) within
  rw [overwritten, List.length_append, hexText_length] at room
  rw [writeName, translatePlmnId_eq, translateBitStringToChar]
  cases printed : printBehind (snprintf (padded MAX_ENODB_NAME_SIZE name) 20
      (plmnText type plmnId)) ['_'] with
  | mk text count =>
      rw [printed] at first
      have written : text = padded MAX_ENODB_NAME_SIZE _ := first
      rw [written]
      exact printOctets_padded (by decide) _ _ count (plain_cut plainName plain plmnId) room

theorem writeName_written {memory : List Char} {bound : Nat} (written : Written memory bound)
    {type : String} (plain : Plain type.toList) (plmnId : PlmnIdentity) {data : BitString}
    (octets : data.buf.length ≤ 4) (atLeast : 20 ≤ bound) (room : bound + 8 < 64) :
    Written (writeName memory type plmnId data) (bound + 8) := by
  rcases written with ⟨name, plainName, length, rfl⟩
  have longest := overwritten_length_le length atLeast type plmnId data.buf
  have size : MAX_ENODB_NAME_SIZE = 64 := rfl
  refine ⟨overwritten name type plmnId data.buf, plain_overwritten plainName plain plmnId _, ?_, ?_⟩
  · omega
  · exact writeName_padded plainName plain plmnId (by omega) (by omega)

theorem writtenName_length_le (type : String) (data : PlmnIdentity)
    {octets : Option (List UInt8)} (few : ∀ id ∈ octets, id.length ≤ 4) :
    (writtenName type data octets).length ≤ 28 := by
  have cut : ((plmnText type data).take 19).length ≤ 19 := List.length_take_le _ _
  rw [writtenName, List.length_append]
  cases octets with
  | none =>
      simp only [idText, List.length_nil]
      omega
  | some id =>
      have bound := few id rfl
      simp only [idText, List.length_cons, hexText_length]
      omega

theorem EnbIdChoicePr.size_le (tag : EnbIdChoicePr) (range : Nat × Nat)
    (is : tag.size = some range) : range.2 ≤ 32 := by
  cases tag <;> cases is <;> decide

theorem EnbIdPr.size_le (tag : EnbIdPr) (range : Nat × Nat) (is : tag.size = some range) :
    range.2 ≤ 32 := by
  cases tag <;> cases is <;> decide

theorem NodeId.inner_buf_le {Tag : Type} {size : Tag → Option (Nat × Nat)}
    (atMost : ∀ tag range, size tag = some range → range.2 ≤ 32) (nodeId : NodeId size) :
    ∀ octets ∈ nodeId.inner.map BitString.buf, octets.length ≤ 4 := by
  intro octets member
  rcases Option.mem_map.mp member with ⟨data, inner, rfl⟩
  exact NodeId.inner_octets atMost inner

theorem buildEnbName_written {memory : List Char} {bound : Nat} (written : Written memory bound)
    (plmnIdentity : PlmnIdentity) {present : EnbIdPr} {choice : BitString}
    (octets : present ≠ .nothing → choice.buf.length ≤ 4) (atLeast : 20 ≤ bound)
    (room : bound + 8 < 64) :
    Written (buildEnbName memory plmnIdentity present choice).2 (bound + 8) := by
  cases present with
  | nothing => exact written.mono (by omega)
  | macroEnbId =>
      exact writeName_written written (by decide) plmnIdentity (octets (by decide)) atLeast room
  | homeEnbId =>
      exact writeName_written written (by decide) plmnIdentity (octets (by decide)) atLeast room
  | shortMacroEnbId =>
      exact writeName_written written (by decide) plmnIdentity (octets (by decide)) atLeast room
  | longMacroEnbId =>
      exact writeName_written written (by decide) plmnIdentity (octets (by decide)) atLeast room

/-- Whatever the result, the array is left with a text that fits and is zero behind it. -/
theorem buildRanName_written (node : GlobalE2nodeId) :
    Written (buildRanName (zeroed MAX_ENODB_NAME_SIZE) node).2 36 := by
  cases node with
  | nothing => exact written_zeroed 36
  | gNB plmnId gnbId =>
      have few := NodeId.inner_buf_le GnbIdPr.size_le gnbId
      have plain : Plain "gnb_".toList := by decide
      rw [buildRanName_gNB]
      exact ⟨_, ((plain_plmnText plain plmnId).take 19).append (plain_idText _),
        (writtenName_length_le _ _ few).trans (by decide), rfl⟩
  | enGNB plmnIdentity gnbId =>
      have few := NodeId.inner_buf_le EngnbIdPr.size_le gnbId
      have plain : Plain "en_gnb_".toList := by decide
      rw [buildRanName_enGNB]
      exact ⟨_, ((plain_plmnText plain plmnIdentity).take 19).append (plain_idText _),
        (writtenName_length_le _ _ few).trans (by decide), rfl⟩
  | ngENB plmnId enbId =>
      have isSome : enbId.present ≠ .nothing → enbId.present.size.isSome := by
        cases enbId.present <;> simp [EnbIdChoicePr.size]
      have octets : enbId.present ≠ .nothing → enbId.choice.buf.length ≤ 4 := fun isPresent =>
        NodeId.inner_octets EnbIdChoicePr.size_le
          (NodeId.inner_eq_some.mpr ⟨isSome isPresent, rfl⟩)
      have overlaid : enbId.present.asEnbIdPr ≠ .nothing → enbId.choice.buf.length ≤ 4 := by
        intro isPresent
        apply octets
        intro absent
        rw [absent] at isPresent
        exact isPresent rfl
      have zeros := written_zeroed 20
      have within : 20 ≤ 28 ∧ 28 + 8 < 64 := by decide
      apply buildEnbName_written _ plmnId overlaid within.1 within.2
      cases is : enbId.present with
      | nothing => exact written_zeroed 28
      | enbIdMacro =>
          exact writeName_written zeros (by decide) plmnId (octets (by simp [is])) (by decide)
            (by decide)
      | enbIdShortMacro =>
          exact writeName_written zeros (by decide) plmnId (octets (by simp [is])) (by decide)
            (by decide)
      | enbIdLongMacro =>
          exact writeName_written zeros (by decide) plmnId (octets (by simp [is])) (by decide)
            (by decide)
  | eNB plmnIdentity enbId =>
      have isSome : enbId.present ≠ .nothing → enbId.present.size.isSome := by
        cases enbId.present <;> simp [EnbIdPr.size]
      have octets : enbId.present ≠ .nothing → enbId.choice.buf.length ≤ 4 := fun isPresent =>
        NodeId.inner_octets EnbIdPr.size_le (NodeId.inner_eq_some.mpr ⟨isSome isPresent, rfl⟩)
      have written := buildEnbName_written (written_zeroed 20) plmnIdentity octets (by decide)
        (by decide)
      exact written.mono (by decide)

/-- Of the four kinds the two kinds of gNB are named, an en-gNB unless its PLMN needs two
characters for every digit; the cases of the eNBs end in the default case. -/
theorem named_iff_nameable (node : GlobalE2nodeId) (nodeId : BitString)
    (present : node.innerId = some nodeId) : Named node nodeId ↔ Nameable node := by
  cases node with
  | nothing => exact absurd present (by simp [GlobalE2nodeId.innerId])
  | gNB plmnId gnbId =>
      have octets := NodeId.inner_octets GnbIdPr.size_le present
      have short := plmnText_length_le "gnb_" plmnId
      have kind : "gnb_".toList.length = 4 := rfl
      have whole : (plmnText "gnb_" plmnId).length + 1 + 2 * nodeId.buf.length <
          MAX_ENODB_NAME_SIZE := by
        rw [MAX_ENODB_NAME_SIZE]
        omega
      have plain : Plain (plmnText "gnb_" plmnId) := plain_plmnText (by decide) plmnId
      have inner : gnbId.inner = some nodeId := present
      simp only [Named, Nameable, GlobalE2nodeId.text, buildRanName_gNB, inner, writtenName,
        idText, Option.map_some, true_and, holds_written_iff plain whole, iff_true]
      omega
  | enGNB plmnIdentity gnbId =>
      have octets := NodeId.inner_octets EngnbIdPr.size_le present
      have short := plmnText_length_le "en_gnb_" plmnIdentity
      have cut := plmnText_length_eq_iff "en_gnb_" plmnIdentity
      have kind : "en_gnb_".toList.length = 7 := rfl
      have whole : (plmnText "en_gnb_" plmnIdentity).length + 1 + 2 * nodeId.buf.length <
          MAX_ENODB_NAME_SIZE := by
        rw [MAX_ENODB_NAME_SIZE]
        omega
      have plain : Plain (plmnText "en_gnb_" plmnIdentity) :=
        plain_plmnText (by decide) plmnIdentity
      have inner : gnbId.inner = some nodeId := present
      simp only [Named, Nameable, GlobalE2nodeId.text, buildRanName_enGNB, inner, writtenName,
        idText, Option.map_some, true_and, holds_written_iff plain whole, ← cut]
      omega
  | ngENB plmnId enbId =>
      simp [Named, Nameable, buildRanName, buildEnbName_rejects]
  | eNB plmnIdentity enbId =>
      simp [Named, Nameable, buildRanName, buildEnbName_rejects]

def plmnExample : PlmnIdentity := #v[0x13, 0x00, 0x14]

def gnbExample : NodeId GnbIdPr.size where
  present := .gnbId
  choice := ⟨[0xB5, 0xC6, 0x77, 0x88], 3⟩
  sized := by decide

theorem gnb_example_named : Named (.gNB plmnExample gnbExample) gnbExample.choice :=
  (named_iff_nameable (.gNB plmnExample gnbExample) gnbExample.choice rfl).mpr trivial

def enbExample : NodeId EnbIdPr.size where
  present := .macroEnbId
  choice := ⟨[0xB5, 0xC6, 0x70], 4⟩
  sized := by decide

/-- A macro eNB is rejected although its name has been written. -/
theorem macro_enb_not_named :
    ¬ ∀ node nodeId, GlobalE2nodeId.innerId node = some nodeId → Named node nodeId := by
  intro claim
  have named := claim (.eNB plmnExample enbExample) enbExample.choice rfl
  exact absurd named.1 (by decide)

end NearRtRic.E2T
