import Mathlib.Tactic
import NearRtRic.E2T.RanName

/-! Which nodes that `buildRanName` accepts share a name. -/

namespace NearRtRic.E2T

open Buffer

inductive NodeKind where
  | gNB
  | enGNB
  | ngENB
  | eNB
  deriving DecidableEq, Repr

def GlobalE2nodeId.kind : GlobalE2nodeId → Option NodeKind
  | .nothing => none
  | .gNB _ _ => some .gNB
  | .enGNB _ _ => some .enGNB
  | .ngENB _ _ => some .ngENB
  | .eNB _ _ => some .eNB

def GlobalE2nodeId.plmn : GlobalE2nodeId → Option PlmnIdentity
  | .nothing => none
  | .gNB plmnId _ => some plmnId
  | .enGNB plmnIdentity _ => some plmnIdentity
  | .ngENB plmnId _ => some plmnId
  | .eNB plmnIdentity _ => some plmnIdentity

def GlobalE2nodeId.octets (node : GlobalE2nodeId) : Option (List UInt8) :=
  node.innerId.map BitString.buf

def threeDigits (digits : List Nat) : List Nat :=
  if digits.length = 2 then 0 :: digits else digits

/-- The octets denote an MCC and an MNC: every digit is a decimal one. -/
def Denotes (data : PlmnIdentity) : Prop :=
  ∀ digit ∈ mcc data ++ mnc data, digit < 10

instance (data : PlmnIdentity) : Decidable (Denotes data) :=
  inferInstanceAs (Decidable (∀ digit ∈ mcc data ++ mnc data, digit < 10))

def ranName (node : GlobalE2nodeId) : List Char :=
  string (buildRanName (zeroed MAX_ENODB_NAME_SIZE) node).2

def Accepted (node : GlobalE2nodeId) : Prop :=
  (buildRanName (zeroed MAX_ENODB_NAME_SIZE) node).1 = 0

instance (node : GlobalE2nodeId) : Decidable (Accepted node) :=
  inferInstanceAs (Decidable (_ = (0 : Int)))

theorem digitChar_inj {first second : Nat} (smallFirst : first < 16) (smallSecond : second < 16)
    (equal : first.digitChar = second.digitChar) : first = second := by
  have table : ∀ first < 16, ∀ second < 16,
      first.digitChar = second.digitChar → first = second := by decide
  exact table first smallFirst second smallSecond equal

theorem hexText_inj {first second : List UInt8} (equal : hexText first = hexText second) :
    first = second := by
  induction first generalizing second with
  | nil =>
      cases second with
      | nil => rfl
      | cons octet rest =>
          have lengths := congrArg List.length equal
          simp [hexText_length] at lengths
  | cons octet rest ih =>
      cases second with
      | nil =>
          have lengths := congrArg List.length equal
          simp [hexText_length] at lengths
      | cons other others =>
          have digits : (high octet).digitChar :: (low octet).digitChar :: hexText rest =
              (high other).digitChar :: (low other).digitChar :: hexText others := by
            simpa [hexText, hexadecimal_eq (high_lt _), hexadecimal_eq (low_lt _)] using equal
          simp only [List.cons.injEq] at digits
          rcases digits with ⟨highs, lows, tails⟩
          have same := octet_eq (digitChar_inj (low_lt _) (low_lt _) lows)
            (digitChar_inj (high_lt _) (high_lt _) highs)
          rw [same, ih tails]

theorem decimal_digit {value : Nat} (digit : value < 10) : decimal value = [value.digitChar] :=
  Nat.toDigits_of_lt_base digit

theorem mccText_eq {data : PlmnIdentity} (denotes : Denotes data) :
    mccText data = (mcc data).map Nat.digitChar := by
  simp only [Denotes, mcc, List.cons_append, List.forall_mem_cons] at denotes
  simp [mccText, mcc, decimal_digit denotes.1, decimal_digit denotes.2.1,
    decimal_digit denotes.2.2.1]

theorem mncText_eq {data : PlmnIdentity} (denotes : Denotes data) :
    mncText data = (threeDigits (mnc data)).map Nat.digitChar := by
  simp only [Denotes, mcc, mnc, List.cons_append, List.forall_mem_cons, List.nil_append]
    at denotes
  by_cases filler : high data[1] = 15
  · simp only [filler, ne_eq, not_true_eq_false, if_false, List.forall_mem_cons] at denotes
    simp [mncText, mnc, threeDigits, filler, decimal_digit denotes.2.2.2.1,
      decimal_digit denotes.2.2.2.2.1]
  · simp only [filler, ne_eq, not_false_eq_true, if_true, List.forall_mem_cons] at denotes
    simp [mncText, mnc, threeDigits, filler, decimal_digit denotes.2.2.2.1,
      decimal_digit denotes.2.2.2.2.1, decimal_digit denotes.2.2.2.2.2.1]

theorem map_digitChar_inj {first second : List Nat} (smallFirst : ∀ digit ∈ first, digit < 16)
    (smallSecond : ∀ digit ∈ second, digit < 16)
    (equal : first.map Nat.digitChar = second.map Nat.digitChar) : first = second := by
  induction first generalizing second with
  | nil => simpa using equal.symm
  | cons digit rest ih =>
      cases second with
      | nil => simp at equal
      | cons other others =>
          simp only [List.map_cons, List.cons.injEq] at equal
          simp only [List.forall_mem_cons] at smallFirst smallSecond
          rw [digitChar_inj smallFirst.1 smallSecond.1 equal.1,
            ih smallFirst.2 smallSecond.2 equal.2]

def kindText : NodeKind → String
  | .gNB => "gnb_"
  | .enGNB => "en_gnb_"
  | .ngENB => "ng_enB_"
  | .eNB => "enB_"

theorem string_writtenName {type : String} (plain : Plain type.toList) (data : PlmnIdentity)
    (octets : Option (List UInt8)) :
    string (padded MAX_ENODB_NAME_SIZE (writtenName type data octets)) =
      writtenName type data octets :=
  string_padded (((plain_plmnText plain data).take 19).append (plain_idText octets))

/-- Only the two kinds of gNB are accepted, with or without a node id. -/
theorem accepted_written {node : GlobalE2nodeId} (accepted : Accepted node) :
    ∃ kind data, (kind = .gNB ∨ kind = .enGNB) ∧ node.kind = some kind ∧
      node.plmn = some data ∧ ranName node = writtenName (kindText kind) data node.octets := by
  cases node with
  | nothing => exact absurd accepted (by simp [Accepted, buildRanName])
  | gNB plmnId gnbId =>
      refine ⟨.gNB, plmnId, .inl rfl, rfl, rfl, ?_⟩
      rw [ranName, buildRanName_gNB]
      exact string_writtenName (by decide) plmnId _
  | enGNB plmnIdentity gnbId =>
      refine ⟨.enGNB, plmnIdentity, .inr rfl, rfl, rfl, ?_⟩
      rw [ranName, buildRanName_enGNB]
      exact string_writtenName (by decide) plmnIdentity _
  | ngENB plmnId enbId =>
      exact absurd accepted (by simp [Accepted, buildRanName, buildEnbName_rejects])
  | eNB plmnIdentity enbId =>
      exact absurd accepted (by simp [Accepted, buildRanName, buildEnbName_rejects])

theorem underscore_not_mem_mccText (data : PlmnIdentity) : '_' ∉ mccText data := by
  simp [mccText, decimal]

theorem underscore_not_mem_mncText (data : PlmnIdentity) : '_' ∉ mncText data := by
  rw [mncText]
  split <;> simp [decimal]

/-- The MNC and what follows it are told apart by the underscore between them. -/
theorem idText_split {first second : List Char} {idFirst idSecond : Option (List UInt8)}
    (plainFirst : '_' ∉ first) (plainSecond : '_' ∉ second)
    (equal : first ++ idText idFirst = second ++ idText idSecond) :
    first = second ∧ idFirst = idSecond := by
  cases idFirst with
  | none =>
      cases idSecond with
      | none => simpa [idText] using equal
      | some octets =>
          refine absurd ?_ plainFirst
          simp [idText] at equal
          simp [equal]
  | some octets =>
      cases idSecond with
      | none =>
          refine absurd ?_ plainSecond
          simp [idText] at equal
          simp [← equal]
      | some others =>
          rcases Text.append_fields plainFirst plainSecond equal with ⟨same, tails⟩
          exact ⟨same, by rw [hexText_inj tails]⟩

theorem mccText_length_le (data : PlmnIdentity) : (mccText data).length ≤ 6 := by
  have lengths := fun octet => decimal_length (low_lt octet)
  have lengthsHigh := fun octet => decimal_length (high_lt octet)
  simp only [mccText, List.length_append, lengths, lengthsHigh]
  split_ifs <;> omega

/-- The cut never reaches the underscore in front of the MNC. -/
theorem writtenName_eq {type : String} (short : type.toList.length ≤ 7) (data : PlmnIdentity)
    (octets : Option (List UInt8)) :
    ∃ mncWritten, mncWritten <+: mncText data ∧
      ((plmnText type data).length ≤ 19 → mncWritten = mncText data) ∧
      writtenName type data octets =
        type.toList ++ (mccText data ++ '_' :: (mncWritten ++ idText octets)) := by
  have mccShort := mccText_length_le data
  have parts : (plmnText type data).length =
      type.toList.length + (mccText data).length + 1 + (mncText data).length := by
    simp [plmnText]
    omega
  refine ⟨(mncText data).take (18 - type.toList.length - (mccText data).length),
    List.take_prefix _ _, fun room => List.take_of_length_le (by omega), ?_⟩
  have kind : (type.toList ++ mccText data).take 19 = type.toList ++ mccText data := by
    apply List.take_of_length_le
    rw [List.length_append]
    omega
  obtain ⟨left, enough⟩ : ∃ left, 19 - (type.toList ++ mccText data).length = left + 1 :=
    ⟨18 - (type.toList ++ mccText data).length, by rw [List.length_append]; omega⟩
  have leftIs : left = 18 - type.toList.length - (mccText data).length := by
    rw [List.length_append] at enough
    omega
  rw [writtenName, plmnText, List.take_append, kind, enough, List.take_succ_cons, leftIs]
  simp

theorem writtenName_inj {type : String} (short : type.toList.length ≤ 7)
    {first second : PlmnIdentity} {idFirst idSecond : Option (List UInt8)}
    (equal : writtenName type first idFirst = writtenName type second idSecond) :
    mccText first = mccText second ∧ idFirst = idSecond ∧
      ((plmnText type first).length ≤ 19 → (plmnText type second).length ≤ 19 →
        mncText first = mncText second) := by
  rcases writtenName_eq short first idFirst with ⟨mncFirst, cutFirst, wholeFirst, nameFirst⟩
  rcases writtenName_eq short second idSecond with ⟨mncSecond, cutSecond, wholeSecond, nameSecond⟩
  rw [nameFirst, nameSecond] at equal
  rcases Text.append_fields (underscore_not_mem_mccText first)
    (underscore_not_mem_mccText second) (List.append_cancel_left equal) with ⟨sameMcc, tails⟩
  have plainFirst : '_' ∉ mncFirst :=
    fun member => underscore_not_mem_mncText first (cutFirst.subset member)
  have plainSecond : '_' ∉ mncSecond :=
    fun member => underscore_not_mem_mncText second (cutSecond.subset member)
  rcases idText_split plainFirst plainSecond tails with ⟨sameMnc, sameId⟩
  refine ⟨sameMcc, sameId, fun fitsFirst fitsSecond => ?_⟩
  rw [← wholeFirst fitsFirst, ← wholeSecond fitsSecond, sameMnc]

theorem kindText_apart (first second : PlmnIdentity) (idFirst idSecond : Option (List UInt8)) :
    writtenName "gnb_" first idFirst ≠ writtenName "en_gnb_" second idSecond := by
  intro equal
  have shortGnb : "gnb_".toList.length ≤ 7 := by decide
  have shortEnGnb : "en_gnb_".toList.length ≤ 7 := by decide
  rcases writtenName_eq shortGnb first idFirst with ⟨mncFirst, -, -, nameFirst⟩
  rcases writtenName_eq shortEnGnb second idSecond with ⟨mncSecond, -, -, nameSecond⟩
  rw [nameFirst, nameSecond] at equal
  have starts := congrArg List.head? equal
  simp at starts

theorem accepted_inj {first second : GlobalE2nodeId} (acceptedFirst : Accepted first)
    (acceptedSecond : Accepted second) (equal : ranName first = ranName second) :
    ∃ type dataFirst dataSecond, type.toList.length ≤ 7 ∧
      first.kind = second.kind ∧ first.plmn = some dataFirst ∧ second.plmn = some dataSecond ∧
      writtenName type dataFirst first.octets = writtenName type dataSecond second.octets := by
  rcases accepted_written acceptedFirst with
    ⟨kindFirst, dataFirst, gnbFirst, kindIsFirst, plmnFirst, nameFirst⟩
  rcases accepted_written acceptedSecond with
    ⟨kindSecond, dataSecond, gnbSecond, kindIsSecond, plmnSecond, nameSecond⟩
  rw [nameFirst, nameSecond] at equal
  rw [kindIsFirst, kindIsSecond]
  rcases gnbFirst with rfl | rfl <;> rcases gnbSecond with rfl | rfl
  · exact ⟨_, _, _, by decide, rfl, plmnFirst, plmnSecond, equal⟩
  · exact absurd equal (kindText_apart _ _ _ _)
  · exact absurd equal.symm (kindText_apart _ _ _ _)
  · exact ⟨_, _, _, by decide, rfl, plmnFirst, plmnSecond, equal⟩

theorem plmnText_length_of_denotes {type : String} (short : type.toList.length ≤ 7)
    {data : PlmnIdentity} (denotes : Denotes data) : (plmnText type data).length ≤ 19 := by
  have three : (threeDigits (mnc data)).length = 3 := by
    rw [threeDigits, mnc]
    split <;> rfl
  rw [plmnText, mccText_eq denotes, mncText_eq denotes]
  simp [three, mcc]
  omega

theorem digits_lt {data : PlmnIdentity} (denotes : Denotes data) :
    (∀ digit ∈ mcc data, digit < 16) ∧ ∀ digit ∈ threeDigits (mnc data), digit < 16 := by
  have small : ∀ digit ∈ mcc data ++ mnc data, digit < 16 :=
    fun digit member => (denotes digit member).trans (by decide)
  refine ⟨fun digit member => small digit (List.mem_append_left _ member), ?_⟩
  intro digit member
  rw [threeDigits] at member
  split at member
  · rcases List.mem_cons.mp member with rfl | member
    · decide
    · exact small digit (List.mem_append_right _ member)
  · exact small digit (List.mem_append_right _ member)

/-- Nodes that differ in kind or in the octets of their id have different names; among PLMNs
that denote an MCC and an MNC the name says exactly the kind, the MCC, the MNC written with
three digits, and the octets. -/
theorem ranName_separates (first second : GlobalE2nodeId) (acceptedFirst : Accepted first)
    (acceptedSecond : Accepted second) :
    (ranName first = ranName second →
      first.kind = second.kind ∧ first.octets = second.octets) ∧
    ∀ dataFirst dataSecond, first.plmn = some dataFirst → second.plmn = some dataSecond →
      Denotes dataFirst → Denotes dataSecond →
      (ranName first = ranName second ↔
        first.kind = second.kind ∧ mcc dataFirst = mcc dataSecond ∧
          threeDigits (mnc dataFirst) = threeDigits (mnc dataSecond) ∧
          first.octets = second.octets) := by
  constructor
  · intro equal
    rcases accepted_inj acceptedFirst acceptedSecond equal with
      ⟨type, dataFirst, dataSecond, short, sameKind, -, -, written⟩
    exact ⟨sameKind, (writtenName_inj short written).2.1⟩
  intro dataFirst dataSecond plmnFirst plmnSecond denotesFirst denotesSecond
  constructor
  · intro equal
    rcases accepted_inj acceptedFirst acceptedSecond equal with
      ⟨type, otherFirst, otherSecond, short, sameKind, isFirst, isSecond, written⟩
    obtain rfl : dataFirst = otherFirst := Option.some.inj (plmnFirst.symm.trans isFirst)
    obtain rfl : dataSecond = otherSecond := Option.some.inj (plmnSecond.symm.trans isSecond)
    rcases writtenName_inj short written with ⟨sameMcc, sameId, sameMnc⟩
    have texts := sameMnc (plmnText_length_of_denotes short denotesFirst)
      (plmnText_length_of_denotes short denotesSecond)
    rw [mccText_eq denotesFirst, mccText_eq denotesSecond] at sameMcc
    rw [mncText_eq denotesFirst, mncText_eq denotesSecond] at texts
    exact ⟨sameKind,
      map_digitChar_inj (digits_lt denotesFirst).1 (digits_lt denotesSecond).1 sameMcc,
      map_digitChar_inj (digits_lt denotesFirst).2 (digits_lt denotesSecond).2 texts, sameId⟩
  · rintro ⟨sameKind, sameMcc, sameMnc, sameId⟩
    rcases accepted_written acceptedFirst with
      ⟨kindFirst, otherFirst, -, kindIsFirst, isFirst, nameFirst⟩
    rcases accepted_written acceptedSecond with
      ⟨kindSecond, otherSecond, -, kindIsSecond, isSecond, nameSecond⟩
    obtain rfl : dataFirst = otherFirst := Option.some.inj (plmnFirst.symm.trans isFirst)
    obtain rfl : dataSecond = otherSecond := Option.some.inj (plmnSecond.symm.trans isSecond)
    rw [kindIsFirst, kindIsSecond] at sameKind
    rw [nameFirst, nameSecond, Option.some.inj sameKind, sameId, writtenName, writtenName,
      plmnText, plmnText, mccText_eq denotesFirst, mccText_eq denotesSecond,
      mncText_eq denotesFirst, mncText_eq denotesSecond, sameMcc, sameMnc]

def gnbOfSize (octets : List UInt8) (unused : Nat)
    (sized : 22 ≤ (BitString.mk octets unused).bits ∧ (BitString.mk octets unused).bits ≤ 32 ∧
      unused < 8) : NodeId GnbIdPr.size where
  present := .gnbId
  choice := ⟨octets, unused⟩
  sized := by
    rintro range ⟨⟩
    exact sized

/-- A node id of 22 bits and one of 24 bits in the same three octets. -/
def shortGnb : GlobalE2nodeId := .gNB plmnExample (gnbOfSize [0x12, 0x34, 0x54] 2 (by decide))
def longGnb : GlobalE2nodeId := .gNB plmnExample (gnbOfSize [0x12, 0x34, 0x54] 0 (by decide))

theorem shortGnb_longGnb_share_name : ranName shortGnb = ranName longGnb :=
  ((ranName_separates shortGnb longGnb (by decide) (by decide)).2 plmnExample plmnExample rfl rfl
    (by decide) (by decide)).mpr ⟨rfl, rfl, rfl, rfl⟩

/-- The length of the id in bits is not part of the name. -/
theorem ranName_collision :
    ¬ ∀ first second, Accepted first → Accepted second →
      first.kind ≠ second.kind ∨ first.plmn.map mcc ≠ second.plmn.map mcc ∨
        first.plmn.map mnc ≠ second.plmn.map mnc ∨ first.innerId ≠ second.innerId →
      ranName first ≠ ranName second := by
  intro claim
  exact claim shortGnb longGnb (by decide) (by decide) (.inr (.inr (.inr (by decide))))
    (by decide)

end NearRtRic.E2T
