import NearRtRic.Library.CMemory

/-! The E2SM-KPM indication header: the structures of the C decoder, the Go structures
and the copy between them. -/

namespace NearRtRic.Kpimon

open NearRtRic.CMemory

/-- A Go interface over a group of types: empty, or a struct of one of them, or a pointer
to such a struct. -/
inductive Interface (Content : Type)
  | nil
  | value (content : Content)
  | pointer (content : Content)
  deriving DecidableEq, Repr

def Interface.content {Content : Type} : Interface Content → Option Content
  | .nil => none
  | .value content | .pointer content => some content

structure OctetString where
  buf : List UInt8
  size : Int
  deriving DecidableEq, Repr

/-- `Integer` is an octet string under another name. -/
abbrev Integer := OctetString

structure BitString where
  buf : List UInt8
  size : Int
  bitsUnused : Int
  deriving DecidableEq, Repr

/-- The structs that hold an inner node id, all of them bit strings. -/
inductive NodeIdentity
  | gNBID (id : BitString)
  | eNGNBID (id : BitString)
  | nGENBIDMacro (id : BitString)
  | nGENBIDShortMacro (id : BitString)
  | nGENBIDLongMacro (id : BitString)
  | eNBIDMacro (id : BitString)
  | eNBIDHome (id : BitString)
  | eNBIDShortMacro (id : BitString)
  | eNBIDLongMacro (id : BitString)
  deriving DecidableEq, Repr

structure GlobalgNBIDType where
  plmnID : OctetString
  gnbIDType : Int
  gnbID : Interface NodeIdentity
  deriving DecidableEq, Repr

structure GlobalKPMnodegNBIDType where
  globalgNBID : GlobalgNBIDType
  gnbCUUPID : Option Integer
  gnbDUID : Option Integer
  deriving DecidableEq, Repr

structure GlobalKPMnodeengNBIDType where
  plmnID : OctetString
  gnbIDType : Int
  gnbID : Interface NodeIdentity
  deriving DecidableEq, Repr

structure GlobalKPMnodengeNBIDType where
  plmnID : OctetString
  enbIDType : Int
  enbID : Interface NodeIdentity
  deriving DecidableEq, Repr

structure GlobalKPMnodeeNBIDType where
  plmnID : OctetString
  enbIDType : Int
  enbID : Interface NodeIdentity
  deriving DecidableEq, Repr

inductive GlobalKPMnode
  | gNB (node : GlobalKPMnodegNBIDType)
  | engNB (node : GlobalKPMnodeengNBIDType)
  | ngeNB (node : GlobalKPMnodengeNBIDType)
  | eNB (node : GlobalKPMnodeeNBIDType)
  deriving DecidableEq, Repr

structure NRCGIType where
  plmnID : OctetString
  nRCellID : BitString
  deriving DecidableEq, Repr

structure SliceIDType where
  sST : OctetString
  sD : Option OctetString
  deriving DecidableEq, Repr

structure IndicationHeaderFormat1 where
  globalKPMnodeIDType : Int
  globalKPMnodeID : Interface GlobalKPMnode
  nRCGI : Option NRCGIType
  plmnID : Option OctetString
  sliceID : Option SliceIDType
  fiveQI : Int
  qci : Int
  deriving DecidableEq, Repr

structure IndicationHeader where
  indHdrType : Int
  indHdr : Interface IndicationHeaderFormat1
  deriving DecidableEq, Repr

/-! The offsets are those of the generated structures on a 64-bit machine, whose
`OCTET_STRING_t` has 40 bytes, `BIT_STRING_t` 48, an inner choice 80 and each of the
global ids 144. -/

namespace HeaderDecoder

variable (memory : Memory)

def octetString (address : Nat) : Run OctetString := do
  let buf ← word memory address 8
  let size ← word memory (address + 8) 8
  let octets ← goBytes memory buf size
  pure { buf := octets, size := signed 64 size }

def bitString (address : Nat) : Run BitString := do
  let octets ← octetString memory address
  let bitsUnused ← word memory (address + 16) 4
  pure { buf := octets.buf, size := octets.size, bitsUnused := signed 32 bitsUnused }

/-- What the four kinds share: a PLMN identity, then a choice that holds its BIT STRING;
`alternatives` names the struct that a tag selects. -/
def globalID (alternatives : Int → Option (BitString → NodeIdentity)) (address : Nat) :
    Run (OctetString × Int × Interface NodeIdentity) := do
  let plmnID ← octetString memory address
  let present ← word memory (address + 40) 4
  match alternatives present with
  | none => pure (plmnID, present, .nil)
  | some named =>
      let id ← bitString memory (address + 48)
      pure (plmnID, present, .pointer (named id))

def gNBAlternatives : Int → Option (BitString → NodeIdentity)
  | 1 => some .gNBID
  | _ => none

def engNBAlternatives : Int → Option (BitString → NodeIdentity)
  | 1 => some .eNGNBID
  | _ => none

def ngeNBAlternatives : Int → Option (BitString → NodeIdentity)
  | 1 => some .nGENBIDMacro
  | 2 => some .nGENBIDShortMacro
  | 3 => some .nGENBIDLongMacro
  | _ => none

def eNBAlternatives : Int → Option (BitString → NodeIdentity)
  | 1 => some .eNBIDMacro
  | 2 => some .eNBIDHome
  | 3 => some .eNBIDShortMacro
  | 4 => some .eNBIDLongMacro
  | _ => none

def globalgNBID (address : Nat) : Run GlobalKPMnodegNBIDType := do
  let (plmnID, gnbIDType, gnbID) ← globalID memory gNBAlternatives address
  let gnbCUUPID ← ifNotNull memory (address + 144) (octetString memory)
  let gnbDUID ← ifNotNull memory (address + 152) (octetString memory)
  pure { globalgNBID := { plmnID, gnbIDType, gnbID }, gnbCUUPID, gnbDUID }

def globalengNBID (address : Nat) : Run GlobalKPMnodeengNBIDType := do
  let (plmnID, gnbIDType, gnbID) ← globalID memory engNBAlternatives address
  pure { plmnID, gnbIDType, gnbID }

def globalngeNBID (address : Nat) : Run GlobalKPMnodengeNBIDType := do
  let (plmnID, enbIDType, enbID) ← globalID memory ngeNBAlternatives address
  pure { plmnID, enbIDType, enbID }

def globaleNBID (address : Nat) : Run GlobalKPMnodeeNBIDType := do
  let (plmnID, enbIDType, enbID) ← globalID memory eNBAlternatives address
  pure { plmnID, enbIDType, enbID }

def globalKPMnodeID (address : Nat) : Run (Int × Interface GlobalKPMnode) := do
  let present ← word memory address 4
  let idType := signed 32 present
  -- the casts take the address of the union for the address of the alternative
  let choice := address + 8
  if idType = 1 then
    let node ← globalgNBID memory choice
    pure (idType, .pointer (.gNB node))
  else if idType = 2 then
    let node ← globalengNBID memory choice
    pure (idType, .pointer (.engNB node))
  else if idType = 3 then
    let node ← globalngeNBID memory choice
    pure (idType, .pointer (.ngeNB node))
  else if idType = 4 then
    let node ← globaleNBID memory choice
    pure (idType, .pointer (.eNB node))
  else pure (idType, .nil)

variable {memory} in
/-- The stored tag, and behind a pointer the struct read at the union itself. -/
theorem globalKPMnodeID_cases {address : Nat} {node : Int × Interface GlobalKPMnode}
    (read : globalKPMnodeID memory address = .ok node) :
    ∃ present, load memory address 4 = some present ∧ node.1 = signed 32 present ∧
      (node.2 = .nil ∨
        (∃ gNB, globalgNBID memory (address + 8) = .ok gNB ∧ node.2 = .pointer (.gNB gNB)) ∨
        (∃ engNB, globalengNBID memory (address + 8) = .ok engNB ∧
          node.2 = .pointer (.engNB engNB)) ∨
        (∃ ngeNB, globalngeNBID memory (address + 8) = .ok ngeNB ∧
          node.2 = .pointer (.ngeNB ngeNB)) ∨
        ∃ eNB, globaleNBID memory (address + 8) = .ok eNB ∧ node.2 = .pointer (.eNB eNB)) := by
  rcases bind_ok_iff.mp read with ⟨present, hpresent, read⟩
  refine ⟨present, word_eq_ok_iff.mp hpresent, ?_⟩
  dsimp only at read
  split at read
  · rcases bind_ok_iff.mp read with ⟨gNB, hgNB, read⟩
    obtain rfl := pure_ok_iff.mp read
    exact ⟨rfl, .inr (.inl ⟨gNB, hgNB, rfl⟩)⟩
  split at read
  · rcases bind_ok_iff.mp read with ⟨engNB, hengNB, read⟩
    obtain rfl := pure_ok_iff.mp read
    exact ⟨rfl, .inr (.inr (.inl ⟨engNB, hengNB, rfl⟩))⟩
  split at read
  · rcases bind_ok_iff.mp read with ⟨ngeNB, hngeNB, read⟩
    obtain rfl := pure_ok_iff.mp read
    exact ⟨rfl, .inr (.inr (.inr (.inl ⟨ngeNB, hngeNB, rfl⟩)))⟩
  split at read
  · rcases bind_ok_iff.mp read with ⟨eNB, heNB, read⟩
    obtain rfl := pure_ok_iff.mp read
    exact ⟨rfl, .inr (.inr (.inr (.inr ⟨eNB, heNB, rfl⟩)))⟩
  · obtain rfl := pure_ok_iff.mp read
    exact ⟨rfl, .inl rfl⟩

def nRCGI (address : Nat) : Run NRCGIType := do
  let plmnID ← octetString memory address
  let nRCellID ← bitString memory (address + 40)
  pure { plmnID, nRCellID }

def sliceID (address : Nat) : Run SliceIDType := do
  let sST ← octetString memory address
  let sD ← ifNotNull memory (address + 40) (octetString memory)
  pure { sST, sD }

def int64At (address : Nat) : Run Int := do
  let value ← word memory address 8
  pure (signed 64 value)

def indicationHeaderFormat1 (address : Nat) : Run IndicationHeaderFormat1 := do
  let node ← ifNotNull memory address (globalKPMnodeID memory)
  let nRCGI ← ifNotNull memory (address + 8) (nRCGI memory)
  let plmnID ← ifNotNull memory (address + 16) (octetString memory)
  let sliceID ← ifNotNull memory (address + 24) (sliceID memory)
  let fiveQI ← ifNotNull memory (address + 32) (int64At memory)
  let qci ← ifNotNull memory (address + 40) (int64At memory)
  pure
    { globalKPMnodeIDType := (node.map Prod.fst).getD 0
      globalKPMnodeID := (node.map Prod.snd).getD .nil
      nRCGI, plmnID, sliceID
      fiveQI := fiveQI.getD (-1)
      qci := qci.getD (-1) }

variable {memory} in
/-- Where each field of a header comes from. -/
theorem indicationHeaderFormat1_fields {address : Nat} {header : IndicationHeaderFormat1}
    (read : indicationHeaderFormat1 memory address = .ok header) :
    (∃ node, ifNotNull memory address (globalKPMnodeID memory) = .ok node ∧
      header.globalKPMnodeIDType = (node.map Prod.fst).getD 0 ∧
      header.globalKPMnodeID = (node.map Prod.snd).getD .nil) ∧
    ifNotNull memory (address + 8) (nRCGI memory) = .ok header.nRCGI ∧
    ifNotNull memory (address + 16) (octetString memory) = .ok header.plmnID ∧
    ifNotNull memory (address + 24) (sliceID memory) = .ok header.sliceID := by
  rcases bind_ok_iff.mp read with ⟨node, hnode, read⟩
  rcases bind_ok_iff.mp read with ⟨cell, hcell, read⟩
  rcases bind_ok_iff.mp read with ⟨plmn, hplmn, read⟩
  rcases bind_ok_iff.mp read with ⟨slice, hslice, read⟩
  rcases bind_ok_iff.mp read with ⟨fiveQI, -, read⟩
  rcases bind_ok_iff.mp read with ⟨qci, -, read⟩
  cases read
  exact ⟨⟨node, hnode, rfl, rfl⟩, hcell, hplmn, hslice⟩

end HeaderDecoder

/-- `GetIndicationHeader` after the call of the C decoder, which answers the address of
what it decoded. -/
def getIndicationHeader (memory : Memory) (decodedHdr : Option Nat) : Run IndicationHeader :=
  match decodedHdr with
  | none =>
      .error (.error
        "e2sm wrapper is unable to get IndicationHeader due to wrong or invalid input")
  | some decodedHdr => do
      let present ← word memory decodedHdr 4
      let indHdrType := signed 32 present
      if indHdrType = 1 then
        let format1 ← word memory (decodedHdr + 8) 8
        let indHdrFormat1 ← HeaderDecoder.indicationHeaderFormat1 memory format1
        pure { indHdrType, indHdr := .pointer indHdrFormat1 }
      else .error (.error "Unknown RIC Indication Header type")

abbrev Octets := { octets : List UInt8 // octets.length < 2 ^ 31 }

/-- `PLMN-Identity ::= OCTET STRING (SIZE(3))`. -/
abbrev PlmnIdentity := { octets : List UInt8 // octets.length = 3 }

def PlmnIdentity.octets (plmn : PlmnIdentity) : Octets :=
  ⟨plmn.val, by rw [plmn.property]; decide⟩

structure CBitString where
  octets : Octets
  unused : Fin 8

inductive NgeNBAlternative
  | ngeNBMacro
  | ngeNBShortMacro
  | ngeNBLongMacro
  deriving DecidableEq, Repr

inductive ENBAlternative
  | eNBMacro
  | eNBHome
  | eNBShortMacro
  | eNBLongMacro
  deriving DecidableEq, Repr

inductive CGlobalKPMnode
  | gNB (plmn : PlmnIdentity) (id : CBitString) (cuUpId duId : Option Octets)
  | engNB (plmn : PlmnIdentity) (id : CBitString)
  | ngeNB (plmn : PlmnIdentity) (alternative : NgeNBAlternative) (id : CBitString)
  | eNB (plmn : PlmnIdentity) (alternative : ENBAlternative) (id : CBitString)

structure CNRCGI where
  plmn : PlmnIdentity
  cell : CBitString

structure CSliceID where
  sST : Octets
  sD : Option Octets

/-- A decoded header of format 1. -/
structure CIndicationHeader where
  node : Option CGlobalKPMnode
  nRCGI : Option CNRCGI
  plmn : Option PlmnIdentity
  sliceID : Option CSliceID
  fiveQI : Option (Fin 256)
  qci : Option (Fin 256)

def NgeNBAlternative.tag : NgeNBAlternative → Nat
  | .ngeNBMacro => 1
  | .ngeNBShortMacro => 2
  | .ngeNBLongMacro => 3

def ENBAlternative.tag : ENBAlternative → Nat
  | .eNBMacro => 1
  | .eNBHome => 2
  | .eNBShortMacro => 3
  | .eNBLongMacro => 4

namespace CGlobalKPMnode

def tag : CGlobalKPMnode → Nat
  | .gNB .. => 1
  | .engNB .. => 2
  | .ngeNB .. => 3
  | .eNB .. => 4

def plmn : CGlobalKPMnode → PlmnIdentity
  | .gNB plmn .. | .engNB plmn .. | .ngeNB plmn .. | .eNB plmn .. => plmn

def innerTag : CGlobalKPMnode → Nat
  | .gNB .. | .engNB .. => 1
  | .ngeNB _ alternative _ => alternative.tag
  | .eNB _ alternative _ => alternative.tag

def id : CGlobalKPMnode → CBitString
  | .gNB _ id .. | .engNB _ id | .ngeNB _ _ id | .eNB _ _ id => id

end CGlobalKPMnode

namespace Layout

variable (memory : Memory)

def OctetStringAt (address : Nat) (octets : Octets) : Prop :=
  load memory (address + 8) 8 = some octets.val.length ∧
    ∃ buf, load memory address 8 = some buf ∧ BytesAt memory buf octets.val

def BitStringAt (address : Nat) (bits : CBitString) : Prop :=
  OctetStringAt memory address bits.octets ∧
    load memory (address + 16) 4 = some bits.unused.val

/-- The struct that a node's union points to: the PLMN identity, the choice with its BIT
STRING inside, and the optional ids of a gNB. -/
def AlternativeAt (node : CGlobalKPMnode) (address : Nat) : Prop :=
  OctetStringAt memory address node.plmn.octets ∧
    load memory (address + 40) 4 = some node.innerTag ∧
    BitStringAt memory (address + 48) node.id ∧
    match node with
    | .gNB _ _ cuUpId duId =>
        OptionalAt memory (OctetStringAt memory) (address + 144) cuUpId ∧
          OptionalAt memory (OctetStringAt memory) (address + 152) duId
    | _ => True

/-- The union holds a pointer; the parsing context behind it is left zero by the decoder,
which allocates with `CALLOC`. -/
def GlobalKPMnodeAt (address : Nat) (node : CGlobalKPMnode) : Prop :=
  load memory address 4 = some node.tag ∧
    PointerAt memory (address + 8) (AlternativeAt memory node) ∧
    ZeroAt memory (address + 16) 24

def NRCGIAt (address : Nat) (nRCGI : CNRCGI) : Prop :=
  OctetStringAt memory address nRCGI.plmn.octets ∧ BitStringAt memory (address + 40) nRCGI.cell

def PlmnAt (address : Nat) (plmn : PlmnIdentity) : Prop :=
  OctetStringAt memory address plmn.octets

def SliceIDAt (address : Nat) (sliceID : CSliceID) : Prop :=
  OctetStringAt memory address sliceID.sST ∧
    OptionalAt memory (OctetStringAt memory) (address + 40) sliceID.sD

def LongAt (address : Nat) (value : Fin 256) : Prop :=
  load memory address 8 = some value.val

structure Format1At (address : Nat) (header : CIndicationHeader) : Prop where
  node : OptionalAt memory (GlobalKPMnodeAt memory) address header.node
  nRCGI : OptionalAt memory (NRCGIAt memory) (address + 8) header.nRCGI
  plmn : OptionalAt memory (PlmnAt memory) (address + 16) header.plmn
  sliceID : OptionalAt memory (SliceIDAt memory) (address + 24) header.sliceID
  fiveQI : OptionalAt memory (LongAt memory) (address + 32) header.fiveQI
  qci : OptionalAt memory (LongAt memory) (address + 40) header.qci

structure HeaderAt (address : Nat) (header : CIndicationHeader) : Prop where
  present : load memory address 4 = some 1
  format1 : PointerAt memory (address + 8) (Format1At memory · header)

end Layout

open Layout

variable {memory : Memory}

theorem getIndicationHeader_of_headerAt {decodedHdr : Nat} {decoded : CIndicationHeader}
    (laid : HeaderAt memory decodedHdr decoded) :
    ∃ format1, Format1At memory format1 decoded ∧
      getIndicationHeader memory (some decodedHdr) = (do
        let header ← HeaderDecoder.indicationHeaderFormat1 memory format1
        pure { indHdrType := 1, indHdr := .pointer header }) := by
  rcases laid.format1 with ⟨format1, -, hload, hformat1⟩
  refine ⟨format1, hformat1, ?_⟩
  have hpresent : word memory decodedHdr 4 = .ok 1 := word_eq_ok_iff.mpr laid.present
  have hpointer : word memory (decodedHdr + 8) 8 = .ok format1 := word_eq_ok_iff.mpr hload
  have hone : signed 32 1 = 1 := signed_of_lt (by decide) (by decide)
  simp [getIndicationHeader, hpresent, hpointer, hone]

/-- The tag that Go keeps of a node, zero where there is none. -/
def nodeTag (node : Option CGlobalKPMnode) : Nat :=
  (node.map CGlobalKPMnode.tag).getD 0

theorem nodeTag_eq_zero_iff {node : Option CGlobalKPMnode} : nodeTag node = 0 ↔ node = none := by
  cases node with
  | none => simp [nodeTag]
  | some node => cases node <;> simp [nodeTag, CGlobalKPMnode.tag]

theorem nodeTag_lt (node : Option CGlobalKPMnode) : nodeTag node < 5 := by
  cases node with
  | none => simp [nodeTag]
  | some node => cases node <;> simp [nodeTag, CGlobalKPMnode.tag]

theorem CGlobalKPMnode.signed_tag (node : CGlobalKPMnode) : signed 32 node.tag = node.tag := by
  have hsmall : node.tag < 5 := nodeTag_lt (some node)
  exact signed_of_lt (by decide) (by omega)

theorem indicationHeaderFormat1_type {format1 : Nat} {decoded : CIndicationHeader}
    {header : IndicationHeaderFormat1} (laid : Format1At memory format1 decoded)
    (read : HeaderDecoder.indicationHeaderFormat1 memory format1 = .ok header) :
    header.globalKPMnodeIDType = nodeTag decoded.node := by
  rcases HeaderDecoder.indicationHeaderFormat1_fields read with ⟨⟨node, hnode, htype, -⟩, -⟩
  have hlaid := laid.node
  cases hdecoded : decoded.node with
  | none =>
      have hnull : load memory format1 8 = some 0 := by simpa [hdecoded, OptionalAt] using hlaid
      rw [ifNotNull_of_null hnull] at hnode
      cases hnode
      simpa [nodeTag] using htype
  | some present =>
      rw [hdecoded] at hlaid
      rcases hlaid with ⟨target, hne, hload, htag, -⟩
      rw [ifNotNull_of_pointer hload hne] at hnode
      rcases bind_ok_iff.mp hnode with ⟨found, hfound, hnode⟩
      obtain rfl := pure_ok_iff.mp hnode
      rcases HeaderDecoder.globalKPMnodeID_cases hfound with ⟨tag, hstored, hfirst, -⟩
      obtain rfl : present.tag = tag := by simpa [htag] using hstored
      simpa [nodeTag, hfirst, present.signed_tag] using htype

def plmn00F110 : PlmnIdentity := ⟨[0x00, 0xF1, 0x10], rfl⟩

def gNBNode : CGlobalKPMnode :=
  .gNB plmn00F110 ⟨⟨[0xB5, 0xC6, 0x77, 0x88], by decide⟩, 3⟩ none none

def gNBHeader : CIndicationHeader where
  node := some gNBNode
  nRCGI := none
  plmn := none
  sliceID := none
  fiveQI := none
  qci := none

/-- The header at 4096, its format at 4112, the node at 4160, the gNB at 8192 and its
octets at 12288. -/
def gNBMemory : Memory :=
  sparse 4096 16384
    [(4096, 1), (4104, 0x10), (4105, 0x10), (4112, 0x40), (4113, 0x10),
      (4160, 1), (4169, 0x20),
      (8193, 0x30), (8200, 3), (8232, 1), (8240, 0x10), (8241, 0x30), (8248, 4), (8256, 3),
      (12289, 0xF1), (12290, 0x10), (12304, 0xB5), (12305, 0xC6), (12306, 0x77), (12307, 0x88)]

theorem gNBMemory_laid : HeaderAt gNBMemory 4096 gNBHeader where
  present := by decide +kernel
  format1 := by
    refine ⟨4112, by decide, by decide +kernel, ?_⟩
    constructor
    case node =>
      refine ⟨4160, by decide, by decide +kernel, by decide +kernel, ?_, by decide +kernel⟩
      refine ⟨8192, by decide, by decide +kernel, ?_, by decide +kernel, ?_, ?_, ?_⟩
      · exact ⟨by decide +kernel, 12288, by decide +kernel, by decide +kernel⟩
      · exact ⟨⟨by decide +kernel, 12304, by decide +kernel, by decide +kernel⟩, by decide +kernel⟩
      · exact (by decide +kernel : load gNBMemory 8336 8 = some 0)
      · exact (by decide +kernel : load gNBMemory 8344 8 = some 0)
    case nRCGI => exact (by decide +kernel : load gNBMemory 4120 8 = some 0)
    case plmn => exact (by decide +kernel : load gNBMemory 4128 8 = some 0)
    case sliceID => exact (by decide +kernel : load gNBMemory 4136 8 = some 0)
    case fiveQI => exact (by decide +kernel : load gNBMemory 4144 8 = some 0)
    case qci => exact (by decide +kernel : load gNBMemory 4152 8 = some 0)

/-- What Go makes of it: the words of the pointer and of the context in the node's place. -/
def gNBIndicationHeader : IndicationHeader where
  indHdrType := 1
  indHdr := .pointer
    { globalKPMnodeIDType := 1
      globalKPMnodeID := .pointer (.gNB
        { globalgNBID := { plmnID := ⟨[], 0⟩, gnbIDType := 0, gnbID := .nil }
          gnbCUUPID := none, gnbDUID := none })
      nRCGI := none, plmnID := none, sliceID := none, fiveQI := -1, qci := -1 }

theorem gNBMemory_copied :
    getIndicationHeader gNBMemory (some 4096) = .ok gNBIndicationHeader := by
  decide +kernel

end NearRtRic.Kpimon
