import NearRtRic.Kpimon.IndicationHeader

/-! How much of a decoded header reaches the Go structure. -/

namespace NearRtRic.Kpimon

open NearRtRic.CMemory

def Octets.toGo (octets : Octets) : OctetString where
  buf := octets.val
  size := octets.val.length

def CBitString.toGo (bits : CBitString) : BitString where
  buf := bits.octets.val
  size := bits.octets.val.length
  bitsUnused := bits.unused.val

def CNRCGI.toGo (nRCGI : CNRCGI) : NRCGIType where
  plmnID := nRCGI.plmn.octets.toGo
  nRCellID := nRCGI.cell.toGo

def CSliceID.toGo (sliceID : CSliceID) : SliceIDType where
  sST := sliceID.sST.toGo
  sD := sliceID.sD.map Octets.toGo

/-- An optional index from 0 to 255, with a value outside of that range for its absence. -/
def indexToGo (index : Option (Fin 256)) : Int :=
  (index.map (fun value => (value.val : Int))).getD (-1)

namespace CGlobalKPMnode

/-- The bit string as a struct of its own kind. -/
def identity : CGlobalKPMnode → NodeIdentity
  | .gNB _ id .. => .gNBID id.toGo
  | .engNB _ id => .eNGNBID id.toGo
  | .ngeNB _ .ngeNBMacro id => .nGENBIDMacro id.toGo
  | .ngeNB _ .ngeNBShortMacro id => .nGENBIDShortMacro id.toGo
  | .ngeNB _ .ngeNBLongMacro id => .nGENBIDLongMacro id.toGo
  | .eNB _ .eNBMacro id => .eNBIDMacro id.toGo
  | .eNB _ .eNBHome id => .eNBIDHome id.toGo
  | .eNB _ .eNBShortMacro id => .eNBIDShortMacro id.toGo
  | .eNB _ .eNBLongMacro id => .eNBIDLongMacro id.toGo

def cuUpId : CGlobalKPMnode → Option Octets
  | .gNB _ _ cuUpId _ => cuUpId
  | _ => none

def duId : CGlobalKPMnode → Option Octets
  | .gNB _ _ _ duId => duId
  | _ => none

end CGlobalKPMnode

namespace GlobalKPMnode

def tag : GlobalKPMnode → Int
  | .gNB _ => 1
  | .engNB _ => 2
  | .ngeNB _ => 3
  | .eNB _ => 4

def plmnID : GlobalKPMnode → OctetString
  | .gNB node => node.globalgNBID.plmnID
  | .engNB node => node.plmnID
  | .ngeNB node => node.plmnID
  | .eNB node => node.plmnID

def idType : GlobalKPMnode → Int
  | .gNB node => node.globalgNBID.gnbIDType
  | .engNB node => node.gnbIDType
  | .ngeNB node => node.enbIDType
  | .eNB node => node.enbIDType

def id : GlobalKPMnode → Interface NodeIdentity
  | .gNB node => node.globalgNBID.gnbID
  | .engNB node => node.gnbID
  | .ngeNB node => node.enbID
  | .eNB node => node.enbID

def gnbCUUPID : GlobalKPMnode → Option Integer
  | .gNB node => node.gnbCUUPID
  | _ => none

def gnbDUID : GlobalKPMnode → Option Integer
  | .gNB node => node.gnbDUID
  | _ => none

end GlobalKPMnode

structure NodeFaithful (node : CGlobalKPMnode) (copy : GlobalKPMnode) : Prop where
  kind : copy.tag = node.tag
  plmn : copy.plmnID = node.plmn.octets.toGo
  innerKind : copy.idType = node.innerTag
  id : copy.id.content = some node.identity
  cuUpId : copy.gnbCUUPID = node.cuUpId.map Octets.toGo
  duId : copy.gnbDUID = node.duId.map Octets.toGo

/-- The Go header has the fields and the presences of the decoded one, whether its
interfaces hold structs or pointers to them. -/
structure Format1Faithful (decoded : CIndicationHeader) (header : IndicationHeaderFormat1) :
    Prop where
  nodeType : header.globalKPMnodeIDType = nodeTag decoded.node
  node : Option.Rel NodeFaithful decoded.node header.globalKPMnodeID.content
  nRCGI : header.nRCGI = decoded.nRCGI.map CNRCGI.toGo
  plmn : header.plmnID = decoded.plmn.map (fun plmn => plmn.octets.toGo)
  sliceID : header.sliceID = decoded.sliceID.map CSliceID.toGo
  fiveQI : header.fiveQI = indexToGo decoded.fiveQI
  qci : header.qci = indexToGo decoded.qci

def Faithful (decoded : CIndicationHeader) (indicationHdr : IndicationHeader) : Prop :=
  indicationHdr.indHdrType = 1 ∧
    ∃ header, indicationHdr.indHdr.content = some header ∧ Format1Faithful decoded header

open Layout

namespace HeaderDecoder

variable {memory : Memory} {address : Nat}

theorem octetString_of_laid {octets : Octets} (laid : OctetStringAt memory address octets) :
    octetString memory address = .ok octets.toGo := by
  rcases laid with ⟨hsize, buf, hbuf, hbytes⟩
  have hword : word memory address 8 = .ok buf := word_eq_ok_iff.mpr hbuf
  have hlength : word memory (address + 8) 8 = .ok octets.val.length := word_eq_ok_iff.mpr hsize
  have hcopied : goBytes memory buf octets.val.length = .ok octets.val :=
    goBytes_of_bytesAt hbytes octets.property
  have hsmall : octets.val.length < 2 ^ (64 - 1) := by
    have hproperty := octets.property
    omega
  have hsigned : signed 64 octets.val.length = octets.val.length :=
    signed_of_lt (by decide) hsmall
  have hgo : octets.toGo = { buf := octets.val, size := signed 64 octets.val.length } := by
    rw [hsigned]
    rfl
  rw [hgo, octetString, hword, bind_ok, hlength, bind_ok, hcopied, bind_ok]
  rfl

theorem plmn_of_laid {plmn : PlmnIdentity} (laid : PlmnAt memory address plmn) :
    octetString memory address = .ok plmn.octets.toGo :=
  octetString_of_laid laid

theorem bitString_of_laid {bits : CBitString} (laid : BitStringAt memory address bits) :
    bitString memory address = .ok bits.toGo := by
  rcases laid with ⟨hoctets, hunused⟩
  have hword : word memory (address + 16) 4 = .ok bits.unused.val := word_eq_ok_iff.mpr hunused
  have hsigned : signed 32 bits.unused.val = bits.unused.val :=
    signed_of_lt (by decide) (by omega)
  simp only [bitString, octetString_of_laid hoctets, hword, hsigned, bind_ok]
  rfl

theorem nRCGI_of_laid {cell : CNRCGI} (laid : NRCGIAt memory address cell) :
    nRCGI memory address = .ok cell.toGo := by
  rcases laid with ⟨hplmn, hcell⟩
  simp only [nRCGI, octetString_of_laid hplmn, bitString_of_laid hcell, bind_ok]
  rfl

theorem sliceID_of_laid {slice : CSliceID} (laid : SliceIDAt memory address slice) :
    sliceID memory address = .ok slice.toGo := by
  rcases laid with ⟨hsST, hsD⟩
  have hread : ifNotNull memory (address + 40) (octetString memory) =
      .ok (slice.sD.map Octets.toGo) :=
    ifNotNull_of_optionalAt (fun target octets hlaid => octetString_of_laid hlaid) hsD
  simp only [sliceID, octetString_of_laid hsST, hread, bind_ok]
  rfl

theorem int64At_of_laid {value : Fin 256} (laid : LongAt memory address value) :
    int64At memory address = .ok (value.val : Int) := by
  have hword : word memory address 8 = .ok value.val := word_eq_ok_iff.mpr laid
  have hsigned : signed 64 value.val = value.val :=
    signed_of_lt (by decide) (lt_trans value.isLt (by norm_num))
  simp only [int64At, hword, hsigned, bind_ok]
  rfl

/-- Without a node every field is read where it lies. -/
theorem indicationHeaderFormat1_of_no_node {decoded : CIndicationHeader}
    (laid : Format1At memory address decoded) (absent : decoded.node = none) :
    ∃ header, indicationHeaderFormat1 memory address = .ok header ∧
      Format1Faithful decoded header := by
  have hnode : ifNotNull memory address (globalKPMnodeID memory) = .ok none := by
    have hlaid := laid.node
    rw [absent] at hlaid
    exact ifNotNull_of_null hlaid
  have hcell := ifNotNull_of_optionalAt (fun _ _ hlaid => nRCGI_of_laid hlaid) laid.nRCGI
  have hplmn := ifNotNull_of_optionalAt (fun _ _ hlaid => plmn_of_laid hlaid) laid.plmn
  have hslice := ifNotNull_of_optionalAt (fun _ _ hlaid => sliceID_of_laid hlaid) laid.sliceID
  have hfiveQI := ifNotNull_of_optionalAt (fun _ _ hlaid => int64At_of_laid hlaid) laid.fiveQI
  have hqci := ifNotNull_of_optionalAt (fun _ _ hlaid => int64At_of_laid hlaid) laid.qci
  simp only [indicationHeaderFormat1, hnode, hcell, hplmn, hslice, hfiveQI, hqci, bind_ok]
  refine ⟨_, rfl, ?_⟩
  constructor
  case nodeType => simp [absent, nodeTag]
  case node =>
    rw [absent]
    exact Option.Rel.none
  case nRCGI => rfl
  case plmn => rfl
  case sliceID => rfl
  case fiveQI => rfl
  case qci => rfl

/-! The PLMN identity is read at the union: its buffer is the union's pointer and its size the
first word of the parsing context. -/

theorem globalID_plmn {alternatives : Int → Option (BitString → NodeIdentity)}
    {read : OctetString × Int × Interface NodeIdentity}
    (zero : load memory (address + 8) 8 = some 0)
    (found : globalID memory alternatives address = .ok read) :
    read.1 = { buf := [], size := 0 } := by
  rcases bind_ok_iff.mp found with ⟨plmnID, hplmn, found⟩
  have hempty : plmnID = { buf := [], size := 0 } := by
    rcases bind_ok_iff.mp hplmn with ⟨buf, -, hplmn⟩
    rcases bind_ok_iff.mp hplmn with ⟨size, hsize, hplmn⟩
    obtain rfl : 0 = size := by simpa [word_eq_ok_iff, zero] using hsize
    rcases bind_ok_iff.mp hplmn with ⟨octets, hoctets, hplmn⟩
    have hlength : octets.length = 0 := goBytes_length hoctets (by norm_num)
    obtain rfl : octets = [] := List.eq_nil_of_length_eq_zero hlength
    obtain rfl := pure_ok_iff.mp hplmn
    have hzero : signed 64 0 = 0 := signed_of_lt (by decide) (by norm_num)
    rw [hzero]
  rcases bind_ok_iff.mp found with ⟨present, -, found⟩
  split at found
  · obtain rfl := pure_ok_iff.mp found
    exact hempty
  · rcases bind_ok_iff.mp found with ⟨id, -, found⟩
    obtain rfl := pure_ok_iff.mp found
    exact hempty

theorem globalKPMnodeID_plmn {node : Int × Interface GlobalKPMnode}
    (zero : ZeroAt memory (address + 16) 8)
    (read : globalKPMnodeID memory address = .ok node) {copy : GlobalKPMnode}
    (stored : node.2.content = some copy) : copy.plmnID = { buf := [], size := 0 } := by
  have hzero : load memory (address + 8 + 8) 8 = some 0 := zero.load
  obtain ⟨-, -, -, hnil | ⟨gNB, hread, hgNB⟩ | ⟨engNB, hread, hengNB⟩ | ⟨ngeNB, hread, hngeNB⟩ |
    ⟨eNB, hread, heNB⟩⟩ := globalKPMnodeID_cases read
  · simp [hnil, Interface.content] at stored
  · obtain rfl : GlobalKPMnode.gNB gNB = copy := by simpa [hgNB, Interface.content] using stored
    rcases bind_ok_iff.mp hread with ⟨global, hglobal, hread⟩
    rcases bind_ok_iff.mp hread with ⟨cuUpId, -, hread⟩
    rcases bind_ok_iff.mp hread with ⟨duId, -, hread⟩
    obtain rfl := pure_ok_iff.mp hread
    exact globalID_plmn hzero hglobal
  · obtain rfl : GlobalKPMnode.engNB engNB = copy := by
      simpa [hengNB, Interface.content] using stored
    rcases bind_ok_iff.mp hread with ⟨global, hglobal, hread⟩
    obtain rfl := pure_ok_iff.mp hread
    exact globalID_plmn hzero hglobal
  · obtain rfl : GlobalKPMnode.ngeNB ngeNB = copy := by
      simpa [hngeNB, Interface.content] using stored
    rcases bind_ok_iff.mp hread with ⟨global, hglobal, hread⟩
    obtain rfl := pure_ok_iff.mp hread
    exact globalID_plmn hzero hglobal
  · obtain rfl : GlobalKPMnode.eNB eNB = copy := by simpa [heNB, Interface.content] using stored
    rcases bind_ok_iff.mp hread with ⟨global, hglobal, hread⟩
    obtain rfl := pure_ok_iff.mp hread
    exact globalID_plmn hzero hglobal

theorem stored_plmn {target : Nat} {header : IndicationHeaderFormat1} {copy : GlobalKPMnode}
    (loaded : load memory address 8 = some target) (notNull : target ≠ 0)
    (zero : ZeroAt memory (target + 16) 24)
    (read : indicationHeaderFormat1 memory address = .ok header)
    (stored : header.globalKPMnodeID.content = some copy) :
    copy.plmnID = { buf := [], size := 0 } := by
  rcases indicationHeaderFormat1_fields read with ⟨⟨node, hnode, -, hid⟩, -⟩
  rw [ifNotNull_of_pointer loaded notNull] at hnode
  rcases bind_ok_iff.mp hnode with ⟨found, hfound, hnode⟩
  obtain rfl := pure_ok_iff.mp hnode
  rw [hid] at stored
  exact globalKPMnodeID_plmn (zero.shorten (by decide)) hfound stored

end HeaderDecoder

theorem NodeFaithful.plmn_ne_empty {node : CGlobalKPMnode} {copy : GlobalKPMnode}
    (faithful : NodeFaithful node copy) : copy.plmnID ≠ { buf := [], size := 0 } := by
  intro hempty
  have hsize : (node.plmn.val.length : Int) = 0 := by
    simpa [hempty, Octets.toGo, PlmnIdentity.octets] using
      (congrArg OctetString.size faithful.plmn).symm
  rw [node.plmn.property] at hsize
  omega

/-- A header is copied faithfully only where it has no node id: the casts to a node's
alternative do not follow the pointer in the union. -/
theorem getIndicationHeader_faithful_iff {memory : Memory} {decodedHdr : Nat}
    {decoded : CIndicationHeader} (laid : HeaderAt memory decodedHdr decoded) :
    (∃ indicationHdr, getIndicationHeader memory (some decodedHdr) = .ok indicationHdr ∧
      Faithful decoded indicationHdr) ↔ decoded.node = none := by
  rcases getIndicationHeader_of_headerAt laid with ⟨format1, hformat1, hread⟩
  rw [hread]
  constructor
  · rintro ⟨indicationHdr, hcopied, -, header, hheader, hfaithful⟩
    rcases bind_ok_iff.mp hcopied with ⟨stored, hstored, hcopied⟩
    obtain rfl := pure_ok_iff.mp hcopied
    obtain rfl : stored = header := by simpa [Interface.content] using hheader
    cases hnode : decoded.node with
    | none => rfl
    | some node =>
        have hlaid := hformat1.node
        have hrel := hfaithful.node
        rw [hnode] at hlaid hrel
        rcases hlaid with ⟨target, hne, hload, -, -, hzero⟩
        cases hcontent : stored.globalKPMnodeID.content with
        | none =>
            rw [hcontent] at hrel
            cases hrel
        | some copy =>
            rw [hcontent] at hrel
            cases hrel with
            | some hnodeFaithful =>
                exact absurd (HeaderDecoder.stored_plmn hload hne hzero hstored hcontent)
                  hnodeFaithful.plmn_ne_empty
  · intro absent
    rcases HeaderDecoder.indicationHeaderFormat1_of_no_node hformat1 absent with
      ⟨header, hheader, hfaithful⟩
    refine ⟨{ indHdrType := 1, indHdr := .pointer header }, ?_, rfl, header, rfl, hfaithful⟩
    rw [hheader, bind_ok]
    rfl

theorem getIndicationHeader_faithful_iff_gNB :
    (∃ indicationHdr, getIndicationHeader gNBMemory (some 4096) = .ok indicationHdr ∧
      Faithful gNBHeader indicationHdr) ↔ gNBHeader.node = none :=
  getIndicationHeader_faithful_iff gNBMemory_laid

/-- The PLMN identity 00F110 of a gNB arrives empty and its id not at all. -/
theorem gNBHeader_unfaithful :
    HeaderAt gNBMemory 4096 gNBHeader ∧
      getIndicationHeader gNBMemory (some 4096) = .ok gNBIndicationHeader ∧
      ¬ Faithful gNBHeader gNBIndicationHeader := by
  refine ⟨gNBMemory_laid, gNBMemory_copied, ?_⟩
  rintro ⟨-, header, hheader, hfaithful⟩
  obtain rfl := Option.some.inj hheader
  cases hfaithful.node with
  | some hnode => exact hnode.plmn_ne_empty rfl

end NearRtRic.Kpimon
