import NearRtRic.Kpimon.IndicationHeader

/-! What `handleIndication` does with the header that it has decoded: its type assertions
and its parsers. -/

namespace NearRtRic.Kpimon

open NearRtRic.CMemory

namespace HeaderConsumer

def byteAt (buffer : List UInt8) (index : Nat) : Run UInt8 :=
  orFault buffer[index]?

def highDigit (octet : UInt8) : String := toString (octet >>> 4).toNat

def lowDigit (octet : UInt8) : String := toString (octet &&& 0xf).toNat

/-- `octet >> uint(count)`, where a count that is too large shifts everything out. -/
def shifted (octet : UInt8) (count : Int) : Nat :=
  if count < 0 then 0 else octet.toNat >>> count.toNat

def parsePLMNIdentity (buffer : List UInt8) (size : Int) : Run String :=
  if size ≠ 3 then .error (.error "Invalid input: illegal length of PlmnID")
  else do
    let first ← byteAt buffer 0
    let second ← byteAt buffer 1
    let third ← byteAt buffer 2
    let mcc := highDigit first ++ lowDigit first ++ highDigit second
    if second &&& 0xf = 0xf then pure (mcc ++ highDigit third ++ lowDigit third)
    else pure (mcc ++ lowDigit second ++ highDigit third ++ lowDigit third)

def parsePlmnID (plmnID : OctetString) : Run String :=
  parsePLMNIdentity plmnID.buf plmnID.size

/-- `value, _ = call`: an error is dropped and a panic is not. -/
def ignoringError {Value : Type} (default : Value) : Run Value → Run Value
  | .error (.error _) => pure default
  | run => run

def parseNRCGI (nRCGI : NRCGIType) : Run String := do
  let cellID ← ignoringError "" (parsePLMNIdentity nRCGI.plmnID.buf nRCGI.plmnID.size)
  if nRCGI.plmnID.size ≠ 3 ∨ nRCGI.nRCellID.size ≠ 5 then
    .error (.error "Invalid input: illegal length of NRCGI")
  else
    let first ← byteAt nRCGI.nRCellID.buf 0
    let second ← byteAt nRCGI.nRCellID.buf 1
    let third ← byteAt nRCGI.nRCellID.buf 2
    let fourth ← byteAt nRCGI.nRCellID.buf 3
    let fifth ← byteAt nRCGI.nRCellID.buf 4
    pure (cellID ++ highDigit first ++ lowDigit first ++ highDigit second ++ lowDigit second ++
      highDigit third ++ lowDigit third ++ highDigit fourth ++ lowDigit fourth ++
      toString (shifted fifth nRCGI.nRCellID.bitsUnused))

def parseSliceID (sliceID : SliceIDType) : Run Int :=
  if sliceID.sST.size ≠ 1 ∨ sliceID.sD.any (fun sD => sD.size ≠ 3) then
    .error (.error "Invalid input: illegal length of sliceID")
  else
    -- binary.Read leaves its target at zero where the buffer is empty
    let sst := (sliceID.sST.buf.head?.getD 0).toNat
    match sliceID.sD with
    | none => pure (signed 32 (sst * 2 ^ 24))
    | some sD => do
        let first ← byteAt sD.buf 0
        let second ← byteAt sD.buf 1
        let third ← byteAt sD.buf 2
        let sd := (first.toNat * 256 + second.toNat) * 256 + third.toNat
        pure (signed 32 (sst * 2 ^ 24 + sd))

end HeaderConsumer

namespace GlobalKPMnode

def gNB? : GlobalKPMnode → Option GlobalKPMnodegNBIDType
  | .gNB node => some node
  | _ => none

def engNB? : GlobalKPMnode → Option GlobalKPMnodeengNBIDType
  | .engNB node => some node
  | _ => none

def ngeNB? : GlobalKPMnode → Option GlobalKPMnodengeNBIDType
  | .ngeNB node => some node
  | _ => none

def eNB? : GlobalKPMnode → Option GlobalKPMnodeeNBIDType
  | .eNB node => some node
  | _ => none

end GlobalKPMnode

def NodeIdentity.bits : NodeIdentity → BitString
  | .gNBID id | .eNGNBID id | .nGENBIDMacro id | .nGENBIDShortMacro id | .nGENBIDLongMacro id
  | .eNBIDMacro id | .eNBIDHome id | .eNBIDShortMacro id | .eNBIDLongMacro id => id

namespace HeaderConsumer

/-- `x.(T)` for a struct type `T`, which `select` recognises. -/
def assertValue {Content Result : Type} (select : Content → Option Result) :
    Interface Content → Run Result
  | .value content => orFault (select content)
  | _ => .error .fault

/-- `x.(*T)`. -/
def assertPointer {Content : Type} : Interface Content → Run Content
  | .pointer content => pure content
  | _ => .error .fault

def assertIdentity (named : BitString → NodeIdentity) (id : Interface NodeIdentity) :
    Run BitString :=
  assertValue (fun content => if content = named content.bits then some content.bits else none) id

def ifPresent {Content Value : Type} (content : Option Content) (absent : Value)
    (parse : Content → Run Value) : Run Value :=
  match content with
  | some content => parse content
  | none => pure absent

def readGlobalgNBID (globalgNBID : GlobalgNBIDType) : Run Unit := do
  if globalgNBID.gnbIDType = 1 then
    let _ ← assertIdentity .gNBID globalgNBID.gnbID

def readGlobalengNBID (globalengNBID : GlobalKPMnodeengNBIDType) : Run Unit := do
  if globalengNBID.gnbIDType = 1 then
    let _ ← assertIdentity .eNGNBID globalengNBID.gnbID

def readGlobalngeNBID (globalngeNBID : GlobalKPMnodengeNBIDType) : Run Unit := do
  if globalngeNBID.enbIDType = 1 then
    let _ ← assertIdentity .nGENBIDMacro globalngeNBID.enbID
  else if globalngeNBID.enbIDType = 2 then
    let _ ← assertIdentity .nGENBIDShortMacro globalngeNBID.enbID
  else if globalngeNBID.enbIDType = 3 then
    let _ ← assertIdentity .nGENBIDLongMacro globalngeNBID.enbID

def readGlobaleNBID (globaleNBID : GlobalKPMnodeeNBIDType) : Run Unit := do
  if globaleNBID.enbIDType = 1 then
    let _ ← assertIdentity .eNBIDMacro globaleNBID.enbID
  else if globaleNBID.enbIDType = 2 then
    let _ ← assertIdentity .eNBIDHome globaleNBID.enbID
  else if globaleNBID.enbIDType = 3 then
    let _ ← assertIdentity .eNBIDShortMacro globaleNBID.enbID
  else if globaleNBID.enbIDType = 4 then
    let _ ← assertIdentity .eNBIDLongMacro globaleNBID.enbID

def readGlobalKPMnodeID (header : IndicationHeaderFormat1) : Run Unit := do
  if header.globalKPMnodeIDType = 1 then
    let node ← assertValue GlobalKPMnode.gNB? header.globalKPMnodeID
    readGlobalgNBID node.globalgNBID
  else if header.globalKPMnodeIDType = 2 then
    let node ← assertValue GlobalKPMnode.engNB? header.globalKPMnodeID
    readGlobalengNBID node
  else if header.globalKPMnodeIDType = 3 then
    let node ← assertValue GlobalKPMnode.ngeNB? header.globalKPMnodeID
    readGlobalngeNBID node
  else if header.globalKPMnodeIDType = 4 then
    let node ← assertValue GlobalKPMnode.eNB? header.globalKPMnodeID
    readGlobaleNBID node

end HeaderConsumer

/-- What the rest of `handleIndication` takes from the header. -/
structure HeaderValues where
  cellIDHdr : String
  plmnIDHdr : String
  sliceIDHdr : Int
  fiveQIHdr : Int
  deriving DecidableEq, Repr

open HeaderConsumer in
/-- The header part of `handleIndication`: a panic is a fault, a return an error. -/
def handleIndicationHeader (indicationHdr : IndicationHeader) : Run HeaderValues :=
  if indicationHdr.indHdrType = 1 then do
    let indHdrFormat1 ← assertPointer indicationHdr.indHdr
    readGlobalKPMnodeID indHdrFormat1
    let cellIDHdr ← ifPresent indHdrFormat1.nRCGI "" parseNRCGI
    let plmnIDHdr ← ifPresent indHdrFormat1.plmnID "" parsePlmnID
    let sliceIDHdr ← ifPresent indHdrFormat1.sliceID (-1) parseSliceID
    pure { cellIDHdr, plmnIDHdr, sliceIDHdr, fiveQIHdr := indHdrFormat1.fiveQI }
  else
    .error (.error ("Unknown RIC Indication Header Format: " ++ toString indicationHdr.indHdrType))

/-- A recorded size that is small is the length of its buffer. -/
def Measured (buf : List UInt8) (size : Int) : Prop :=
  0 ≤ size → size < 2 ^ 31 → (buf.length : Int) = size

/-- What the decoder guarantees of a header: node structs stand behind pointers, and the
sizes that the parsers check are true. -/
structure Stored (header : IndicationHeaderFormat1) : Prop where
  node : ∀ content, header.globalKPMnodeID ≠ .value content
  cellPlmn : ∀ nRCGI, header.nRCGI = some nRCGI → Measured nRCGI.plmnID.buf nRCGI.plmnID.size
  cell : ∀ nRCGI, header.nRCGI = some nRCGI → Measured nRCGI.nRCellID.buf nRCGI.nRCellID.size
  plmn : ∀ plmnID, header.plmnID = some plmnID → Measured plmnID.buf plmnID.size
  sD : ∀ sliceID, header.sliceID = some sliceID →
    ∀ sD, sliceID.sD = some sD → Measured sD.buf sD.size

namespace HeaderDecoder

variable {memory : Memory} {address : Nat}

theorem octetString_measured {octets : OctetString}
    (read : octetString memory address = .ok octets) : Measured octets.buf octets.size := by
  rcases bind_ok_iff.mp read with ⟨pointer, -, read⟩
  rcases bind_ok_iff.mp read with ⟨size, hsize, read⟩
  rcases bind_ok_iff.mp read with ⟨buf, hbuf, read⟩
  cases read
  change 0 ≤ signed 64 size → signed 64 size < 2 ^ 31 → (buf.length : Int) = signed 64 size
  intro nonneg small
  have hbounded : size < 2 ^ 64 := lt_of_lt_of_eq (load_lt (word_eq_ok_iff.mp hsize)) (by norm_num)
  have hvalue : (size : Int) = signed 64 size := eq_of_signed hbounded rfl nonneg
  have hlength : buf.length = size := goBytes_length hbuf (by omega)
  calc
    (buf.length : Int) = size := by rw [hlength]
    _ = signed 64 size := hvalue

theorem bitString_measured {bits : BitString}
    (read : bitString memory address = .ok bits) : Measured bits.buf bits.size := by
  rcases bind_ok_iff.mp read with ⟨octets, hoctets, read⟩
  rcases bind_ok_iff.mp read with ⟨unused, -, read⟩
  cases read
  exact octetString_measured hoctets

theorem nRCGI_measured {cell : NRCGIType} (read : nRCGI memory address = .ok cell) :
    Measured cell.plmnID.buf cell.plmnID.size ∧ Measured cell.nRCellID.buf cell.nRCellID.size := by
  rcases bind_ok_iff.mp read with ⟨plmnID, hplmn, read⟩
  rcases bind_ok_iff.mp read with ⟨nRCellID, hcell, read⟩
  cases read
  exact ⟨octetString_measured hplmn, bitString_measured hcell⟩

theorem sliceID_measured {slice : SliceIDType} (read : sliceID memory address = .ok slice) :
    ∀ sD, slice.sD = some sD → Measured sD.buf sD.size := by
  rcases bind_ok_iff.mp read with ⟨sST, -, read⟩
  rcases bind_ok_iff.mp read with ⟨optionalSD, hsD, read⟩
  cases read
  intro sD present
  rcases ifNotNull_eq_ok hsD sD present with ⟨target, htarget⟩
  exact octetString_measured htarget

/-- Every branch stores the address of its struct. -/
theorem globalKPMnodeID_not_value {node : Int × Interface GlobalKPMnode}
    (read : globalKPMnodeID memory address = .ok node) (content : GlobalKPMnode) :
    node.2 ≠ .value content := by
  rcases globalKPMnodeID_cases read with
    ⟨-, -, -, hnil | ⟨gNB, -, hgNB⟩ | ⟨engNB, -, hengNB⟩ | ⟨ngeNB, -, hngeNB⟩ | ⟨eNB, -, heNB⟩⟩
  · simp [hnil]
  · simp [hgNB]
  · simp [hengNB]
  · simp [hngeNB]
  · simp [heNB]

theorem indicationHeaderFormat1_stored {header : IndicationHeaderFormat1}
    (read : indicationHeaderFormat1 memory address = .ok header) : Stored header := by
  rcases indicationHeaderFormat1_fields read with ⟨⟨node, hnode, -, hid⟩, hcell, hplmn, hslice⟩
  constructor
  case node =>
    rw [hid]
    cases node with
    | none => simp
    | some node =>
        rcases ifNotNull_eq_ok hnode node rfl with ⟨target, htarget⟩
        exact globalKPMnodeID_not_value htarget
  case cellPlmn =>
    intro nRCGI present
    rcases ifNotNull_eq_ok hcell nRCGI present with ⟨target, htarget⟩
    exact (nRCGI_measured htarget).1
  case cell =>
    intro nRCGI present
    rcases ifNotNull_eq_ok hcell nRCGI present with ⟨target, htarget⟩
    exact (nRCGI_measured htarget).2
  case plmn =>
    intro plmnID present
    rcases ifNotNull_eq_ok hplmn plmnID present with ⟨target, htarget⟩
    exact octetString_measured htarget
  case sD =>
    intro sliceID present
    rcases ifNotNull_eq_ok hslice sliceID present with ⟨target, htarget⟩
    exact sliceID_measured htarget

end HeaderDecoder

namespace HeaderConsumer

theorem byteAt_of_lt {buffer : List UInt8} {index : Nat} (inside : index < buffer.length) :
    byteAt buffer index = .ok buffer[index] := by
  simp [byteAt, orFault, List.getElem?_eq_getElem inside]

theorem parsePLMNIdentity_ne_fault {buffer : List UInt8} {size : Int}
    (measured : Measured buffer size) : parsePLMNIdentity buffer size ≠ .error .fault := by
  unfold parsePLMNIdentity
  split
  · simp
  · next hsize =>
      have hsize : size = 3 := by omega
      subst hsize
      have hlength : (buffer.length : Int) = 3 := measured (by omega) (by omega)
      rw [byteAt_of_lt (by omega : 0 < buffer.length), byteAt_of_lt (by omega : 1 < buffer.length),
        byteAt_of_lt (by omega : 2 < buffer.length)]
      simp only [bind_ok]
      split
      · simp [pure, Except.pure]
      · simp [pure, Except.pure]

theorem ignoringError_ne_fault {Value : Type} {default : Value} {run : Run Value}
    (safe : run ≠ .error .fault) : ignoringError default run ≠ .error .fault := by
  cases run with
  | ok value => simp [ignoringError]
  | error stop =>
      cases stop with
      | fault => exact absurd rfl safe
      | error message => simp [ignoringError, pure, Except.pure]

theorem parseNRCGI_ne_fault {cell : NRCGIType}
    (plmnMeasured : Measured cell.plmnID.buf cell.plmnID.size)
    (cellMeasured : Measured cell.nRCellID.buf cell.nRCellID.size) :
    parseNRCGI cell ≠ .error .fault := by
  intro faulted
  rcases bind_fault_iff.mp faulted with hplmn | ⟨cellID, -, faulted⟩
  · exact ignoringError_ne_fault (parsePLMNIdentity_ne_fault plmnMeasured) hplmn
  · split at faulted
    · simp at faulted
    · next hsizes =>
        have hsize : cell.nRCellID.size = 5 := by omega
        have hlength : (cell.nRCellID.buf.length : Int) = 5 := by
          rw [← hsize]
          exact cellMeasured (by omega) (by omega)
        rw [byteAt_of_lt (by omega : 0 < cell.nRCellID.buf.length),
          byteAt_of_lt (by omega : 1 < cell.nRCellID.buf.length),
          byteAt_of_lt (by omega : 2 < cell.nRCellID.buf.length),
          byteAt_of_lt (by omega : 3 < cell.nRCellID.buf.length),
          byteAt_of_lt (by omega : 4 < cell.nRCellID.buf.length)] at faulted
        simp [pure, Except.pure] at faulted

theorem parseSliceID_ne_fault {slice : SliceIDType}
    (measured : ∀ sD, slice.sD = some sD → Measured sD.buf sD.size) :
    parseSliceID slice ≠ .error .fault := by
  unfold parseSliceID
  split
  · simp
  · next hsizes =>
      cases hsD : slice.sD with
      | none => simp [pure, Except.pure]
      | some sD =>
          have hsize : sD.size = 3 := by
            by_contra hne
            exact hsizes (.inr (by simp [hsD, hne]))
          have hlength : (sD.buf.length : Int) = 3 := by
            rw [← hsize]
            exact measured sD hsD (by omega) (by omega)
          dsimp only
          rw [byteAt_of_lt (by omega : 0 < sD.buf.length),
            byteAt_of_lt (by omega : 1 < sD.buf.length),
            byteAt_of_lt (by omega : 2 < sD.buf.length)]
          simp [pure, Except.pure]

theorem ifPresent_ne_fault {Content Value : Type} {content : Option Content} {absent : Value}
    {parse : Content → Run Value}
    (safe : ∀ present, content = some present → parse present ≠ .error .fault) :
    ifPresent content absent parse ≠ .error .fault := by
  cases content with
  | none => simp [ifPresent, pure, Except.pure]
  | some present => exact safe present rfl

theorem assertValue_fault {Content Result : Type} {select : Content → Option Result}
    {interface : Interface Content} (noValue : ∀ content, interface ≠ .value content) :
    assertValue select interface = .error .fault := by
  cases interface with
  | nil => rfl
  | value content => exact absurd rfl (noValue content)
  | pointer content => rfl

def Asserted (idType : Int) : Prop :=
  idType = 1 ∨ idType = 2 ∨ idType = 3 ∨ idType = 4

theorem readGlobalKPMnodeID_of_asserted {header : IndicationHeaderFormat1}
    (noValue : ∀ content, header.globalKPMnodeID ≠ .value content)
    (asserted : Asserted header.globalKPMnodeIDType) :
    readGlobalKPMnodeID header = .error .fault := by
  unfold readGlobalKPMnodeID
  rcases asserted with htype | htype | htype | htype
  · simp [htype, assertValue_fault noValue]
  · simp [htype, assertValue_fault noValue]
  · simp [htype, assertValue_fault noValue]
  · simp [htype, assertValue_fault noValue]

theorem readGlobalKPMnodeID_of_not_asserted {header : IndicationHeaderFormat1}
    (unasserted : ¬ Asserted header.globalKPMnodeIDType) :
    readGlobalKPMnodeID header = .ok () := by
  simp only [Asserted, not_or] at unasserted
  rcases unasserted with ⟨hgNB, hengNB, hngeNB, heNB⟩
  simp [readGlobalKPMnodeID, hgNB, hengNB, hngeNB, heNB, pure, Except.pure]

end HeaderConsumer

open HeaderConsumer in
/-- Past the node id nothing panics, since each parser checks the sizes it relies on. -/
theorem handleIndicationHeader_fault_iff {header : IndicationHeaderFormat1}
    (stored : Stored header) :
    handleIndicationHeader { indHdrType := 1, indHdr := .pointer header } = .error .fault ↔
      Asserted header.globalKPMnodeIDType := by
  constructor
  · intro faulted
    by_contra unasserted
    have hnode := readGlobalKPMnodeID_of_not_asserted unasserted
    simp only [handleIndicationHeader, if_true, assertPointer, pure_bind, hnode, bind_ok] at faulted
    rcases bind_fault_iff.mp faulted with hcell | ⟨cellIDHdr, -, faulted⟩
    · refine ifPresent_ne_fault ?_ hcell
      intro nRCGI present
      exact parseNRCGI_ne_fault (stored.cellPlmn nRCGI present) (stored.cell nRCGI present)
    rcases bind_fault_iff.mp faulted with hplmn | ⟨plmnIDHdr, -, faulted⟩
    · refine ifPresent_ne_fault ?_ hplmn
      intro plmnID present
      exact parsePLMNIdentity_ne_fault (stored.plmn plmnID present)
    rcases bind_fault_iff.mp faulted with hslice | ⟨sliceIDHdr, -, faulted⟩
    · refine ifPresent_ne_fault ?_ hslice
      intro sliceID present
      exact parseSliceID_ne_fault (stored.sD sliceID present)
    · simp [pure, Except.pure] at faulted
  · intro asserted
    have hnode := readGlobalKPMnodeID_of_asserted stored.node asserted
    simp only [handleIndicationHeader, if_true, assertPointer, pure_bind, hnode, bind_error]

theorem asserted_nodeTag_iff (node : Option CGlobalKPMnode) :
    HeaderConsumer.Asserted (nodeTag node) ↔ node ≠ none := by
  have hsmall : nodeTag node < 5 := nodeTag_lt node
  rw [ne_eq, ← nodeTag_eq_zero_iff]
  unfold HeaderConsumer.Asserted
  omega

/-- On what the decoder made of a header, the consumer survives only where no node id was
present: the decoder stores pointers and the consumer asserts structs. -/
theorem handleIndicationHeader_safe_iff {memory : Memory} {decodedHdr : Nat}
    {decoded : CIndicationHeader} {indicationHdr : IndicationHeader}
    (laid : Layout.HeaderAt memory decodedHdr decoded)
    (copied : getIndicationHeader memory (some decodedHdr) = .ok indicationHdr) :
    handleIndicationHeader indicationHdr ≠ .error .fault ↔ decoded.node = none := by
  rcases getIndicationHeader_of_headerAt laid with ⟨format1, hformat1, hread⟩
  rw [hread] at copied
  rcases bind_ok_iff.mp copied with ⟨header, hheader, copied⟩
  obtain rfl := pure_ok_iff.mp copied
  have hstored : Stored header := HeaderDecoder.indicationHeaderFormat1_stored hheader
  have htype : header.globalKPMnodeIDType = nodeTag decoded.node :=
    indicationHeaderFormat1_type hformat1 hheader
  rw [ne_eq, handleIndicationHeader_fault_iff hstored, htype, asserted_nodeTag_iff, not_not]

theorem handleIndicationHeader_safe_iff_gNB :
    handleIndicationHeader gNBIndicationHeader ≠ .error .fault ↔ gNBHeader.node = none :=
  handleIndicationHeader_safe_iff gNBMemory_laid gNBMemory_copied

/-- The header of a gNB is copied without an error and then panics its consumer. -/
theorem gNBHeader_panics :
    Layout.HeaderAt gNBMemory 4096 gNBHeader ∧
      getIndicationHeader gNBMemory (some 4096) = .ok gNBIndicationHeader ∧
      handleIndicationHeader gNBIndicationHeader = .error .fault :=
  ⟨gNBMemory_laid, gNBMemory_copied, by decide +kernel⟩

end NearRtRic.Kpimon
