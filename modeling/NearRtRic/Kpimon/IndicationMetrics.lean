import NearRtRic.Kpimon.HeaderAssertions
import NearRtRic.Kpimon.MessageDecoding
import NearRtRic.Library.Journal

/-! The metrics records that `handleIndication` writes for the PM containers of a message. -/

namespace NearRtRic.Kpimon

open NearRtRic.CMemory NearRtRic.Journal HeaderConsumer

structure Timestamp where
  tVsec : Int := 0
  tVnsec : Int := 0
  deriving DecidableEq, Repr

structure CellMetricsEntry where
  measTimestampPDCPBytes : Timestamp := {}
  pDCPBytesDL : Int := 0
  pDCPBytesUL : Int := 0
  measTimestampPRB : Timestamp := {}
  availPRBDL : Int := 0
  availPRBUL : Int := 0
  measPeriodPDCP : Int := 0
  measPeriodPRB : Int := 0
  nRPlmnID : List UInt8 := []
  nRCellID : List UInt8 := []
  totalofAvailablePRBsDL : Int := 0
  totalofAvailablePRBsUL : Int := 0
  cellID : String := ""
  deriving DecidableEq, Repr

structure CellRFType where
  rSRP : Int := 0
  rSRQ : Int := 0
  rSSINR : Int := 0
  deriving DecidableEq, Repr

structure NeighborCellRFType where
  cellID : String := ""
  cellRF : CellRFType := {}
  deriving DecidableEq, Repr

/-- The slice of neighbour cells is told apart from a nil one. -/
structure UeMetricsEntry where
  ueID : Int := 0
  servingCellID : String := ""
  measTimestampPDCPBytes : Timestamp := {}
  pDCPBytesDLDL : Int := 0
  pDCPBytesULUL : Int := 0
  measTimestampPRB : Timestamp := {}
  pRBUsageDL : Int := 0
  pRBUsageUL : Int := 0
  measTimeRF : Timestamp := {}
  servingCellRF : CellRFType := {}
  neighborCellsRF : Option (List NeighborCellRFType) := none
  qCI : Int := 0
  fiveQI : Int := 0
  cellID : String := ""
  measPeriodPRB : Int := 0
  measPeriodPDCP : Int := 0
  measPeriodRF : Int := 0
  numberOfActiveUEs : Int := 0
  pDCPBytesDL : List UInt8 := []
  pDCPBytesUL : List UInt8 := []
  nRPlmnID : List UInt8 := []
  nRCellID : List UInt8 := []
  deriving DecidableEq, Repr

/-- A call of `writeUeMetrics_db` or `writeCellMetrics_db`; the call at the end of a PM
container is told apart and named with its container. -/
inductive Write
  | ueMetrics (ueMetrics : UeMetricsEntry)
  | cellMetrics (cellMetrics : CellMetricsEntry)
  | headerCellMetrics (pmContainer : PMContainerType) (cellMetrics : CellMetricsEntry)
  deriving DecidableEq

abbrev Handling (Value : Type) := Journaled Write Value

/-- The variables that are reset for every PM container. The two time stamps among them are
set only from a RAN container. -/
structure Pending where
  flag : Bool
  dlPDCPBytes : Int
  ulPDCPBytes : Int
  availPRBDL : Int
  availPRBUL : Int
  deriving DecidableEq, Repr

def Pending.reset : Pending where
  flag := false
  dlPDCPBytes := -1
  ulPDCPBytes := -1
  availPRBDL := -1
  availPRBUL := -1

def Pending.raise (pending : Pending) (found : Bool) : Pending :=
  if found then { pending with flag := true } else pending

/-- One turn of the loop in `ParseInteger`: an `int64` wraps around. -/
def appendOctet (value : Int) (octet : UInt8) : Int :=
  (value * 256 + octet.toNat).bmod (2 ^ 64)

def parseInteger (buffer : List UInt8) (size : Int) : Run Int :=
  if size ≤ buffer.length then
    pure ((buffer.take size.toNat).foldl appendOctet 0)
  else
    .error .fault

/-- `continue` with the given state where a parser returns an error. -/
def orContinue {Value State : Type} (parsed : Run Value) (state : State)
    (next : Value → Handling State) : Handling State :=
  match parsed with
  | .ok value => next value
  | .error .fault => lift (.error .fault)
  | .error (.error _) => pure state

def ifNotNil {Content State : Type} (content : Option Content) (state : State)
    (body : Content → Handling State) : Handling State :=
  match content with
  | some content => body content
  | none => pure state

def assertStruct {Content Result : Type} (select : Content → Option Result)
    (interface : Interface Content) : Run Result := do
  let content ← assertPointer interface
  orFault (select content)

def PFContainerContent.oDU? : PFContainerContent → Option ODUPFContainerType
  | .oDU container => some container
  | _ => none

def PFContainerContent.oCUCP? : PFContainerContent → Option OCUCPPFContainerType
  | .oCUCP container => some container
  | _ => none

def PFContainerContent.oCUUP? : PFContainerContent → Option OCUUPPFContainerType
  | .oCUUP container => some container
  | _ => none

namespace MetricsLoops

def fQIPERSlicesPerPlmnPerCell (ueMetrics : UeMetricsEntry)
    (item : FQIPERSlicesPerPlmnPerCellType) : Handling UeMetricsEntry := do
  -- the downlink usage is written to the field of the uplink, and overwritten there
  let ueMetrics := { ueMetrics with fiveQI := item.fiveQI, pRBUsageUL := item.prbUsage.dl }
  let ueMetrics := { ueMetrics with pRBUsageUL := item.prbUsage.ul }
  write (.ueMetrics ueMetrics)
  pure ueMetrics

def perQCIReport (ueMetrics : UeMetricsEntry) (item : DUPMEPCPerQCIReportType) :
    Handling UeMetricsEntry := do
  let ueMetrics := { ueMetrics with
    qCI := item.qci, pRBUsageDL := item.prbUsage.dl, pRBUsageUL := item.prbUsage.ul }
  write (.ueMetrics ueMetrics)
  pure ueMetrics

def slicePerPlmnPerCell (ueMetrics : UeMetricsEntry) (slice : SlicePerPlmnPerCellType) :
    Handling UeMetricsEntry :=
  forEach fQIPERSlicesPerPlmnPerCell ueMetrics slice.fQIPERSlicesPerPlmnPerCells

def servedPlmnPerCell (ueMetrics : UeMetricsEntry) (served : ServedPlmnPerCellType) :
    Handling UeMetricsEntry := do
  let ueMetrics ← ifNotNil served.duPM5GC ueMetrics fun duPM5GC =>
    forEach slicePerPlmnPerCell ueMetrics duPM5GC.slicePerPlmnPerCells
  ifNotNil served.duPMEPC ueMetrics fun duPMEPC =>
    forEach perQCIReport ueMetrics duPMEPC.perQCIReports

variable (hdr : HeaderValues)

def cellResourceReport (pending : Pending) (report : CellResourceReportType) :
    Handling Pending :=
  let nRPlmnID := report.nRCGI.plmnID.buf
  let nRCellID := report.nRCGI.nRCellID.buf
  let total := report.totalofAvailablePRBs
  orContinue (parseNRCGI report.nRCGI) pending fun cellID => do
    let ueMetrics : UeMetricsEntry := { nRPlmnID, nRCellID, cellID }
    write (.ueMetrics ueMetrics)
    let pending := pending.raise (cellID = hdr.cellIDHdr)
    write (.cellMetrics
      { nRPlmnID, nRCellID, cellID
        totalofAvailablePRBsDL := total.dl, totalofAvailablePRBsUL := total.ul
        measPeriodPDCP := 20 })
    let pending := if pending.flag then
      { pending with availPRBDL := total.dl, availPRBUL := total.ul } else pending
    let _ ← forEach servedPlmnPerCell ueMetrics report.servedPlmnPerCells
    pure pending

def oDU (pending : Pending) (container : ODUPFContainerType) : Handling Pending :=
  forEach (cellResourceReport hdr) pending container.cellResourceReports

def oCUCP (pending : Pending) (container : OCUCPPFContainerType) : Handling Pending := do
  write (.ueMetrics { numberOfActiveUEs := container.cuCPResourceStatus.numberOfActiveUEs })
  pure pending

/-- The bytes of one direction, read where the flag is set. -/
def pdcpBytes (flag : Bool) (current : Int) (bytes : Option Integer) : Run Int :=
  match bytes with
  | some integer => if flag then parseInteger integer.buf integer.size else pure current
  | none => pure current

def fQIPERSlicesPerPlmn (plmnID : String) (sliceID : Int) (pending : Pending)
    (item : FQIPERSlicesPerPlmnType) : Handling Pending := do
  write (.ueMetrics { fiveQI := item.fiveQI })
  let pending := pending.raise
    (plmnID = hdr.plmnIDHdr ∧ sliceID = hdr.sliceIDHdr ∧ item.fiveQI = hdr.fiveQIHdr)
  let dlPDCPBytes ← lift (pdcpBytes pending.flag pending.dlPDCPBytes item.pDCPBytesDL)
  let ulPDCPBytes ← lift (pdcpBytes pending.flag pending.ulPDCPBytes item.pDCPBytesUL)
  pure { pending with dlPDCPBytes, ulPDCPBytes }

def sliceToReport (plmnID : String) (pending : Pending) (slice : SliceToReportType) :
    Handling Pending :=
  orContinue (parseSliceID slice.sliceID) pending fun sliceID =>
    forEach (fQIPERSlicesPerPlmn hdr plmnID sliceID) pending slice.fQIPERSlicesPerPlmns

def cuUPPMEPCPerQCIReport (_ : Unit) (item : CUUPPMEPCPerQCIReportType) : Handling Unit :=
  write (.ueMetrics
    { qCI := item.qci
      pDCPBytesDL := (item.pDCPBytesDL.map OctetString.buf).getD []
      pDCPBytesUL := (item.pDCPBytesUL.map OctetString.buf).getD [] })

def cuUPPlmn (pending : Pending) (plmn : CUUPPlmnType) : Handling Pending :=
  orContinue (parsePlmnID plmn.plmnID) pending fun plmnID => do
    let pending ← ifNotNil plmn.cuUPPM5GC pending fun cuUPPM5GC =>
      forEach (sliceToReport hdr plmnID) pending cuUPPM5GC.sliceToReports
    ifNotNil plmn.cuUPPMEPC () fun cuUPPMEPC =>
      forEach cuUPPMEPCPerQCIReport () cuUPPMEPC.perQCIReports
    pure pending

def cuUPPFContainerItem (pending : Pending) (item : CUUPPFContainerItemType) :
    Handling Pending :=
  forEach (cuUPPlmn hdr) pending item.oCUUPPMContainer.cuUPPlmns

def oCUUP (pending : Pending) (container : OCUUPPFContainerType) : Handling Pending :=
  forEach (cuUPPFContainerItem hdr) pending container.cuUPPFContainerItems

/-- A container of an unknown type is left with `continue`. -/
def pfContainer (container : PFContainerType) : Handling (Option Pending) := do
  if container.containerType = 1 then
    let oDUContainer ← lift (assertStruct PFContainerContent.oDU? container.container)
    let pending ← oDU hdr .reset oDUContainer
    pure (some pending)
  else if container.containerType = 2 then
    let oCUCPContainer ← lift (assertStruct PFContainerContent.oCUCP? container.container)
    let pending ← oCUCP .reset oCUCPContainer
    pure (some pending)
  else if container.containerType = 3 then
    let oCUUPContainer ← lift (assertStruct PFContainerContent.oCUUP? container.container)
    let pending ← oCUUP hdr .reset oCUUPContainer
    pure (some pending)
  else
    pure none

end MetricsLoops

/-- A variable that is still -1 is not written, and the field of the record stays zero. -/
def unlessMinusOne (value : Int) : Int :=
  if value ≠ -1 then value else 0

def Pending.cellMetrics (pending : Pending) : CellMetricsEntry where
  measPeriodPDCP := 20
  measPeriodPRB := 20
  pDCPBytesDL := unlessMinusOne pending.dlPDCPBytes
  pDCPBytesUL := unlessMinusOne pending.ulPDCPBytes
  availPRBDL := unlessMinusOne pending.availPRBDL
  availPRBUL := unlessMinusOne pending.availPRBUL

open MetricsLoops in
/-- The branch on a RAN container is left out: no decoded message has one. -/
def handlePMContainer (hdr : HeaderValues) (_ : Unit) (container : PMContainerType) :
    Handling Unit := do
  let pending ← ifNotNil container.pfContainer (some .reset) (pfContainer hdr)
  match pending with
  | some pending =>
      if pending.flag then write (.headerCellMetrics container pending.cellMetrics)
  | none => pure ()

/-- The part of `handleIndication` behind the header. -/
def handleIndicationMessage (hdr : HeaderValues) (indMsg : IndicationMessage) : Handling Unit :=
  if indMsg.indMsgType = 1 then do
    let indMsgFormat1 ← lift (assertPointer indMsg.indMsg)
    forEach (handlePMContainer hdr) () indMsgFormat1.pmContainers
  else
    lift (.error (.error
      ("Unknown RIC Indication Message Format: " ++ toString indMsg.indMsgType)))

/-- `handleIndication` of the decoded header and message. -/
def handleIndication (indicationHdr : Run IndicationHeader)
    (decodedMsg : Option CIndicationMessage) : Handling Unit := do
  let indicationHdr ← lift indicationHdr
  let hdr ← lift (handleIndicationHeader indicationHdr)
  let indMsg ← lift (getIndicationMessage decodedMsg)
  handleIndicationMessage hdr indMsg

end NearRtRic.Kpimon
