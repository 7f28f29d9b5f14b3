import NearRtRic.Kpimon.HeaderDecoding
import NearRtRic.Library.FixedArray

/-! The E2SM-KPM indication message: what the C decoder answers and the Go structure that
is copied from it. -/

namespace NearRtRic.Kpimon

open NearRtRic.CMemory NearRtRic.FixedArray

/-! The pointers of the decoded structure are followed where they are stored, so that it can be
given by its contents. The decoder checks no bound of a list: it takes as many items as the
length determinant says. -/

/-- An item for a 5QI or a QCI with its optional PRB usage. -/
structure CPRBItem where
  index : Nat
  dl : Option Nat
  ul : Option Nat
  deriving DecidableEq

/-- An item for a 5QI or a QCI with its optional PDCP volumes. -/
structure CPDCPItem where
  index : Nat
  dl : Option Octets
  ul : Option Octets

structure CSlicePerPlmnPerCell where
  sliceID : CSliceID
  fQIPERSlicesPerPlmnPerCellList : List CPRBItem

structure CServedPlmnPerCell where
  plmn : PlmnIdentity
  duPM5GC : Option (List CSlicePerPlmnPerCell)
  duPMEPC : Option (List CPRBItem)

structure CCellResourceReport where
  nRCGI : CNRCGI
  dlTotalofAvailablePRBs : Option Nat
  ulTotalofAvailablePRBs : Option Nat
  servedPlmnPerCellList : List CServedPlmnPerCell

structure CSliceToReport where
  sliceID : CSliceID
  fQIPERSlicesPerPlmnList : List CPDCPItem

structure CCUUPPlmn where
  plmn : PlmnIdentity
  cuUPPM5GC : Option (List CSliceToReport)
  cuUPPMEPC : Option (List CPDCPItem)

structure CPFContainerItem where
  interfaceType : Nat
  plmnList : List CCUUPPlmn

inductive CPFContainer
  | oDU (cellResourceReportList : List CCellResourceReport)
  | oCUCP (gNBCUCPName : Option Octets) (numberOfActiveUEs : Option Int)
  | oCUUP (gNBCUUPName : Option Octets) (pfContainerList : List CPFContainerItem)
  | unknown

/-- `theRANContainer` is an octet string, which the C decoder leaves as it is. -/
structure CPMContainer where
  performanceContainer : Option CPFContainer
  theRANContainer : Option Octets

inductive CMessageFormat
  | format1 (pmContainers : List CPMContainer)
  | unknown

structure CIndicationMessage where
  ricStyleType : Int
  indicationMessage : CMessageFormat

/-! In the Go structures an array with its count is given by the entries in front of the count. -/

structure IntPair64 where
  dl : Int
  ul : Int
  deriving DecidableEq, Repr

structure FQIPERSlicesPerPlmnPerCellType where
  fiveQI : Int
  prbUsage : IntPair64
  deriving DecidableEq, Repr

structure SlicePerPlmnPerCellType where
  sliceID : SliceIDType
  fQIPERSlicesPerPlmnPerCells : List FQIPERSlicesPerPlmnPerCellType
  fQIPERSlicesPerPlmnPerCellCount : Nat
  deriving DecidableEq, Repr

structure DUPM5GCContainerType where
  slicePerPlmnPerCells : List SlicePerPlmnPerCellType
  slicePerPlmnPerCellCount : Nat
  deriving DecidableEq, Repr

structure DUPMEPCPerQCIReportType where
  qci : Int
  prbUsage : IntPair64
  deriving DecidableEq, Repr

structure DUPMEPCContainerType where
  perQCIReports : List DUPMEPCPerQCIReportType
  perQCIReportCount : Nat
  deriving DecidableEq, Repr

structure ServedPlmnPerCellType where
  plmnID : OctetString
  duPM5GC : Option DUPM5GCContainerType
  duPMEPC : Option DUPMEPCContainerType
  deriving DecidableEq, Repr

structure CellResourceReportType where
  nRCGI : NRCGIType
  totalofAvailablePRBs : IntPair64
  servedPlmnPerCells : List ServedPlmnPerCellType
  servedPlmnPerCellCount : Nat
  deriving DecidableEq, Repr

structure ODUPFContainerType where
  cellResourceReports : List CellResourceReportType
  cellResourceReportCount : Nat
  deriving DecidableEq, Repr

structure CUCPResourceStatusType where
  numberOfActiveUEs : Int
  deriving DecidableEq, Repr

structure OCUCPPFContainerType where
  gNBCUCPName : Option OctetString
  cuCPResourceStatus : CUCPResourceStatusType
  deriving DecidableEq, Repr

structure FQIPERSlicesPerPlmnType where
  fiveQI : Int
  pDCPBytesDL : Option Integer
  pDCPBytesUL : Option Integer
  deriving DecidableEq, Repr

structure SliceToReportType where
  sliceID : SliceIDType
  fQIPERSlicesPerPlmns : List FQIPERSlicesPerPlmnType
  fQIPERSlicesPerPlmnCount : Nat
  deriving DecidableEq, Repr

structure CUUPPM5GCType where
  sliceToReports : List SliceToReportType
  sliceToReportCount : Nat
  deriving DecidableEq, Repr

structure CUUPPMEPCPerQCIReportType where
  qci : Int
  pDCPBytesDL : Option Integer
  pDCPBytesUL : Option Integer
  deriving DecidableEq, Repr

structure CUUPPMEPCType where
  perQCIReports : List CUUPPMEPCPerQCIReportType
  perQCIReportCount : Nat
  deriving DecidableEq, Repr

structure CUUPPlmnType where
  plmnID : OctetString
  cuUPPM5GC : Option CUUPPM5GCType
  cuUPPMEPC : Option CUUPPMEPCType
  deriving DecidableEq, Repr

structure CUUPMeasurementContainerType where
  cuUPPlmns : List CUUPPlmnType
  cuUPPlmnCount : Nat
  deriving DecidableEq, Repr

structure CUUPPFContainerItemType where
  interfaceType : Int
  oCUUPPMContainer : CUUPMeasurementContainerType
  deriving DecidableEq, Repr

structure OCUUPPFContainerType where
  gNBCUUPName : Option OctetString
  cuUPPFContainerItems : List CUUPPFContainerItemType
  cuUPPFContainerItemCount : Nat
  deriving DecidableEq, Repr

inductive PFContainerContent
  | oDU (container : ODUPFContainerType)
  | oCUCP (container : OCUCPPFContainerType)
  | oCUUP (container : OCUUPPFContainerType)
  deriving DecidableEq, Repr

structure PFContainerType where
  containerType : Int
  container : Interface PFContainerContent
  deriving DecidableEq, Repr

/-- The usage reports that the interface of a RAN container may hold are left out: nothing
that decodes a message builds one. -/
structure RANContainerType where
  timestamp : OctetString
  containerType : Int
  deriving DecidableEq, Repr

structure PMContainerType where
  pfContainer : Option PFContainerType
  ranContainer : Option RANContainerType
  deriving DecidableEq, Repr

structure IndicationMessageFormat1 where
  pmContainers : List PMContainerType
  pmContainerCount : Nat
  deriving DecidableEq, Repr

structure IndicationMessage where
  styleType : Int
  indMsgType : Int
  indMsg : Interface IndicationMessageFormat1
  deriving DecidableEq, Repr

namespace MessageDecoder

/-- An optional integer, -1 where it is absent. -/
def orMinusOne (value : Option Nat) : Int :=
  (value.map Int.ofNat).getD (-1)

def prbUsage (item : CPRBItem) : IntPair64 where
  dl := orMinusOne item.dl
  ul := orMinusOne item.ul

def fQIPERSlicesPerPlmnPerCell (item : CPRBItem) : Run FQIPERSlicesPerPlmnPerCellType :=
  pure { fiveQI := item.index, prbUsage := prbUsage item }

def duPMEPCPerQCIReport (item : CPRBItem) : Run DUPMEPCPerQCIReportType :=
  pure { qci := item.index, prbUsage := prbUsage item }

def fQIPERSlicesPerPlmn (item : CPDCPItem) : Run FQIPERSlicesPerPlmnType :=
  pure
    { fiveQI := item.index
      pDCPBytesDL := item.dl.map Octets.toGo, pDCPBytesUL := item.ul.map Octets.toGo }

def cuUPPMEPCPerQCIReport (item : CPDCPItem) : Run CUUPPMEPCPerQCIReportType :=
  pure
    { qci := item.index
      pDCPBytesDL := item.dl.map Octets.toGo, pDCPBytesUL := item.ul.map Octets.toGo }

def slicePerPlmnPerCell (slice : CSlicePerPlmnPerCell) : Run SlicePerPlmnPerCellType := do
  let items := slice.fQIPERSlicesPerPlmnPerCellList
  let entries ← fill 64 fQIPERSlicesPerPlmnPerCell items
  pure
    { sliceID := slice.sliceID.toGo
      fQIPERSlicesPerPlmnPerCells := entries
      fQIPERSlicesPerPlmnPerCellCount := items.length }

def duPM5GC (slices : List CSlicePerPlmnPerCell) : Run DUPM5GCContainerType := do
  let entries ← fill 1024 slicePerPlmnPerCell slices
  pure { slicePerPlmnPerCells := entries, slicePerPlmnPerCellCount := slices.length }

def duPMEPC (items : List CPRBItem) : Run DUPMEPCContainerType := do
  let entries ← fill 256 duPMEPCPerQCIReport items
  pure { perQCIReports := entries, perQCIReportCount := items.length }

/-- The branch on an optional pointer. -/
def ifSome {Content Value : Type} (copy : Content → Run Value) :
    Option Content → Run (Option Value)
  | none => pure none
  | some content => do
      let value ← copy content
      pure (some value)

def servedPlmnPerCell (served : CServedPlmnPerCell) : Run ServedPlmnPerCellType := do
  let duPM5GC ← ifSome duPM5GC served.duPM5GC
  let duPMEPC ← ifSome duPMEPC served.duPMEPC
  pure { plmnID := served.plmn.octets.toGo, duPM5GC, duPMEPC }

/-- The zero value that the array was made of. -/
def emptyServedPlmn : ServedPlmnPerCellType where
  plmnID := { buf := [], size := 0 }
  duPM5GC := none
  duPMEPC := none

/-- The loop takes the array's entry by value: what it fills is its own copy. -/
def servedPlmnPerCellEntry (served : CServedPlmnPerCell) : Run ServedPlmnPerCellType := do
  let _ ← servedPlmnPerCell served
  pure emptyServedPlmn

def cellResourceReport (cell : CCellResourceReport) : Run CellResourceReportType := do
  let entries ← fill 12 servedPlmnPerCellEntry cell.servedPlmnPerCellList
  pure
    { nRCGI := cell.nRCGI.toGo
      totalofAvailablePRBs :=
        { dl := orMinusOne cell.dlTotalofAvailablePRBs
          ul := orMinusOne cell.ulTotalofAvailablePRBs }
      servedPlmnPerCells := entries
      servedPlmnPerCellCount := cell.servedPlmnPerCellList.length }

def oDUPF (cells : List CCellResourceReport) : Run ODUPFContainerType := do
  let entries ← fill 512 cellResourceReport cells
  pure { cellResourceReports := entries, cellResourceReportCount := cells.length }

/-- The number of active UEs has no branch for its absence and stays zero. -/
def oCUCPPF (gNBCUCPName : Option Octets) (numberOfActiveUEs : Option Int) :
    OCUCPPFContainerType where
  gNBCUCPName := gNBCUCPName.map Octets.toGo
  cuCPResourceStatus := { numberOfActiveUEs := numberOfActiveUEs.getD 0 }

def sliceToReport (slice : CSliceToReport) : Run SliceToReportType := do
  let items := slice.fQIPERSlicesPerPlmnList
  let entries ← fill 64 fQIPERSlicesPerPlmn items
  pure
    { sliceID := slice.sliceID.toGo
      fQIPERSlicesPerPlmns := entries
      fQIPERSlicesPerPlmnCount := items.length }

def cuUPPM5GC (slices : List CSliceToReport) : Run CUUPPM5GCType := do
  let entries ← fill 1024 sliceToReport slices
  pure { sliceToReports := entries, sliceToReportCount := slices.length }

def cuUPPMEPC (items : List CPDCPItem) : Run CUUPPMEPCType := do
  let entries ← fill 256 cuUPPMEPCPerQCIReport items
  pure { perQCIReports := entries, perQCIReportCount := items.length }

def cuUPPlmn (plmn : CCUUPPlmn) : Run CUUPPlmnType := do
  let cuUPPM5GC ← ifSome cuUPPM5GC plmn.cuUPPM5GC
  let cuUPPMEPC ← ifSome cuUPPMEPC plmn.cuUPPMEPC
  pure { plmnID := plmn.plmn.octets.toGo, cuUPPM5GC, cuUPPMEPC }

def cuUPPFContainer (item : CPFContainerItem) : Run CUUPPFContainerItemType := do
  let entries ← fill 12 cuUPPlmn item.plmnList
  pure
    { interfaceType := item.interfaceType
      oCUUPPMContainer := { cuUPPlmns := entries, cuUPPlmnCount := item.plmnList.length } }

def oCUUPPF (gNBCUUPName : Option Octets) (items : List CPFContainerItem) :
    Run OCUUPPFContainerType := do
  let entries ← fill 3 cuUPPFContainer items
  pure
    { gNBCUUPName := gNBCUUPName.map Octets.toGo
      cuUPPFContainerItems := entries
      cuUPPFContainerItemCount := items.length }

def pfContainer : CPFContainer → Run PFContainerType
  | .oDU cells => do
      let container ← oDUPF cells
      pure { containerType := 1, container := .pointer (.oDU container) }
  | .oCUCP gNBCUCPName numberOfActiveUEs =>
      pure
        { containerType := 2
          container := .pointer (.oCUCP (oCUCPPF gNBCUCPName numberOfActiveUEs)) }
  | .oCUUP gNBCUUPName items => do
      let container ← oCUUPPF gNBCUUPName items
      pure { containerType := 3, container := .pointer (.oCUUP container) }
  | .unknown => .error (.error "Unknown PF Container type")

/-- `theRANContainer` is not looked at. -/
def pmContainer (container : CPMContainer) : Run PMContainerType := do
  let pfContainer ← ifSome pfContainer container.performanceContainer
  pure { pfContainer, ranContainer := none }

end MessageDecoder

/-- `GetIndicationMessage` after the call of the C decoder. -/
def getIndicationMessage (decodedMsg : Option CIndicationMessage) : Run IndicationMessage :=
  match decodedMsg with
  | none =>
      .error (.error
        "e2sm wrapper is unable to get IndicationMessage due to wrong or invalid input")
  | some decodedMsg =>
      match decodedMsg.indicationMessage with
      | .format1 pmContainers => do
          let entries ← fill 8 MessageDecoder.pmContainer pmContainers
          pure
            { styleType := decodedMsg.ricStyleType
              indMsgType := 1
              indMsg := .pointer
                { pmContainers := entries, pmContainerCount := pmContainers.length } }
      | .unknown => .error (.error "Unknown RIC Indication Message Format")

end NearRtRic.Kpimon
