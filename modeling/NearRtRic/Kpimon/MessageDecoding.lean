import NearRtRic.Kpimon.IndicationMessage

/-! How much of a decoded indication message reaches the Go structure. -/

namespace NearRtRic.Kpimon

open NearRtRic.CMemory NearRtRic.FixedArray

/-- An integer field keeps an optional integer that is never negative. -/
def IntFaithful : Option Nat → Int → Prop
  | none, copy => copy = -1
  | some value, copy => copy = value

/-- An array with its count keeps a list: as many entries, in their order. -/
def ListFaithful {Item Entry : Type} (R : Item → Entry → Prop) (items : List Item)
    (entries : List Entry) (count : Nat) : Prop :=
  count = items.length ∧ List.Forall₂ R items entries

structure PRBFaithful (item : CPRBItem) (copy : IntPair64) : Prop where
  dl : IntFaithful item.dl copy.dl
  ul : IntFaithful item.ul copy.ul

structure FQIPERSlicesPerPlmnPerCellFaithful (item : CPRBItem)
    (copy : FQIPERSlicesPerPlmnPerCellType) : Prop where
  fiveQI : copy.fiveQI = item.index
  prbUsage : PRBFaithful item copy.prbUsage

structure DUPMEPCPerQCIReportFaithful (item : CPRBItem) (copy : DUPMEPCPerQCIReportType) :
    Prop where
  qci : copy.qci = item.index
  prbUsage : PRBFaithful item copy.prbUsage

structure FQIPERSlicesPerPlmnFaithful (item : CPDCPItem) (copy : FQIPERSlicesPerPlmnType) :
    Prop where
  fiveQI : copy.fiveQI = item.index
  dl : copy.pDCPBytesDL = item.dl.map Octets.toGo
  ul : copy.pDCPBytesUL = item.ul.map Octets.toGo

structure CUUPPMEPCPerQCIReportFaithful (item : CPDCPItem) (copy : CUUPPMEPCPerQCIReportType) :
    Prop where
  qci : copy.qci = item.index
  dl : copy.pDCPBytesDL = item.dl.map Octets.toGo
  ul : copy.pDCPBytesUL = item.ul.map Octets.toGo

structure SlicePerPlmnPerCellFaithful (slice : CSlicePerPlmnPerCell)
    (copy : SlicePerPlmnPerCellType) : Prop where
  sliceID : copy.sliceID = slice.sliceID.toGo
  items : ListFaithful FQIPERSlicesPerPlmnPerCellFaithful
    slice.fQIPERSlicesPerPlmnPerCellList copy.fQIPERSlicesPerPlmnPerCells
    copy.fQIPERSlicesPerPlmnPerCellCount

def DUPM5GCFaithful (slices : List CSlicePerPlmnPerCell) (copy : DUPM5GCContainerType) :
    Prop :=
  ListFaithful SlicePerPlmnPerCellFaithful slices copy.slicePerPlmnPerCells
    copy.slicePerPlmnPerCellCount

def DUPMEPCFaithful (items : List CPRBItem) (copy : DUPMEPCContainerType) : Prop :=
  ListFaithful DUPMEPCPerQCIReportFaithful items copy.perQCIReports copy.perQCIReportCount

structure ServedPlmnFaithful (served : CServedPlmnPerCell) (copy : ServedPlmnPerCellType) :
    Prop where
  plmn : copy.plmnID = served.plmn.octets.toGo
  duPM5GC : Option.Rel DUPM5GCFaithful served.duPM5GC copy.duPM5GC
  duPMEPC : Option.Rel DUPMEPCFaithful served.duPMEPC copy.duPMEPC

structure CellResourceReportFaithful (cell : CCellResourceReport)
    (copy : CellResourceReportType) : Prop where
  nRCGI : copy.nRCGI = cell.nRCGI.toGo
  dl : IntFaithful cell.dlTotalofAvailablePRBs copy.totalofAvailablePRBs.dl
  ul : IntFaithful cell.ulTotalofAvailablePRBs copy.totalofAvailablePRBs.ul
  served : ListFaithful ServedPlmnFaithful cell.servedPlmnPerCellList
    copy.servedPlmnPerCells copy.servedPlmnPerCellCount

structure SliceToReportFaithful (slice : CSliceToReport) (copy : SliceToReportType) : Prop where
  sliceID : copy.sliceID = slice.sliceID.toGo
  items : ListFaithful FQIPERSlicesPerPlmnFaithful slice.fQIPERSlicesPerPlmnList
    copy.fQIPERSlicesPerPlmns copy.fQIPERSlicesPerPlmnCount

def CUUPPM5GCFaithful (slices : List CSliceToReport) (copy : CUUPPM5GCType) : Prop :=
  ListFaithful SliceToReportFaithful slices copy.sliceToReports copy.sliceToReportCount

def CUUPPMEPCFaithful (items : List CPDCPItem) (copy : CUUPPMEPCType) : Prop :=
  ListFaithful CUUPPMEPCPerQCIReportFaithful items copy.perQCIReports copy.perQCIReportCount

structure CUUPPlmnFaithful (item : CCUUPPlmn) (copy : CUUPPlmnType) : Prop where
  plmn : copy.plmnID = item.plmn.octets.toGo
  cuUPPM5GC : Option.Rel CUUPPM5GCFaithful item.cuUPPM5GC copy.cuUPPM5GC
  cuUPPMEPC : Option.Rel CUUPPMEPCFaithful item.cuUPPMEPC copy.cuUPPMEPC

structure CUUPPFContainerFaithful (item : CPFContainerItem) (copy : CUUPPFContainerItemType) :
    Prop where
  interfaceType : copy.interfaceType = item.interfaceType
  plmns : ListFaithful CUUPPlmnFaithful item.plmnList copy.oCUUPPMContainer.cuUPPlmns
    copy.oCUUPPMContainer.cuUPPlmnCount

/-- The tag, the content and, for the number of active UEs, its presence. -/
def PFContainerFaithful : CPFContainer → PFContainerType → Prop
  | .oDU cells, copy =>
      copy.containerType = 1 ∧ ∃ container, copy.container.content = some (.oDU container) ∧
        ListFaithful CellResourceReportFaithful cells container.cellResourceReports
          container.cellResourceReportCount
  | .oCUCP gNBCUCPName numberOfActiveUEs, copy =>
      copy.containerType = 2 ∧ ∃ container, copy.container.content = some (.oCUCP container) ∧
        container.gNBCUCPName = gNBCUCPName.map Octets.toGo ∧
        container.cuCPResourceStatus.numberOfActiveUEs = numberOfActiveUEs.getD (-1)
  | .oCUUP gNBCUUPName items, copy =>
      copy.containerType = 3 ∧ ∃ container, copy.container.content = some (.oCUUP container) ∧
        container.gNBCUUPName = gNBCUUPName.map Octets.toGo ∧
        ListFaithful CUUPPFContainerFaithful items container.cuUPPFContainerItems
          container.cuUPPFContainerItemCount
  | .unknown, _ => False

structure PMContainerFaithful (container : CPMContainer) (copy : PMContainerType) : Prop where
  performance : Option.Rel PFContainerFaithful container.performanceContainer copy.pfContainer
  ran : copy.ranContainer.isSome = container.theRANContainer.isSome

def MessageFaithful (decoded : CIndicationMessage) (message : IndicationMessage) : Prop :=
  match decoded.indicationMessage with
  | .format1 pmContainers =>
      message.styleType = decoded.ricStyleType ∧ message.indMsgType = 1 ∧
        ∃ format1, message.indMsg.content = some format1 ∧
          ListFaithful PMContainerFaithful pmContainers format1.pmContainers
            format1.pmContainerCount
  | .unknown => False

/-- Either an error is returned or the copy is faithful; a panic is neither. -/
def Lossless (decoded : CIndicationMessage) : Run IndicationMessage → Prop
  | .ok message => MessageFaithful decoded message
  | .error (.error _) => True
  | .error .fault => False

/-! What the arrays of the Go structures have room for. -/

def CSlicePerPlmnPerCell.Fits (slice : CSlicePerPlmnPerCell) : Prop :=
  slice.fQIPERSlicesPerPlmnPerCellList.length ≤ 64

def CServedPlmnPerCell.Fits (served : CServedPlmnPerCell) : Prop :=
  (∀ slices ∈ served.duPM5GC, slices.length ≤ 1024 ∧ ∀ slice ∈ slices, slice.Fits) ∧
    ∀ items ∈ served.duPMEPC, items.length ≤ 256

def CCellResourceReport.Fits (cell : CCellResourceReport) : Prop :=
  cell.servedPlmnPerCellList.length ≤ 12 ∧ ∀ served ∈ cell.servedPlmnPerCellList, served.Fits

def CSliceToReport.Fits (slice : CSliceToReport) : Prop :=
  slice.fQIPERSlicesPerPlmnList.length ≤ 64

def CCUUPPlmn.Fits (plmn : CCUUPPlmn) : Prop :=
  (∀ slices ∈ plmn.cuUPPM5GC, slices.length ≤ 1024 ∧ ∀ slice ∈ slices, slice.Fits) ∧
    ∀ items ∈ plmn.cuUPPMEPC, items.length ≤ 256

def CPFContainerItem.Fits (item : CPFContainerItem) : Prop :=
  item.plmnList.length ≤ 12 ∧ ∀ plmn ∈ item.plmnList, plmn.Fits

/-- The container is of a known kind, and the loops over it stay in their arrays. -/
def CPFContainer.Copied : CPFContainer → Prop
  | .oDU cells => cells.length ≤ 512 ∧ ∀ cell ∈ cells, cell.Fits
  | .oCUCP .. => True
  | .oCUUP _ items => items.length ≤ 3 ∧ ∀ item ∈ items, item.Fits
  | .unknown => False

/-- No served PLMN in a DU container, in a CU-CP container a number of active UEs, and lists
that fit. -/
def CPFContainer.Kept : CPFContainer → Prop
  | .oDU cells => cells.length ≤ 512 ∧ ∀ cell ∈ cells, cell.servedPlmnPerCellList = []
  | .oCUCP _ numberOfActiveUEs => numberOfActiveUEs ≠ none
  | .oCUUP _ items => items.length ≤ 3 ∧ ∀ item ∈ items, item.Fits
  | .unknown => False

def CPMContainer.Copied (container : CPMContainer) : Prop :=
  ∀ pf ∈ container.performanceContainer, pf.Copied

def CPMContainer.Kept (container : CPMContainer) : Prop :=
  container.theRANContainer = none ∧ ∀ pf ∈ container.performanceContainer, pf.Kept

def CPMContainer.Unknown (container : CPMContainer) : Prop :=
  container.performanceContainer = some .unknown

/-- The message makes the copy return an error, or it fits the Go arrays and has nothing
that the copy drops. -/
def CIndicationMessage.Kept (decoded : CIndicationMessage) : Prop :=
  match decoded.indicationMessage with
  | .format1 pmContainers =>
      (∃ before container after, pmContainers = before ++ container :: after ∧
          before.length < 8 ∧ (∀ other ∈ before, other.Copied) ∧ container.Unknown) ∨
        pmContainers.length ≤ 8 ∧ ∀ container ∈ pmContainers, container.Kept
  | .unknown => True

namespace MessageDecoder

theorem orMinusOne_faithful (value : Option Nat) : IntFaithful value (orMinusOne value) := by
  cases value with
  | none => rfl
  | some value => rfl

theorem prbUsage_faithful (item : CPRBItem) : PRBFaithful item (prbUsage item) where
  dl := orMinusOne_faithful item.dl
  ul := orMinusOne_faithful item.ul

theorem ifSome_copies {Content Value : Type} {copy : Content → Run Value}
    {fits : Content → Prop} {R : Content → Value → Prop}
    (each : ∀ content, Copies (fits content) (copy content) (R content))
    (content : Option Content) :
    Copies (∀ held ∈ content, fits held) (ifSome copy content) (Option.Rel R content) := by
  cases content with
  | none => exact (Copies.of_ok (.none : Option.Rel R none none)).congr (by simp)
  | some content =>
      exact ((each content).map fun value right => Option.Rel.some right).congr (by simp)

theorem slicePerPlmnPerCell_copies (slice : CSlicePerPlmnPerCell) :
    Copies slice.Fits (slicePerPlmnPerCell slice) (SlicePerPlmnPerCellFaithful slice) := by
  have entries : Copies slice.Fits
      (fill 64 fQIPERSlicesPerPlmnPerCell slice.fQIPERSlicesPerPlmnPerCellList)
      (List.Forall₂ FQIPERSlicesPerPlmnPerCellFaithful slice.fQIPERSlicesPerPlmnPerCellList) :=
    Copies.fill_of_ok (fun item => ⟨rfl, prbUsage_faithful item⟩) _
  exact entries.map fun entries faithful => ⟨rfl, rfl, faithful⟩

theorem duPM5GC_copies (slices : List CSlicePerPlmnPerCell) :
    Copies (slices.length ≤ 1024 ∧ ∀ slice ∈ slices, slice.Fits) (duPM5GC slices)
      (DUPM5GCFaithful slices) :=
  (Copies.fill slicePerPlmnPerCell_copies slices).map fun _ faithful => ⟨rfl, faithful⟩

theorem duPMEPC_copies (items : List CPRBItem) :
    Copies (items.length ≤ 256) (duPMEPC items) (DUPMEPCFaithful items) := by
  have entries : Copies (items.length ≤ 256) (fill 256 duPMEPCPerQCIReport items)
      (List.Forall₂ DUPMEPCPerQCIReportFaithful items) :=
    Copies.fill_of_ok (fun item => ⟨rfl, prbUsage_faithful item⟩) items
  exact entries.map fun _ faithful => ⟨rfl, faithful⟩

/-- The loop's own copy of a served PLMN is right before it is dropped. -/
theorem servedPlmnPerCell_copies (served : CServedPlmnPerCell) :
    Copies served.Fits (servedPlmnPerCell served) (ServedPlmnFaithful served) :=
  (ifSome_copies duPM5GC_copies served.duPM5GC).bind fun _ fgc =>
    (ifSome_copies duPMEPC_copies served.duPMEPC).map fun _ epc => ⟨rfl, fgc, epc⟩

theorem sliceToReport_copies (slice : CSliceToReport) :
    Copies slice.Fits (sliceToReport slice) (SliceToReportFaithful slice) := by
  have entries : Copies slice.Fits
      (fill 64 fQIPERSlicesPerPlmn slice.fQIPERSlicesPerPlmnList)
      (List.Forall₂ FQIPERSlicesPerPlmnFaithful slice.fQIPERSlicesPerPlmnList) :=
    Copies.fill_of_ok (fun item => ⟨rfl, rfl, rfl⟩) _
  exact entries.map fun _ faithful => ⟨rfl, rfl, faithful⟩

theorem cuUPPM5GC_copies (slices : List CSliceToReport) :
    Copies (slices.length ≤ 1024 ∧ ∀ slice ∈ slices, slice.Fits) (cuUPPM5GC slices)
      (CUUPPM5GCFaithful slices) :=
  (Copies.fill sliceToReport_copies slices).map fun _ faithful => ⟨rfl, faithful⟩

theorem cuUPPMEPC_copies (items : List CPDCPItem) :
    Copies (items.length ≤ 256) (cuUPPMEPC items) (CUUPPMEPCFaithful items) := by
  have entries : Copies (items.length ≤ 256) (fill 256 cuUPPMEPCPerQCIReport items)
      (List.Forall₂ CUUPPMEPCPerQCIReportFaithful items) :=
    Copies.fill_of_ok (fun item => ⟨rfl, rfl, rfl⟩) items
  exact entries.map fun _ faithful => ⟨rfl, faithful⟩

theorem cuUPPlmn_copies (plmn : CCUUPPlmn) :
    Copies plmn.Fits (cuUPPlmn plmn) (CUUPPlmnFaithful plmn) :=
  (ifSome_copies cuUPPM5GC_copies plmn.cuUPPM5GC).bind fun _ fgc =>
    (ifSome_copies cuUPPMEPC_copies plmn.cuUPPMEPC).map fun _ epc => ⟨rfl, fgc, epc⟩

theorem cuUPPFContainer_copies (item : CPFContainerItem) :
    Copies item.Fits (cuUPPFContainer item) (CUUPPFContainerFaithful item) :=
  (Copies.fill cuUPPlmn_copies item.plmnList).map fun _ faithful => ⟨rfl, rfl, faithful⟩

theorem emptyServedPlmn_not_faithful (served : CServedPlmnPerCell) :
    ¬ ServedPlmnFaithful served emptyServedPlmn := by
  intro faithful
  have hsize : (0 : Int) = served.plmn.val.length := congrArg OctetString.size faithful.plmn
  rw [served.plmn.property] at hsize
  omega

theorem servedPlmnPerCellEntry_copies (served : CServedPlmnPerCell) :
    Copies served.Fits (servedPlmnPerCellEntry served) fun entry =>
      ServedPlmnFaithful served entry ↔ False :=
  (servedPlmnPerCell_copies served).map fun _ _ =>
    iff_false_intro (emptyServedPlmn_not_faithful served)

/-- A cell is copied faithfully only where it serves no PLMN. -/
theorem cellResourceReport_copies (cell : CCellResourceReport) :
    Copies cell.Fits (cellResourceReport cell) fun copy =>
      CellResourceReportFaithful cell copy ↔ cell.servedPlmnPerCellList = [] := by
  refine (Copies.fill servedPlmnPerCellEntry_copies cell.servedPlmnPerCellList).map ?_
  intro entries exact
  have hserved : List.Forall₂ ServedPlmnFaithful cell.servedPlmnPerCellList entries ↔
      cell.servedPlmnPerCellList = [] := by
    rw [forall₂_iff exact, List.eq_nil_iff_forall_not_mem]
  constructor
  · intro faithful
    exact hserved.mp faithful.served.2
  · intro hnone
    exact ⟨rfl, orMinusOne_faithful _, orMinusOne_faithful _, rfl, hserved.mpr hnone⟩

theorem oDUPF_copies (cells : List CCellResourceReport) :
    Copies (cells.length ≤ 512 ∧ ∀ cell ∈ cells, cell.Fits) (oDUPF cells) fun copy =>
      ListFaithful CellResourceReportFaithful cells copy.cellResourceReports
          copy.cellResourceReportCount ↔
        ∀ cell ∈ cells, cell.servedPlmnPerCellList = [] :=
  (Copies.fill cellResourceReport_copies cells).map fun _ exact =>
    (and_iff_right rfl).trans (forall₂_iff exact)

theorem oCUUPPF_copies (gNBCUUPName : Option Octets) (items : List CPFContainerItem) :
    Copies (items.length ≤ 3 ∧ ∀ item ∈ items, item.Fits) (oCUUPPF gNBCUUPName items)
      fun copy =>
        copy.gNBCUUPName = gNBCUUPName.map Octets.toGo ∧
          ListFaithful CUUPPFContainerFaithful items copy.cuUPPFContainerItems
            copy.cuUPPFContainerItemCount :=
  (Copies.fill cuUPPFContainer_copies items).map fun _ faithful => ⟨rfl, rfl, faithful⟩

theorem oCUCPPF_faithful_iff (gNBCUCPName : Option Octets) (numberOfActiveUEs : Option Int) :
    PFContainerFaithful (.oCUCP gNBCUCPName numberOfActiveUEs)
        { containerType := 2
          container := .pointer (.oCUCP (oCUCPPF gNBCUCPName numberOfActiveUEs)) } ↔
      numberOfActiveUEs ≠ none := by
  cases numberOfActiveUEs with
  | none => simp [PFContainerFaithful, Interface.content, oCUCPPF]
  | some number => simp [PFContainerFaithful, Interface.content, oCUCPPF]

theorem copied_of_kept {container : CPFContainer} (kept : container.Kept) : container.Copied := by
  cases container with
  | oDU cells =>
      refine ⟨kept.1, fun cell member => ?_⟩
      rw [CCellResourceReport.Fits, kept.2 cell member]
      simp
  | oCUCP gNBCUCPName numberOfActiveUEs => trivial
  | oCUUP gNBCUUPName items => exact kept
  | unknown => exact kept

theorem pfContainer_copies {container : CPFContainer} (known : container ≠ .unknown) :
    Copies container.Copied (pfContainer container) fun copy =>
      PFContainerFaithful container copy ↔ container.Kept := by
  cases container with
  | oDU cells =>
      refine (oDUPF_copies cells).and_fits.map ?_
      rintro container ⟨copied, exact⟩
      simp [PFContainerFaithful, CPFContainer.Kept, Interface.content, exact, copied.1]
  | oCUCP gNBCUCPName numberOfActiveUEs =>
      exact Copies.of_ok (oCUCPPF_faithful_iff gNBCUCPName numberOfActiveUEs)
  | oCUUP gNBCUUPName items =>
      refine (oCUUPPF_copies gNBCUUPName items).and_fits.map ?_
      rintro container ⟨copied, faithful⟩
      have kept : (CPFContainer.oCUUP gNBCUUPName items).Kept := copied
      simp [PFContainerFaithful, kept, Interface.content, faithful]
  | unknown => exact absurd rfl known

theorem ran_iff (ran : Option Octets) :
    (none : Option RANContainerType).isSome = ran.isSome ↔ ran = none := by
  cases ran with
  | none => simp
  | some octets => simp

theorem pmContainer_unknown {container : CPMContainer} (unknown : container.Unknown) :
    pmContainer container = .error (.error "Unknown PF Container type") := by
  have hperformance : container.performanceContainer = some .unknown := unknown
  simp only [pmContainer, hperformance, ifSome, pfContainer, bind_error]

theorem pmContainer_copies {container : CPMContainer} (known : ¬ container.Unknown) :
    Copies container.Copied (pmContainer container) fun copy =>
      PMContainerFaithful container copy ↔ container.Kept := by
  cases hperformance : container.performanceContainer with
  | none =>
      have always : True ↔ container.Copied := by simp [CPMContainer.Copied, hperformance]
      rw [pmContainer, hperformance]
      refine (Copies.of_ok ?_).congr always
      constructor
      · intro faithful
        exact ⟨(ran_iff _).mp faithful.ran, by simp [hperformance]⟩
      · intro kept
        refine ⟨?_, (ran_iff _).mpr kept.1⟩
        rw [hperformance]
        exact .none
  | some performance =>
      have hknown : performance ≠ .unknown := by
        rintro rfl
        exact known hperformance
      have same : performance.Copied ↔ container.Copied := by
        simp [CPMContainer.Copied, hperformance]
      have inner : Copies performance.Copied (ifSome pfContainer (some performance)) fun copy =>
          ∃ pf, copy = some pf ∧ (PFContainerFaithful performance pf ↔ performance.Kept) :=
        (pfContainer_copies hknown).map fun pf exact => ⟨pf, rfl, exact⟩
      rw [pmContainer, hperformance]
      refine (inner.map ?_).congr same
      rintro _ ⟨pf, rfl, exact⟩
      constructor
      · intro faithful
        have hrel := faithful.performance
        rw [hperformance] at hrel
        cases hrel with
        | some hfaithful =>
            refine ⟨(ran_iff _).mp faithful.ran, ?_⟩
            intro other present
            obtain rfl : performance = other := by simpa [hperformance] using present
            exact exact.mp hfaithful
      · intro kept
        refine ⟨?_, (ran_iff _).mpr kept.1⟩
        rw [hperformance]
        exact .some (exact.mpr (kept.2 performance hperformance))

theorem pmContainer_ok_iff (container : CPMContainer) :
    (∃ copy, pmContainer container = .ok copy) ↔ container.Copied := by
  by_cases unknown : container.Unknown
  · have uncopied : ¬ container.Copied := fun copied => copied .unknown unknown
    simp [pmContainer_unknown unknown, uncopied]
  · have copies := pmContainer_copies unknown
    constructor
    · rintro ⟨copy, copied⟩
      by_contra unfit
      rw [copies.faults unfit] at copied
      cases copied
    · intro fits
      exact (copies.copied fits).imp fun _ right => right.1

theorem pmContainer_error_iff (container : CPMContainer) :
    (∃ message, pmContainer container = .error (.error message)) ↔ container.Unknown := by
  constructor
  · rintro ⟨message, raised⟩
    by_contra known
    have copies := pmContainer_copies known
    by_cases fits : container.Copied
    · rcases copies.copied fits with ⟨copy, copied, -⟩
      rw [copied] at raised
      cases raised
    · rw [copies.faults fits] at raised
      cases raised
  · intro unknown
    exact ⟨_, pmContainer_unknown unknown⟩

theorem pmContainer_faithful_iff {container : CPMContainer} {copy : PMContainerType}
    (copied : pmContainer container = .ok copy) :
    PMContainerFaithful container copy ↔ container.Kept := by
  have fits := (pmContainer_ok_iff container).mp ⟨copy, copied⟩
  have known : ¬ container.Unknown := fun unknown => fits .unknown unknown
  rcases (pmContainer_copies known).copied fits with ⟨other, same, exact⟩
  obtain rfl := Except.ok.inj (copied.symm.trans same)
  exact exact

theorem pmContainer_of_kept {container : CPMContainer} (kept : container.Kept) :
    ∃ copy, pmContainer container = .ok copy :=
  (pmContainer_ok_iff container).mpr fun pf present => copied_of_kept (kept.2 pf present)

end MessageDecoder

open MessageDecoder in
/-- The copy of a message loses nothing exactly where it meets an unknown container, or has
at most eight PM containers, none with a RAN container, a served PLMN, a CU-CP container
without its number of active UEs, or more items in a list than its array has room for. -/
theorem getIndicationMessage_lossless_iff (decoded : CIndicationMessage) :
    Lossless decoded (getIndicationMessage (some decoded)) ↔ decoded.Kept := by
  cases hformat : decoded.indicationMessage with
  | unknown => simp [getIndicationMessage, hformat, Lossless, CIndicationMessage.Kept]
  | format1 pmContainers =>
      have hunknown : (∃ message, fill 8 pmContainer pmContainers = .error (.error message)) ↔
          ∃ before container after, pmContainers = before ++ container :: after ∧
            before.length < 8 ∧ (∀ other ∈ before, other.Copied) ∧ container.Unknown := by
        simp only [fill_error_iff, pmContainer_ok_iff, pmContainer_error_iff]
      simp only [getIndicationMessage, hformat, CIndicationMessage.Kept, ← hunknown]
      cases hfill : fill 8 pmContainer pmContainers with
      | error stop =>
          cases stop with
          | error message => simp [Lossless]
          | fault =>
              simp only [bind_error, Lossless, false_iff]
              rintro (⟨message, raised⟩ | ⟨hshort, kept⟩)
              · cases raised
              · obtain ⟨entries, hentries, -⟩ := fill_exists (R := fun _ _ => True)
                  (fun container member => (pmContainer_of_kept (kept container member)).imp
                    fun _ copied => ⟨copied, trivial⟩) hshort
                rw [hfill] at hentries
                cases hentries
      | ok entries =>
          have ⟨hshort, hcopied⟩ := fill_ok hfill
          have hfaithful : List.Forall₂ PMContainerFaithful pmContainers entries ↔
              ∀ container ∈ pmContainers, container.Kept :=
            forall₂_iff (hcopied.imp fun _ _ => pmContainer_faithful_iff)
          simp only [bind_ok, reduceCtorEq, exists_false, false_or]
          rw [and_iff_right hshort, ← hfaithful]
          change MessageFaithful decoded _ ↔ _
          simp only [MessageFaithful, hformat]
          constructor
          · rintro ⟨-, -, format1, hcontent, -, faithful⟩
            obtain rfl := Option.some.inj hcontent
            exact faithful
          · intro faithful
            exact ⟨trivial, trivial, _, rfl, rfl, faithful⟩

def servedCell : CCellResourceReport where
  nRCGI :=
    { plmn := plmn00F110
      cell := ⟨⟨[0x12, 0x34, 0x56, 0x78, 0x90], by decide⟩, ⟨4, by decide⟩⟩ }
  dlTotalofAvailablePRBs := some 100
  ulTotalofAvailablePRBs := some 100
  servedPlmnPerCellList :=
    [{ plmn := plmn00F110, duPM5GC := none, duPMEPC := none }]

def servedMessage : CIndicationMessage where
  ricStyleType := 1
  indicationMessage :=
    .format1 [{ performanceContainer := some (.oDU [servedCell])
                theRANContainer := none }]

/-- The served PLMN 00F110 of the only cell is lost without an error. -/
theorem servedMessage_lossy :
    ∃ message, getIndicationMessage (some servedMessage) = .ok message ∧
      ¬ MessageFaithful servedMessage message := by
  refine ⟨_, rfl, ?_⟩
  intro faithful
  rcases faithful with ⟨-, -, format1, hformat1, -, hcontainers⟩
  obtain rfl := Option.some.inj hformat1
  cases hcontainers with
  | cons hcontainer _ =>
    cases hcontainer.performance with
    | some hperformance =>
      rcases hperformance with ⟨-, oDU, hoDU, -, hcells⟩
      obtain rfl := PFContainerContent.oDU.inj (Option.some.inj hoDU)
      cases hcells with
      | cons hcell _ =>
        cases hcell.served.2 with
        | cons hserved _ => exact MessageDecoder.emptyServedPlmn_not_faithful _ hserved

end NearRtRic.Kpimon
