import NearRtRic.Kpimon.IndicationMetrics

/-! When the record written at the end of a PM container carries the measurements of the
header's cell and bearer. -/

namespace NearRtRic.Kpimon

open NearRtRic.CMemory NearRtRic.FixedArray NearRtRic.Journal HeaderConsumer

/-- A report for a 5QI with the PLMN and the slice it belongs to. -/
structure Bearer where
  plmnID : OctetString
  sliceID : SliceIDType
  report : FQIPERSlicesPerPlmnType
  deriving DecidableEq

def SliceToReportType.bearers (plmnID : OctetString) (slice : SliceToReportType) : List Bearer :=
  slice.fQIPERSlicesPerPlmns.map fun report => { plmnID, sliceID := slice.sliceID, report }

def CUUPPlmnType.slices (plmn : CUUPPlmnType) : List SliceToReportType :=
  (plmn.cuUPPM5GC.map CUUPPM5GCType.sliceToReports).getD []

def CUUPPlmnType.bearers (plmn : CUUPPlmnType) : List Bearer :=
  plmn.slices.flatMap fun slice => slice.bearers plmn.plmnID

def OCUUPPFContainerType.bearers (container : OCUUPPFContainerType) : List Bearer :=
  container.cuUPPFContainerItems.flatMap fun item =>
    item.oCUUPPMContainer.cuUPPlmns.flatMap CUUPPlmnType.bearers

def PMContainerType.content (container : PMContainerType) : Option PFContainerContent :=
  container.pfContainer.bind fun pf => pf.container.content

def PMContainerType.cellReports (container : PMContainerType) : List CellResourceReportType :=
  match container.content with
  | some (.oDU oDU) => oDU.cellResourceReports
  | _ => []

def PMContainerType.bearers (container : PMContainerType) : List Bearer :=
  match container.content with
  | some (.oCUUP oCUUP) => oCUUP.bearers
  | _ => []

def OctetString.Exact (octets : OctetString) : Prop :=
  octets.size = octets.buf.length

theorem OctetString.Exact.measured {octets : OctetString} (exact : octets.Exact) :
    Measured octets.buf octets.size := by
  intro _ _
  exact exact.symm

theorem exact_toGo (octets : Octets) : octets.toGo.Exact := rfl

structure CellResourceReportType.Stored (report : CellResourceReportType) : Prop where
  plmn : Measured report.nRCGI.plmnID.buf report.nRCGI.plmnID.size
  cell : Measured report.nRCGI.nRCellID.buf report.nRCGI.nRCellID.size

structure SliceToReportType.Stored (slice : SliceToReportType) : Prop where
  sD : ∀ sD, slice.sliceID.sD = some sD → Measured sD.buf sD.size
  dl : ∀ report ∈ slice.fQIPERSlicesPerPlmns, ∀ bytes, report.pDCPBytesDL = some bytes →
    bytes.Exact
  ul : ∀ report ∈ slice.fQIPERSlicesPerPlmns, ∀ bytes, report.pDCPBytesUL = some bytes →
    bytes.Exact

structure CUUPPlmnType.Stored (plmn : CUUPPlmnType) : Prop where
  identity : Measured plmn.plmnID.buf plmn.plmnID.size
  slices : ∀ slice ∈ plmn.slices, slice.Stored

inductive PFContainerType.Stored : PFContainerType → Prop
  | oDU (container : ODUPFContainerType)
      (reports : ∀ report ∈ container.cellResourceReports, report.Stored) :
      Stored { containerType := 1, container := .pointer (.oDU container) }
  | oCUCP (container : OCUCPPFContainerType) :
      Stored { containerType := 2, container := .pointer (.oCUCP container) }
  | oCUUP (container : OCUUPPFContainerType)
      (plmns : ∀ item ∈ container.cuUPPFContainerItems,
        ∀ plmn ∈ item.oCUUPPMContainer.cuUPPlmns, plmn.Stored) :
      Stored { containerType := 3, container := .pointer (.oCUUP container) }

structure PMContainerType.Stored (container : PMContainerType) : Prop where
  pf : ∀ pf, container.pfContainer = some pf → pf.Stored
  ran : container.ranContainer = none

namespace MessageDecoder

theorem ifSome_eq_ok {Content Value : Type} {copy : Content → Run Value}
    {content : Option Content} {value : Value} (copied : ifSome copy content = .ok (some value)) :
    ∃ present, content = some present ∧ copy present = .ok value := by
  cases content with
  | none => cases copied
  | some present =>
      rcases bind_ok_iff.mp copied with ⟨stored, hstored, copied⟩
      obtain rfl := Option.some.inj (pure_ok_iff.mp copied)
      exact ⟨present, rfl, hstored⟩

theorem cellResourceReport_stored {cell : CCellResourceReport} {report : CellResourceReportType}
    (copied : cellResourceReport cell = .ok report) : report.Stored := by
  rcases bind_ok_iff.mp copied with ⟨entries, -, copied⟩
  obtain rfl := pure_ok_iff.mp copied
  exact ⟨fun _ _ => rfl, fun _ _ => rfl⟩

theorem map_toGo_exact {bytes : Option Octets} {integer : OctetString}
    (stored : bytes.map Octets.toGo = some integer) : integer.Exact := by
  rcases Option.map_eq_some_iff.mp stored with ⟨octets, -, rfl⟩
  exact exact_toGo octets

theorem sliceToReport_stored {slice : CSliceToReport} {copy : SliceToReportType}
    (copied : sliceToReport slice = .ok copy) : copy.Stored := by
  rcases bind_ok_iff.mp copied with ⟨entries, filled, copied⟩
  obtain rfl := pure_ok_iff.mp copied
  refine ⟨fun sD present => (map_toGo_exact present).measured, ?_, ?_⟩
  · intro report member bytes present
    rcases mem_fill filled member with ⟨item, -, same⟩
    obtain rfl := pure_ok_iff.mp same
    exact map_toGo_exact present
  · intro report member bytes present
    rcases mem_fill filled member with ⟨item, -, same⟩
    obtain rfl := pure_ok_iff.mp same
    exact map_toGo_exact present

theorem cuUPPlmn_stored {plmn : CCUUPPlmn} {copy : CUUPPlmnType}
    (copied : cuUPPlmn plmn = .ok copy) : copy.Stored := by
  rcases bind_ok_iff.mp copied with ⟨slices, hslices, copied⟩
  rcases bind_ok_iff.mp copied with ⟨reports, -, copied⟩
  obtain rfl := pure_ok_iff.mp copied
  refine ⟨fun _ _ => rfl, fun slice member => ?_⟩
  cases slices with
  | none => cases member
  | some container =>
      rcases ifSome_eq_ok hslices with ⟨present, -, hcontainer⟩
      rcases bind_ok_iff.mp hcontainer with ⟨entries, filled, hcontainer⟩
      obtain rfl := pure_ok_iff.mp hcontainer
      rcases mem_fill filled member with ⟨item, -, same⟩
      exact sliceToReport_stored same

theorem cuUPPFContainer_stored {item : CPFContainerItem} {copy : CUUPPFContainerItemType}
    (copied : cuUPPFContainer item = .ok copy) :
    ∀ plmn ∈ copy.oCUUPPMContainer.cuUPPlmns, plmn.Stored := by
  rcases bind_ok_iff.mp copied with ⟨entries, filled, copied⟩
  obtain rfl := pure_ok_iff.mp copied
  intro plmn member
  rcases mem_fill filled member with ⟨source, -, same⟩
  exact cuUPPlmn_stored same

theorem pfContainer_stored {container : CPFContainer} {copy : PFContainerType}
    (copied : pfContainer container = .ok copy) : copy.Stored := by
  cases container with
  | oDU cells =>
      rcases bind_ok_iff.mp copied with ⟨oDU, hoDU, copied⟩
      obtain rfl := pure_ok_iff.mp copied
      rcases bind_ok_iff.mp hoDU with ⟨entries, filled, hoDU⟩
      obtain rfl := pure_ok_iff.mp hoDU
      refine .oDU _ fun report member => ?_
      rcases mem_fill filled member with ⟨cell, -, same⟩
      exact cellResourceReport_stored same
  | oCUCP gNBCUCPName numberOfActiveUEs =>
      obtain rfl := pure_ok_iff.mp copied
      exact .oCUCP _
  | oCUUP gNBCUUPName items =>
      rcases bind_ok_iff.mp copied with ⟨oCUUP, hoCUUP, copied⟩
      obtain rfl := pure_ok_iff.mp copied
      rcases bind_ok_iff.mp hoCUUP with ⟨entries, filled, hoCUUP⟩
      obtain rfl := pure_ok_iff.mp hoCUUP
      refine .oCUUP _ fun item member => ?_
      rcases mem_fill filled member with ⟨source, -, same⟩
      exact cuUPPFContainer_stored same
  | unknown => cases copied

theorem pmContainer_stored {container : CPMContainer} {copy : PMContainerType}
    (copied : pmContainer container = .ok copy) : copy.Stored := by
  rcases bind_ok_iff.mp copied with ⟨pf, hpf, copied⟩
  obtain rfl := pure_ok_iff.mp copied
  refine ⟨fun stored present => ?_, rfl⟩
  have some_eq : pf = some stored := present
  rw [some_eq] at hpf
  rcases ifSome_eq_ok hpf with ⟨source, -, hsource⟩
  exact pfContainer_stored hsource

end MessageDecoder

theorem getIndicationMessage_stored {decodedMsg : Option CIndicationMessage}
    {indMsg : IndicationMessage} (copied : getIndicationMessage decodedMsg = .ok indMsg) :
    ∃ format1 : IndicationMessageFormat1, indMsg.indMsgType = 1 ∧ indMsg.indMsg = .pointer format1 ∧
      ∀ container ∈ format1.pmContainers, container.Stored := by
  cases decodedMsg with
  | none => cases copied
  | some decodedMsg =>
      simp only [getIndicationMessage] at copied
      split at copied
      · rcases bind_ok_iff.mp copied with ⟨entries, filled, copied⟩
        obtain rfl := pure_ok_iff.mp copied
        refine ⟨_, rfl, rfl, fun container member => ?_⟩
        rcases mem_fill filled member with ⟨source, -, same⟩
        exact MessageDecoder.pmContainer_stored same
      · cases copied

variable (hdr : HeaderValues)

/-- The report has the cell id text of the header. -/
def CellResourceReportType.Named (report : CellResourceReportType) : Prop :=
  parseNRCGI report.nRCGI = .ok hdr.cellIDHdr

instance (report : CellResourceReportType) : Decidable (report.Named hdr) :=
  inferInstanceAs (Decidable (_ = _))

def lastReadable (reports : List CellResourceReportType) : Option CellResourceReportType :=
  (reports.filter fun report => (parseNRCGI report.nRCGI).isOk).getLast?

def Pending.cell (pending : Pending) (report : CellResourceReportType) : Pending :=
  match parseNRCGI report.nRCGI with
  | .error _ => pending
  | .ok cellID =>
      let pending := pending.raise (cellID = hdr.cellIDHdr)
      if pending.flag then
        { pending with
          availPRBDL := report.totalofAvailablePRBs.dl
          availPRBUL := report.totalofAvailablePRBs.ul }
      else pending

def Bearer.Selected (bearer : Bearer) : Prop :=
  parsePlmnID bearer.plmnID = .ok hdr.plmnIDHdr ∧ parseSliceID bearer.sliceID = .ok hdr.sliceIDHdr ∧
    bearer.report.fiveQI = hdr.fiveQIHdr

instance (bearer : Bearer) : Decidable (bearer.Selected hdr) :=
  inferInstanceAs (Decidable (_ ∧ _))

def Bearer.readable (bearer : Bearer) : Bool :=
  (parsePlmnID bearer.plmnID).isOk && (parseSliceID bearer.sliceID).isOk

/-- What `ParseInteger` returns for a buffer of the right size. -/
def readInteger (bytes : Integer) : Int :=
  bytes.buf.foldl appendOctet 0

def readWhere (flag : Bool) (current : Int) (bytes : Option Integer) : Int :=
  if flag then (bytes.map readInteger).getD current else current

def Pending.bearer (pending : Pending) (bearer : Bearer) : Pending :=
  if bearer.readable then
    let pending := pending.raise (bearer.Selected hdr)
    { pending with
      dlPDCPBytes := readWhere pending.flag pending.dlPDCPBytes bearer.report.pDCPBytesDL
      ulPDCPBytes := readWhere pending.flag pending.ulPDCPBytes bearer.report.pDCPBytesUL }
  else pending

def lastBytes (direction : FQIPERSlicesPerPlmnType → Option Integer) (bearers : List Bearer) :
    Option Integer :=
  ((bearers.filter Bearer.readable).filterMap fun bearer => direction bearer.report).getLast?

def fromSelected (bearers : List Bearer) : List Bearer :=
  bearers.dropWhile fun bearer => ¬ bearer.Selected hdr

/-- The variables at the end of a PM container. -/
def PMContainerType.pending (container : PMContainerType) : Pending :=
  container.bearers.foldl (Pending.bearer hdr)
    (container.cellReports.foldl (Pending.cell hdr) .reset)

namespace MetricsLoops

variable {hdr}

theorem ends_ifNotNil {Content State : Type} {body : Content → Handling State}
    (ends : ∀ content, Ends (body content)) (content : Option Content) (state : State) :
    Ends (ifNotNil content state body) := by
  cases content with
  | none => exact ends_pure state
  | some content => exact ends content

theorem ends_servedPlmnPerCell (ueMetrics : UeMetricsEntry) (served : ServedPlmnPerCellType) :
    Ends (servedPlmnPerCell ueMetrics served) := by
  have ends5GC : ∀ ueMetrics slice, Ends (slicePerPlmnPerCell ueMetrics slice) :=
    fun ueMetrics slice => ends_forEach (fun _ _ => ends_bind (ends_write _) fun _ => ends_pure _) _ _
  have endsEPC : ∀ ueMetrics item, Ends (perQCIReport ueMetrics item) :=
    fun _ _ => ends_bind (ends_write _) fun _ => ends_pure _
  unfold servedPlmnPerCell
  apply ends_bind
  · exact ends_ifNotNil (fun _ => ends_forEach ends5GC _ _) _ _
  · intro ueMetrics
    exact ends_ifNotNil (fun _ => ends_forEach endsEPC _ _) _ _

theorem cellResourceReport_result {report : CellResourceReportType} (stored : report.Stored)
    (pending : Pending) :
    (cellResourceReport hdr pending report).result = .ok (pending.cell hdr report) := by
  have noFault := parseNRCGI_ne_fault stored.plmn stored.cell
  rw [cellResourceReport, Pending.cell]
  cases parsed : parseNRCGI report.nRCGI with
  | error stop =>
      cases stop with
      | fault => exact absurd parsed noFault
      | error message => rfl
  | ok cellID =>
      rcases ends_forEach ends_servedPlmnPerCell
        { nRPlmnID := report.nRCGI.plmnID.buf, nRCellID := report.nRCGI.nRCellID.buf, cellID }
        report.servedPlmnPerCells with ⟨ueMetrics, hserved⟩
      simp only [orContinue]
      rw [bind_result_of_ok rfl, bind_result_of_ok rfl, bind_result_of_ok hserved]
      rfl

theorem oDU_result {container : ODUPFContainerType}
    (stored : ∀ report ∈ container.cellResourceReports, report.Stored) (pending : Pending) :
    (oDU hdr pending container).result =
      .ok (container.cellResourceReports.foldl (Pending.cell hdr) pending) :=
  forEach_result (fun report member => cellResourceReport_result (stored report member)) pending

theorem pdcpBytes_eq {bytes : Option Integer} (exact : ∀ integer, bytes = some integer → integer.Exact)
    (flag : Bool) (current : Int) :
    pdcpBytes flag current bytes = .ok (readWhere flag current bytes) := by
  cases bytes with
  | none => cases flag <;> rfl
  | some integer =>
      have hsize : integer.size = integer.buf.length := exact integer rfl
      cases flag with
      | false => rfl
      | true =>
          simp [pdcpBytes, readWhere, readInteger, parseInteger, hsize, pure, Except.pure]

theorem fQIPERSlicesPerPlmn_result (bearer : Bearer) {plmnID : String} {sliceID : Int}
    (plmn : parsePlmnID bearer.plmnID = .ok plmnID) (slice : parseSliceID bearer.sliceID = .ok sliceID)
    (dl : ∀ bytes, bearer.report.pDCPBytesDL = some bytes → bytes.Exact)
    (ul : ∀ bytes, bearer.report.pDCPBytesUL = some bytes → bytes.Exact) (pending : Pending) :
    (fQIPERSlicesPerPlmn hdr plmnID sliceID pending bearer.report).result =
      .ok (pending.bearer hdr bearer) := by
  have readable : bearer.readable = true := by
    simp [Bearer.readable, plmn, slice, Except.isOk, Except.toBool]
  have selected : bearer.Selected hdr ↔ plmnID = hdr.plmnIDHdr ∧ sliceID = hdr.sliceIDHdr ∧
      bearer.report.fiveQI = hdr.fiveQIHdr := by
    rw [Bearer.Selected, plmn, slice, Except.ok.injEq, Except.ok.injEq]
  rw [fQIPERSlicesPerPlmn, bind_result_of_ok rfl, Pending.bearer, if_pos readable]
  simp only [selected]
  rw [bind_result_of_ok (pdcpBytes_eq dl _ _), bind_result_of_ok (pdcpBytes_eq ul _ _)]
  rfl

theorem foldl_unreadable {bearers : List Bearer}
    (unreadable : ∀ bearer ∈ bearers, bearer.readable = false)
    (pending : Pending) : bearers.foldl (Pending.bearer hdr) pending = pending := by
  induction bearers with
  | nil => rfl
  | cons bearer bearers ih =>
      have first : pending.bearer hdr bearer = pending := by
        simp [Pending.bearer, unreadable bearer (by simp)]
      rw [List.foldl_cons, first]
      exact ih fun other member => unreadable other (by simp [member])

theorem sliceToReport_result {slice : SliceToReportType} (stored : slice.Stored)
    {plmnID : OctetString} {plmnText : String} (plmn : parsePlmnID plmnID = .ok plmnText)
    (pending : Pending) :
    (sliceToReport hdr plmnText pending slice).result =
      .ok ((slice.bearers plmnID).foldl (Pending.bearer hdr) pending) := by
  have noFault := parseSliceID_ne_fault stored.sD
  rw [sliceToReport]
  cases parsed : parseSliceID slice.sliceID with
  | error stop =>
      have unreadable : ∀ bearer ∈ slice.bearers plmnID, bearer.readable = false := by
        intro bearer member
        rcases List.mem_map.mp member with ⟨report, -, rfl⟩
        simp [Bearer.readable, parsed, Except.isOk, Except.toBool]
      rw [foldl_unreadable unreadable]
      cases stop with
      | fault => exact absurd parsed noFault
      | error message => rfl
  | ok sliceID =>
      rw [SliceToReportType.bearers, List.foldl_map]
      refine forEach_result (fun report member pending => ?_) pending
      exact fQIPERSlicesPerPlmn_result ⟨plmnID, slice.sliceID, report⟩ plmn parsed
        (stored.dl report member) (stored.ul report member) pending

theorem cuUPPlmn_result {plmn : CUUPPlmnType} (stored : plmn.Stored) (pending : Pending) :
    (cuUPPlmn hdr pending plmn).result =
      .ok (plmn.bearers.foldl (Pending.bearer hdr) pending) := by
  have noFault : parsePlmnID plmn.plmnID ≠ .error .fault :=
    parsePLMNIdentity_ne_fault stored.identity
  rw [cuUPPlmn]
  cases parsed : parsePlmnID plmn.plmnID with
  | error stop =>
      have unreadable : ∀ bearer ∈ plmn.bearers, bearer.readable = false := by
        intro bearer member
        rcases List.mem_flatMap.mp member with ⟨slice, -, member⟩
        rcases List.mem_map.mp member with ⟨report, -, rfl⟩
        simp [Bearer.readable, parsed, Except.isOk, Except.toBool]
      rw [foldl_unreadable unreadable]
      cases stop with
      | fault => exact absurd parsed noFault
      | error message => rfl
  | ok plmnID =>
      have slices : (ifNotNil plmn.cuUPPM5GC pending fun cuUPPM5GC =>
          forEach (sliceToReport hdr plmnID) pending cuUPPM5GC.sliceToReports).result =
          .ok (plmn.bearers.foldl (Pending.bearer hdr) pending) := by
        have each : ∀ slice ∈ plmn.slices, ∀ pending,
            (sliceToReport hdr plmnID pending slice).result =
              .ok ((slice.bearers plmn.plmnID).foldl (Pending.bearer hdr) pending) :=
          fun slice member => sliceToReport_result (stored.slices slice member) parsed
        have loop := forEach_flatMap_result each pending
        unfold CUUPPlmnType.bearers
        unfold CUUPPlmnType.slices at loop ⊢
        cases present : plmn.cuUPPM5GC with
        | none => rfl
        | some cuUPPM5GC =>
            rw [present] at loop
            exact loop
      have endsItem : ∀ state item, Ends (cuUPPMEPCPerQCIReport state item) :=
        fun _ _ => ends_write _
      rcases ends_ifNotNil
        (fun cuUPPMEPC : CUUPPMEPCType => ends_forEach endsItem () cuUPPMEPC.perQCIReports)
        plmn.cuUPPMEPC () with ⟨done, reports⟩
      simp only [orContinue]
      rw [bind_result_of_ok slices, bind_result_of_ok reports]
      rfl

theorem oCUUP_result {container : OCUUPPFContainerType}
    (stored : ∀ item ∈ container.cuUPPFContainerItems,
      ∀ plmn ∈ item.oCUUPPMContainer.cuUPPlmns, plmn.Stored) (pending : Pending) :
    (oCUUP hdr pending container).result =
      .ok (container.bearers.foldl (Pending.bearer hdr) pending) := by
  refine forEach_flatMap_result (fun item member pending => ?_) pending
  exact forEach_flatMap_result (fun plmn within => cuUPPlmn_result (stored item member plmn within)) _

theorem pfContainer_result {container : PMContainerType} {pf : PFContainerType}
    (present : container.pfContainer = some pf) (stored : pf.Stored) :
    (pfContainer hdr pf).result = .ok (some (container.pending hdr)) := by
  rw [PMContainerType.pending, PMContainerType.bearers, PMContainerType.cellReports,
    PMContainerType.content, present, pfContainer]
  cases stored with
  | oDU oDUContainer reports =>
      simp only [if_true]
      rw [bind_result_of_ok rfl, bind_result_of_ok (oDU_result reports _)]
      rfl
  | oCUCP oCUCPContainer => rfl
  | oCUUP oCUUPContainer plmns =>
      have three : (3 : Int) ≠ 1 ∧ (3 : Int) ≠ 2 := by decide
      simp only [three.1, three.2, if_false, if_true]
      rw [bind_result_of_ok rfl, bind_result_of_ok (oCUUP_result plmns _)]
      rfl

/-- A record that describes the header's cell comes from no other place. -/
def NotHeaderCell : Write → Prop
  | .headerCellMetrics .. => False
  | _ => True

theorem confined_orContinue {Value State : Type} {parsed : Run Value} {state : State}
    {next : Value → Handling State} (confined : ∀ value, Confined NotHeaderCell (next value)) :
    Confined NotHeaderCell (orContinue parsed state next) := by
  cases parsed with
  | ok value => exact confined value
  | error stop =>
      cases stop with
      | fault => exact confined_lift _
      | error message => exact confined_pure _

theorem confined_ifNotNil {Content State : Type} {body : Content → Handling State}
    (confined : ∀ content, Confined NotHeaderCell (body content)) (content : Option Content)
    (state : State) : Confined NotHeaderCell (ifNotNil content state body) := by
  cases content with
  | none => exact confined_pure state
  | some content => exact confined content

theorem confined_servedPlmnPerCell (ueMetrics : UeMetricsEntry) (served : ServedPlmnPerCellType) :
    Confined NotHeaderCell (servedPlmnPerCell ueMetrics served) := by
  have item5GC : ∀ ueMetrics item,
      Confined NotHeaderCell (fQIPERSlicesPerPlmnPerCell ueMetrics item) :=
    fun _ _ => confined_bind (confined_write trivial) fun _ => confined_pure _
  have itemEPC : ∀ ueMetrics item, Confined NotHeaderCell (perQCIReport ueMetrics item) :=
    fun _ _ => confined_bind (confined_write trivial) fun _ => confined_pure _
  unfold servedPlmnPerCell
  apply confined_bind
  · exact confined_ifNotNil
      (fun _ => confined_forEach (fun _ _ => confined_forEach item5GC _ _) _ _) _ _
  · intro ueMetrics
    exact confined_ifNotNil (fun _ => confined_forEach itemEPC _ _) _ _

theorem confined_cellResourceReport (pending : Pending) (report : CellResourceReportType) :
    Confined NotHeaderCell (cellResourceReport hdr pending report) := by
  unfold cellResourceReport
  refine confined_orContinue fun cellID => ?_
  refine confined_bind (confined_write trivial) fun _ => ?_
  refine confined_bind (confined_write trivial) fun _ => ?_
  exact confined_bind (confined_forEach confined_servedPlmnPerCell _ _) fun _ => confined_pure _

theorem confined_fQIPERSlicesPerPlmn (plmnID : String) (sliceID : Int) (pending : Pending)
    (item : FQIPERSlicesPerPlmnType) :
    Confined NotHeaderCell (fQIPERSlicesPerPlmn hdr plmnID sliceID pending item) := by
  refine confined_bind (confined_write trivial) fun _ => ?_
  refine confined_bind (confined_lift _) fun _ => ?_
  exact confined_bind (confined_lift _) fun _ => confined_pure _

theorem confined_cuUPPlmn (pending : Pending) (plmn : CUUPPlmnType) :
    Confined NotHeaderCell (cuUPPlmn hdr pending plmn) := by
  unfold cuUPPlmn
  refine confined_orContinue fun plmnID => ?_
  refine confined_bind ?_ fun pending => confined_bind ?_ fun _ => confined_pure _
  · exact confined_ifNotNil (fun _ => confined_forEach (fun _ _ => confined_orContinue fun _ =>
      confined_forEach (confined_fQIPERSlicesPerPlmn _ _) _ _) _ _) _ _
  · exact confined_ifNotNil
      (fun _ => confined_forEach (fun _ _ => confined_write trivial) _ _) _ _

theorem confined_pfContainer (pf : PFContainerType) :
    Confined NotHeaderCell (pfContainer hdr pf) := by
  unfold pfContainer
  split
  · exact confined_bind (confined_lift _) fun _ => confined_bind
      (confined_forEach confined_cellResourceReport _ _) fun _ => confined_pure _
  split
  · exact confined_bind (confined_lift _) fun _ => confined_bind
      (confined_bind (confined_write trivial) fun _ => confined_pure _) fun _ => confined_pure _
  split
  · exact confined_bind (confined_lift _) fun _ => confined_bind
      (confined_forEach (fun _ _ => confined_forEach confined_cuUPPlmn _ _) _ _)
      fun _ => confined_pure _
  · exact confined_pure _

end MetricsLoops

section Folds

variable {hdr}

/-- After the reports of a DU: the flag says whether one was named like the header's cell,
and then the totals are those of the last one that could be read. -/
structure CellsFolded (hdr : HeaderValues) (reports : List CellResourceReportType)
    (pending : Pending) : Prop where
  flag : pending.flag = true ↔ ∃ report ∈ reports, report.Named hdr
  last : pending.flag = true → ∃ report, lastReadable reports = some report ∧
    pending.availPRBDL = report.totalofAvailablePRBs.dl ∧
    pending.availPRBUL = report.totalofAvailablePRBs.ul
  bytes : pending.dlPDCPBytes = -1 ∧ pending.ulPDCPBytes = -1

theorem cell_unreadable {pending : Pending} {report : CellResourceReportType}
    (unreadable : (parseNRCGI report.nRCGI).isOk = false) : pending.cell hdr report = pending := by
  rw [Pending.cell]
  cases parsed : parseNRCGI report.nRCGI with
  | error stop => rfl
  | ok cellID => simp [parsed, Except.isOk, Except.toBool] at unreadable

theorem cell_readable {pending : Pending} {report : CellResourceReportType} {cellID : String}
    (parsed : parseNRCGI report.nRCGI = .ok cellID) :
    pending.cell hdr report =
      if pending.flag ∨ report.Named hdr then
        { pending with
          flag := true
          availPRBDL := report.totalofAvailablePRBs.dl
          availPRBUL := report.totalofAvailablePRBs.ul }
      else pending := by
  have named : report.Named hdr ↔ cellID = hdr.cellIDHdr := by
    rw [CellResourceReportType.Named, parsed, Except.ok.injEq]
  by_cases same : cellID = hdr.cellIDHdr
  · simp [Pending.cell, parsed, Pending.raise, named, same]
  · cases raised : pending.flag with
    | false => simp [Pending.cell, parsed, Pending.raise, named, same, raised]
    | true => simp [Pending.cell, parsed, Pending.raise, named, same, raised]

theorem named_readable {report : CellResourceReportType} (named : report.Named hdr) :
    (parseNRCGI report.nRCGI).isOk = true := by
  rw [CellResourceReportType.Named] at named
  simp [named, Except.isOk, Except.toBool]

theorem exists_named_concat (reports : List CellResourceReportType) (report : CellResourceReportType) :
    (∃ other ∈ reports ++ [report], other.Named hdr) ↔
      (∃ other ∈ reports, other.Named hdr) ∨ report.Named hdr := by
  simp only [List.mem_append, List.mem_singleton, or_and_right, exists_or, exists_eq_left]

theorem cells_folded (reports : List CellResourceReportType) :
    CellsFolded hdr reports (reports.foldl (Pending.cell hdr) .reset) := by
  induction reports using List.reverseRecOn with
  | nil => exact ⟨by simp [Pending.reset], by simp [Pending.reset], by simp [Pending.reset]⟩
  | append_singleton reports report ih =>
      rw [List.foldl_concat]
      generalize reports.foldl (Pending.cell hdr) .reset = pending at ih
      cases parsed : parseNRCGI report.nRCGI with
      | error stop =>
          have unreadable : (parseNRCGI report.nRCGI).isOk = false := by
            simp [parsed, Except.isOk, Except.toBool]
          have unnamed : ¬ report.Named hdr := by
            intro named
            rw [named_readable named] at unreadable
            cases unreadable
          have same : lastReadable (reports ++ [report]) = lastReadable reports := by
            simp [lastReadable, unreadable]
          rw [cell_unreadable unreadable]
          refine ⟨?_, by rw [same]; exact ih.last, ih.bytes⟩
          rw [exists_named_concat, ih.flag, or_iff_left unnamed]
      | ok cellID =>
          have readable : (parseNRCGI report.nRCGI).isOk = true := by
            simp [parsed, Except.isOk, Except.toBool]
          have newest : lastReadable (reports ++ [report]) = some report := by
            simp [lastReadable, readable]
          rw [cell_readable parsed]
          by_cases counts : pending.flag = true ∨ report.Named hdr
          · rw [if_pos counts]
            refine ⟨?_, fun _ => ⟨report, newest, rfl, rfl⟩, ih.bytes⟩
            rw [exists_named_concat, ← ih.flag]
            exact iff_of_true rfl counts
          · rw [if_neg counts]
            refine ⟨?_, fun raised => absurd (.inl raised) counts, ih.bytes⟩
            rw [exists_named_concat, ← ih.flag]
            exact (or_iff_left fun named => counts (.inr named)).symm

/-- With the flag set, the last bytes of each direction are kept. -/
structure BearersRead (bearers : List Bearer) (before after : Pending) : Prop where
  flag : after.flag = true
  dl : after.dlPDCPBytes =
    ((lastBytes FQIPERSlicesPerPlmnType.pDCPBytesDL bearers).map readInteger).getD before.dlPDCPBytes
  ul : after.ulPDCPBytes =
    ((lastBytes FQIPERSlicesPerPlmnType.pDCPBytesUL bearers).map readInteger).getD before.ulPDCPBytes
  prbs : after.availPRBDL = before.availPRBDL ∧ after.availPRBUL = before.availPRBUL

theorem lastBytes_concat (direction : FQIPERSlicesPerPlmnType → Option Integer)
    (bearers : List Bearer) (bearer : Bearer) (readable : bearer.readable = true) (current : Int) :
    ((lastBytes direction (bearers ++ [bearer])).map readInteger).getD current =
      ((direction bearer.report).map readInteger).getD
        (((lastBytes direction bearers).map readInteger).getD current) := by
  cases present : direction bearer.report with
  | none => simp [lastBytes, readable, present]
  | some bytes => simp [lastBytes, readable, present]

theorem bearers_read (bearers : List Bearer) {before : Pending} (raised : before.flag = true) :
    BearersRead bearers before (bearers.foldl (Pending.bearer hdr) before) := by
  induction bearers using List.reverseRecOn with
  | nil => exact ⟨raised, rfl, rfl, rfl, rfl⟩
  | append_singleton bearers bearer ih =>
      rw [List.foldl_concat]
      generalize bearers.foldl (Pending.bearer hdr) before = pending at ih
      cases readable : bearer.readable with
      | false =>
          have same : pending.bearer hdr bearer = pending := by simp [Pending.bearer, readable]
          have kept : ∀ direction, lastBytes direction (bearers ++ [bearer]) =
              lastBytes direction bearers := by
            intro direction
            simp [lastBytes, readable]
          rw [same]
          exact ⟨ih.flag, by rw [kept]; exact ih.dl, by rw [kept]; exact ih.ul, ih.prbs⟩
      | true =>
          have still : pending.raise (bearer.Selected hdr) = pending := by
            rw [Pending.raise]
            split
            · rw [← ih.flag]
            · rfl
          rw [Pending.bearer, if_pos readable, still]
          dsimp only
          refine ⟨ih.flag, ?_, ?_, ih.prbs⟩
          · rw [lastBytes_concat _ _ _ readable, ← ih.dl, ih.flag]
            rfl
          · rw [lastBytes_concat _ _ _ readable, ← ih.ul, ih.flag]
            rfl

theorem selected_readable {bearer : Bearer} (selected : bearer.Selected hdr) :
    bearer.readable = true := by
  simp [Bearer.readable, selected.1, selected.2.1, Except.isOk, Except.toBool]

theorem foldl_bearers (bearers : List Bearer) {before : Pending} (lowered : before.flag = false) :
    bearers.foldl (Pending.bearer hdr) before =
      if ∃ bearer ∈ bearers, bearer.Selected hdr then
        (fromSelected hdr bearers).foldl (Pending.bearer hdr) { before with flag := true }
      else before := by
  induction bearers with
  | nil => simp
  | cons bearer bearers ih =>
      by_cases selected : bearer.Selected hdr
      · have from_here : fromSelected hdr (bearer :: bearers) = bearer :: bearers := by
          simp [fromSelected, selected]
        have raised : before.bearer hdr bearer =
            Pending.bearer hdr { before with flag := true } bearer := by
          simp [Pending.bearer, Pending.raise, selected, selected_readable selected]
        rw [if_pos ⟨bearer, by simp, selected⟩, from_here, List.foldl_cons, List.foldl_cons, raised]
      · have from_later : fromSelected hdr (bearer :: bearers) = fromSelected hdr bearers := by
          simp [fromSelected, selected]
        have same : before.bearer hdr bearer = before := by
          cases readable : bearer.readable with
          | false => simp [Pending.bearer, readable]
          | true =>
              cases before
              subst lowered
              simp [Pending.bearer, readable, Pending.raise, selected, readWhere]
        simp [from_later, same, ih, selected]

theorem pfContainer_of_container {container : PMContainerType} (stored : container.Stored) :
    (ifNotNil container.pfContainer (some .reset) (MetricsLoops.pfContainer hdr)).result =
      .ok (some (container.pending hdr)) := by
  cases present : container.pfContainer with
  | none =>
      simp [ifNotNil, PMContainerType.pending, PMContainerType.bearers,
        PMContainerType.cellReports, PMContainerType.content, present]
  | some pf => exact MetricsLoops.pfContainer_result present (stored.pf pf present)

theorem handlePMContainer_result {container : PMContainerType} (stored : container.Stored) :
    (handlePMContainer hdr () container).result = .ok () := by
  rw [handlePMContainer, bind_result_of_ok (pfContainer_of_container stored)]
  dsimp only
  split <;> rfl

theorem headerCellMetrics_mem_iff {container other : PMContainerType} (stored : container.Stored)
    {record : CellMetricsEntry} :
    .headerCellMetrics other record ∈ (handlePMContainer hdr () container).entries ↔
      other = container ∧ (container.pending hdr).flag = true ∧
        record = (container.pending hdr).cellMetrics := by
  have before : .headerCellMetrics other record ∉
      (ifNotNil container.pfContainer (some .reset) (MetricsLoops.pfContainer hdr)).entries :=
    fun member => MetricsLoops.confined_ifNotNil (MetricsLoops.confined_pfContainer) _ _ _ member
  rw [handlePMContainer, bind_entries_of_ok (pfContainer_of_container stored), List.mem_append,
    or_iff_right before]
  cases raised : (container.pending hdr).flag with
  | false => simp [raised]
  | true => simp [raised]

end Folds

theorem handleIndicationMessage_entries {hdr : HeaderValues} {indMsg : IndicationMessage}
    {format1 : IndicationMessageFormat1} (isFormat1 : indMsg.indMsgType = 1)
    (content : indMsg.indMsg = .pointer format1)
    (stored : ∀ container ∈ format1.pmContainers, container.Stored) :
    (handleIndicationMessage hdr indMsg).entries =
      format1.pmContainers.flatMap fun container => (handlePMContainer hdr () container).entries := by
  have all : ∀ container ∈ format1.pmContainers,
      (handlePMContainer hdr () container).result = .ok () :=
    fun container member => handlePMContainer_result (stored container member)
  have asserted : (lift (assertPointer indMsg.indMsg) : Handling _).result = .ok format1 := by
    rw [content]
    rfl
  rw [handleIndicationMessage, if_pos isFormat1, bind_entries_of_ok asserted, forEach_entries all]
  rfl

theorem handleIndication_entries {header : IndicationHeaderFormat1} {hdr : HeaderValues}
    {decodedMsg : Option CIndicationMessage} {indMsg : IndicationMessage}
    {format1 : IndicationMessageFormat1}
    (read : handleIndicationHeader { indHdrType := 1, indHdr := .pointer header } = .ok hdr)
    (copied : getIndicationMessage decodedMsg = .ok indMsg)
    (content : indMsg.indMsg = .pointer format1) :
    (handleIndication (.ok { indHdrType := 1, indHdr := .pointer header }) decodedMsg).entries =
      format1.pmContainers.flatMap fun container => (handlePMContainer hdr () container).entries := by
  rcases getIndicationMessage_stored copied with ⟨other, isFormat1, isPointer, stored⟩
  obtain rfl : format1 = other := Interface.pointer.inj (content.symm.trans isPointer)
  rw [handleIndication, bind_entries_of_ok rfl, bind_entries_of_ok read,
    bind_entries_of_ok copied, handleIndicationMessage_entries isFormat1 content stored]
  rfl

/-- A handled message writes one record for each container that raises the flag. -/
theorem headerCellMetrics_written_iff {header : IndicationHeaderFormat1} {hdr : HeaderValues}
    {decodedMsg : Option CIndicationMessage} {indMsg : IndicationMessage}
    {format1 : IndicationMessageFormat1}
    (read : handleIndicationHeader { indHdrType := 1, indHdr := .pointer header } = .ok hdr)
    (copied : getIndicationMessage decodedMsg = .ok indMsg)
    (content : indMsg.indMsg = .pointer format1) {container : PMContainerType}
    {record : CellMetricsEntry} :
    .headerCellMetrics container record ∈
        (handleIndication (.ok { indHdrType := 1, indHdr := .pointer header })
          decodedMsg).entries ↔
      container ∈ format1.pmContainers ∧ (container.pending hdr).flag = true ∧
        record = (container.pending hdr).cellMetrics := by
  have ⟨other, _, isPointer, stored⟩ := getIndicationMessage_stored copied
  have same : format1 = other := Interface.pointer.inj (content.symm.trans isPointer)
  subst same
  rw [handleIndication_entries read copied content, List.mem_flatMap]
  constructor
  · rintro ⟨source, member, written⟩
    have ⟨same, shown⟩ := (headerCellMetrics_mem_iff (stored source member)).mp written
    rw [same]
    exact ⟨member, shown⟩
  · rintro ⟨member, shown⟩
    exact ⟨container, member, (headerCellMetrics_mem_iff (stored container member)).mpr
      ⟨rfl, shown⟩⟩

def ownReport (header : IndicationHeaderFormat1) (container : PMContainerType) :
    Option CellResourceReportType :=
  container.cellReports.find? fun report => header.nRCGI = some report.nRCGI

/-- The report for the header's PLMN, slice and 5QI. -/
def ownBearer (header : IndicationHeaderFormat1) (container : PMContainerType) : Option Bearer :=
  container.bearers.find? fun bearer =>
    header.plmnID = some bearer.plmnID ∧ header.sliceID = some bearer.sliceID ∧
      header.fiveQI = bearer.report.fiveQI

/-- The available PRBs of a report, downlink and uplink; an absent total is -1, and shows like
an absent report. -/
def availPRBs (report : Option CellResourceReportType) : Int × Int :=
  let shown := fun total : CellResourceReportType → Int =>
    (report.map fun report => unlessMinusOne (total report)).getD 0
  (shown fun report => report.totalofAvailablePRBs.dl,
    shown fun report => report.totalofAvailablePRBs.ul)

def bigEndian (octets : List UInt8) : Nat :=
  octets.foldl (fun value octet => value * 256 + octet.toNat) 0

def bytesDenoted (bytes : Option Integer) : Int :=
  (bytes.map fun integer => (bigEndian integer.buf : Int)).getD 0

def bytesShown (bytes : Option Integer) : Int :=
  unlessMinusOne ((bytes.map readInteger).getD (-1))

/-- The record carries the measurements of the header's cell and bearer. -/
structure Attributed (header : IndicationHeaderFormat1) (container : PMContainerType)
    (record : CellMetricsEntry) : Prop where
  prbs : (record.availPRBDL, record.availPRBUL) = availPRBs (ownReport header container)
  dl : record.pDCPBytesDL =
    bytesDenoted ((ownBearer header container).bind fun bearer => bearer.report.pDCPBytesDL)
  ul : record.pDCPBytesUL =
    bytesDenoted ((ownBearer header container).bind fun bearer => bearer.report.pDCPBytesUL)

/-- Where a report has the header's ids as they are parsed, the last report that counts shows
what the report with the header's ids shows. -/
structure LastIsOwn (header : IndicationHeaderFormat1) (hdr : HeaderValues)
    (container : PMContainerType) : Prop where
  prbs : (∃ report ∈ container.cellReports, report.Named hdr) →
    availPRBs (lastReadable container.cellReports) = availPRBs (ownReport header container)
  dl : (∃ bearer ∈ container.bearers, bearer.Selected hdr) →
    bytesShown (lastBytes FQIPERSlicesPerPlmnType.pDCPBytesDL (fromSelected hdr container.bearers)) =
      bytesDenoted ((ownBearer header container).bind fun bearer => bearer.report.pDCPBytesDL)
  ul : (∃ bearer ∈ container.bearers, bearer.Selected hdr) →
    bytesShown (lastBytes FQIPERSlicesPerPlmnType.pDCPBytesUL (fromSelected hdr container.bearers)) =
      bytesDenoted ((ownBearer header container).bind fun bearer => bearer.report.pDCPBytesUL)

theorem reports_exclusive (container : PMContainerType) :
    container.cellReports = [] ∨ container.bearers = [] := by
  unfold PMContainerType.cellReports PMContainerType.bearers
  split
  · next isDU => simp [isDU]
  · exact .inl rfl

variable {header : IndicationHeaderFormat1} {hdr : HeaderValues} {container : PMContainerType}

theorem attributed_of_cells (noBearers : container.bearers = []) :
    ((container.pending hdr).flag = true →
      Attributed header container (container.pending hdr).cellMetrics) ↔
      LastIsOwn header hdr container := by
  have folded : CellsFolded hdr container.cellReports (container.pending hdr) := by
    rw [PMContainerType.pending, noBearers, List.foldl_nil]
    exact cells_folded container.cellReports
  have noOwn : ownBearer header container = none := by simp [ownBearer, noBearers]
  have unselected : ¬ ∃ bearer ∈ container.bearers, bearer.Selected hdr := by simp [noBearers]
  have shows : (container.pending hdr).flag = true →
      ((container.pending hdr).cellMetrics.availPRBDL,
        (container.pending hdr).cellMetrics.availPRBUL) =
        availPRBs (lastReadable container.cellReports) := by
    intro raised
    rcases folded.last raised with ⟨last, newest, dl, ul⟩
    simp [Pending.cellMetrics, availPRBs, newest, dl, ul]
  constructor
  · intro attributed
    refine ⟨fun named => ?_, fun selected => absurd selected unselected,
      fun selected => absurd selected unselected⟩
    have raised := folded.flag.mpr named
    exact (shows raised).symm.trans (attributed raised).prbs
  · intro own raised
    refine ⟨(shows raised).trans (own.prbs (folded.flag.mp raised)), ?_, ?_⟩
    · simp [noOwn, Pending.cellMetrics, folded.bytes.1, unlessMinusOne, bytesDenoted]
    · simp [noOwn, Pending.cellMetrics, folded.bytes.2, unlessMinusOne, bytesDenoted]

theorem attributed_of_bearers (noCells : container.cellReports = []) :
    ((container.pending hdr).flag = true →
      Attributed header container (container.pending hdr).cellMetrics) ↔
      LastIsOwn header hdr container := by
  have lowered : Pending.reset.flag = false := rfl
  have folded : container.pending hdr =
      if ∃ bearer ∈ container.bearers, bearer.Selected hdr then
        (fromSelected hdr container.bearers).foldl (Pending.bearer hdr)
          { Pending.reset with flag := true }
      else .reset := by
    rw [PMContainerType.pending, noCells, List.foldl_nil, foldl_bearers _ lowered]
  have noOwn : ownReport header container = none := by simp [ownReport, noCells]
  have unnamed : ¬ ∃ report ∈ container.cellReports, report.Named hdr := by simp [noCells]
  by_cases selected : ∃ bearer ∈ container.bearers, bearer.Selected hdr
  · have counted : BearersRead (fromSelected hdr container.bearers)
        { Pending.reset with flag := true } (container.pending hdr) := by
      rw [folded, if_pos selected]
      exact bearers_read _ rfl
    have showsDL : (container.pending hdr).cellMetrics.pDCPBytesDL = bytesShown
        (lastBytes FQIPERSlicesPerPlmnType.pDCPBytesDL (fromSelected hdr container.bearers)) :=
      congrArg unlessMinusOne counted.dl
    have showsUL : (container.pending hdr).cellMetrics.pDCPBytesUL = bytesShown
        (lastBytes FQIPERSlicesPerPlmnType.pDCPBytesUL (fromSelected hdr container.bearers)) :=
      congrArg unlessMinusOne counted.ul
    constructor
    · intro attributed
      have record := attributed counted.flag
      exact ⟨fun named => absurd named unnamed, fun _ => showsDL.symm.trans record.dl,
        fun _ => showsUL.symm.trans record.ul⟩
    · intro own _
      refine ⟨?_, showsDL.trans (own.dl selected), showsUL.trans (own.ul selected)⟩
      simp [noOwn, Pending.cellMetrics, counted.prbs, Pending.reset, unlessMinusOne, availPRBs]
  · rw [if_neg selected] at folded
    constructor
    · intro _
      exact ⟨fun named => absurd named unnamed, fun found => absurd found selected,
        fun found => absurd found selected⟩
    · intro _ raised
      rw [folded] at raised
      cases raised

/-- In every handled message, the record at the end of each PM container describes the
header's cell and bearer exactly where the last report of the container that counts shows what
the own report shows. -/
theorem headerCellMetrics_attributed_iff {decodedMsg : Option CIndicationMessage}
    {indMsg : IndicationMessage} {format1 : IndicationMessageFormat1}
    (read : handleIndicationHeader { indHdrType := 1, indHdr := .pointer header } = .ok hdr)
    (copied : getIndicationMessage decodedMsg = .ok indMsg)
    (content : indMsg.indMsg = .pointer format1) :
    (∀ container record, .headerCellMetrics container record ∈
        (handleIndication (.ok { indHdrType := 1, indHdr := .pointer header })
          decodedMsg).entries →
      Attributed header container record) ↔
      ∀ container ∈ format1.pmContainers, LastIsOwn header hdr container := by
  have exact : ∀ container : PMContainerType, ((container.pending hdr).flag = true →
      Attributed header container (container.pending hdr).cellMetrics) ↔
      LastIsOwn header hdr container := by
    intro container
    cases reports_exclusive container with
    | inl noCells => exact attributed_of_bearers noCells
    | inr noBearers => exact attributed_of_cells noBearers
  constructor
  · intro attributed container member
    refine (exact container).mp fun raised => attributed container _ ?_
    exact (headerCellMetrics_written_iff read copied content).mpr ⟨member, raised, rfl⟩
  · intro own container record written
    have ⟨member, raised, same⟩ := (headerCellMetrics_written_iff read copied content).mp written
    rw [same]
    exact (exact container).mpr (own container member) raised

def servedHeader : IndicationHeaderFormat1 where
  globalKPMnodeIDType := 0
  globalKPMnodeID := .nil
  nRCGI := some servedCell.nRCGI.toGo
  plmnID := none
  sliceID := none
  fiveQI := -1
  qci := -1

def plmn00F120 : PlmnIdentity := ⟨[0x00, 0xF1, 0x20], rfl⟩

def neighbourCell : CCellResourceReport where
  nRCGI := { plmn := plmn00F120, cell := servedCell.nRCGI.cell }
  dlTotalofAvailablePRBs := some 50
  ulTotalofAvailablePRBs := some 60
  servedPlmnPerCellList := servedCell.servedPlmnPerCellList

def cellsMessage (cells : List CCellResourceReport) : CIndicationMessage where
  ricStyleType := 1
  indicationMessage :=
    .format1 [{ performanceContainer := some (.oDU cells), theRANContainer := none }]

/-- The header's cell is reported behind its neighbour: a record is written, and it is right. -/
theorem servedMessage_attributed :
    let entries := (handleIndication (.ok { indHdrType := 1, indHdr := .pointer servedHeader })
      (some (cellsMessage [neighbourCell, servedCell]))).entries
    (∃ container record, .headerCellMetrics container record ∈ entries) ∧
      ∀ container record, .headerCellMetrics container record ∈ entries →
        Attributed servedHeader container record := by
  constructor
  · exact ⟨_, _, (headerCellMetrics_written_iff rfl rfl rfl).mpr
      ⟨List.mem_singleton_self _, by decide +kernel, rfl⟩⟩
  · refine (headerCellMetrics_attributed_iff rfl rfl rfl).mpr ?_
    intro only member
    obtain rfl := List.mem_singleton.mp member
    refine ⟨fun _ => by decide +kernel, ?_, ?_⟩
    · rintro ⟨bearer, within, -⟩
      cases within
    · rintro ⟨bearer, within, -⟩
      cases within

def PMContainerType.Distinct (container : PMContainerType) : Prop :=
  (container.cellReports.map CellResourceReportType.nRCGI).Nodup ∧
    (container.bearers.map fun bearer =>
      (bearer.plmnID, bearer.sliceID, bearer.report.fiveQI)).Nodup

/-- The report of the neighbour follows that of the header's cell, and its 50 and 60 PRBs are
written for the header's cell, which has 100 and 100. -/
theorem neighbourMessage_misattributed :
    ¬ ∀ header decodedMsg indMsg format1, getIndicationMessage decodedMsg = .ok indMsg →
      indMsg.indMsg = .pointer format1 →
      (∀ container ∈ format1.pmContainers, container.Distinct) →
      ∀ container record, .headerCellMetrics container record ∈
          (handleIndication (.ok { indHdrType := 1, indHdr := .pointer header })
            decodedMsg).entries →
        Attributed header container record := by
  intro claim
  have attributed := claim servedHeader (some (cellsMessage [servedCell, neighbourCell])) _ _ rfl
    rfl (by
    intro container member
    obtain rfl := List.mem_singleton.mp member
    exact ⟨by decide +kernel, List.nodup_nil⟩)
  have recorded := attributed _ _ ((headerCellMetrics_written_iff rfl rfl rfl).mpr
    ⟨List.mem_singleton_self _, by decide +kernel, rfl⟩)
  exact absurd recorded.prbs (by decide +kernel)

end NearRtRic.Kpimon
