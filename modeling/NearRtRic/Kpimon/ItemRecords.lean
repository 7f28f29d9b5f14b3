import Mathlib.Data.List.Forall2
import NearRtRic.Kpimon.CellAttribution

/-! When the record written for a 5QI or a QCI of a DU container carries the values of its own
item. One record variable serves all items of a cell. -/

namespace NearRtRic.Kpimon

open NearRtRic.CMemory NearRtRic.FixedArray NearRtRic.Journal HeaderConsumer

inductive ReportItem
  | fiveQI (item : FQIPERSlicesPerPlmnPerCellType)
  | qci (item : DUPMEPCPerQCIReportType)
  deriving DecidableEq, Repr

def ReportItem.fiveQI? : ReportItem → Option FQIPERSlicesPerPlmnPerCellType
  | .fiveQI item => some item
  | .qci _ => none

def ReportItem.qci? : ReportItem → Option DUPMEPCPerQCIReportType
  | .fiveQI _ => none
  | .qci item => some item

def DUPM5GCContainerType.items (duPM5GC : DUPM5GCContainerType) : List ReportItem :=
  duPM5GC.slicePerPlmnPerCells.flatMap fun slice =>
    slice.fQIPERSlicesPerPlmnPerCells.map .fiveQI

def DUPMEPCContainerType.items (duPMEPC : DUPMEPCContainerType) : List ReportItem :=
  duPMEPC.perQCIReports.map .qci

def ServedPlmnPerCellType.items (served : ServedPlmnPerCellType) : List ReportItem :=
  (served.duPM5GC.map DUPM5GCContainerType.items).getD [] ++
    (served.duPMEPC.map DUPMEPCContainerType.items).getD []

def CellResourceReportType.items (report : CellResourceReportType) : List ReportItem :=
  report.servedPlmnPerCells.flatMap ServedPlmnPerCellType.items

def CellResourceReportType.cellRecord (report : CellResourceReportType) (cellID : String) :
    UeMetricsEntry where
  nRPlmnID := report.nRCGI.plmnID.buf
  nRCellID := report.nRCGI.nRCellID.buf
  cellID := cellID

/-- The cell, and of the measured values those of the item only. -/
def ReportItem.ownRecord (cellRecord : UeMetricsEntry) : ReportItem → UeMetricsEntry
  | .fiveQI item =>
      { cellRecord with
        fiveQI := item.fiveQI, pRBUsageDL := item.prbUsage.dl, pRBUsageUL := item.prbUsage.ul }
  | .qci item =>
      { cellRecord with
        qCI := item.qci, pRBUsageDL := item.prbUsage.dl, pRBUsageUL := item.prbUsage.ul }

def Write.ueMetrics? : Write → Option UeMetricsEntry
  | .ueMetrics record => some record
  | .cellMetrics _ => none
  | .headerCellMetrics .. => none

/-- The calls of `writeUeMetrics_db`. -/
def ueRecords (entries : List Write) : List UeMetricsEntry :=
  entries.filterMap Write.ueMetrics?

/-- The calls for a report: one for the cell, then one for each item with what it should carry.
A report whose cell id cannot be read is left with `continue`. -/
def CellResourceReportType.ownRecords (report : CellResourceReportType) :
    List (Option UeMetricsEntry) :=
  match parseNRCGI report.nRCGI with
  | .ok cellID =>
      none :: report.items.map fun item => some (item.ownRecord (report.cellRecord cellID))
  | .error _ => []

/-- The calls for a PM container. Those of a CU container are for no item of a DU. -/
def PMContainerType.ownRecords (hdr : HeaderValues) (container : PMContainerType) :
    List (Option UeMetricsEntry) :=
  match container.content with
  | some (.oDU oDU) => oDU.cellResourceReports.flatMap CellResourceReportType.ownRecords
  | _ => (ueRecords (handlePMContainer hdr () container).entries).map fun _ => none

def Described : Option UeMetricsEntry → UeMetricsEntry → Prop
  | none, _ => True
  | some own, record => record = own

instance : (own : Option UeMetricsEntry) → (record : UeMetricsEntry) →
    Decidable (Described own record)
  | none, _ => inferInstanceAs (Decidable True)
  | some own, record => inferInstanceAs (Decidable (record = own))

/-- Every record written for an item carries the values of that item. -/
def ItemsDescribed (hdr : HeaderValues) (indMsg : IndicationMessage)
    (format1 : IndicationMessageFormat1) : Prop :=
  List.Forall₂ Described (format1.pmContainers.flatMap (PMContainerType.ownRecords hdr))
    (ueRecords (handleIndicationMessage hdr indMsg).entries)

instance (hdr : HeaderValues) (indMsg : IndicationMessage) (format1 : IndicationMessageFormat1) :
    Decidable (ItemsDescribed hdr indMsg format1) :=
  inferInstanceAs (Decidable (List.Forall₂ _ _ _))

def lastFiveQI (before : List ReportItem) : Option FQIPERSlicesPerPlmnPerCellType :=
  (before.filterMap ReportItem.fiveQI?).getLast?

def lastQCI (before : List ReportItem) : Option DUPMEPCPerQCIReportType :=
  (before.filterMap ReportItem.qci?).getLast?

/-- The downlink usage of a 5QI happens to be that of the last QCI of the cell before it, or 0
without one, and what is left of the other kind of item is 0. -/
def ReportItem.Undisturbed (before : List ReportItem) : ReportItem → Prop
  | .fiveQI item =>
      item.prbUsage.dl = ((lastQCI before).map fun last => last.prbUsage.dl).getD 0 ∧
        ((lastQCI before).map DUPMEPCPerQCIReportType.qci).getD 0 = 0
  | .qci _ => ((lastFiveQI before).map FQIPERSlicesPerPlmnPerCellType.fiveQI).getD 0 = 0

def CellResourceReportType.Undisturbed (report : CellResourceReportType) : Prop :=
  ∀ before item after, report.items = before ++ item :: after → item.Undisturbed before

def assignItem (ueMetrics : UeMetricsEntry) : ReportItem → UeMetricsEntry
  | .fiveQI item =>
      { ueMetrics with fiveQI := item.fiveQI, pRBUsageUL := item.prbUsage.ul }
  | .qci item =>
      { ueMetrics with
        qCI := item.qci, pRBUsageDL := item.prbUsage.dl, pRBUsageUL := item.prbUsage.ul }

def writeItem : UeMetricsEntry → ReportItem → Handling UeMetricsEntry :=
  writeNext .ueMetrics assignItem

def CellResourceReportType.writes (report : CellResourceReportType) : List Write :=
  match parseNRCGI report.nRCGI with
  | .ok cellID =>
      .ueMetrics (report.cellRecord cellID) ::
        .cellMetrics
          { nRPlmnID := report.nRCGI.plmnID.buf, nRCellID := report.nRCGI.nRCellID.buf, cellID
            totalofAvailablePRBsDL := report.totalofAvailablePRBs.dl
            totalofAvailablePRBsUL := report.totalofAvailablePRBs.ul
            measPeriodPDCP := 20 } ::
        (report.items.scanl assignItem (report.cellRecord cellID)).tail.map .ueMetrics
  | .error _ => []

namespace MetricsLoops

theorem fQIPERSlicesPerPlmnPerCell_eq (ueMetrics : UeMetricsEntry)
    (item : FQIPERSlicesPerPlmnPerCellType) :
    fQIPERSlicesPerPlmnPerCell ueMetrics item = writeItem ueMetrics (.fiveQI item) := rfl

theorem perQCIReport_eq (ueMetrics : UeMetricsEntry) (item : DUPMEPCPerQCIReportType) :
    perQCIReport ueMetrics item = writeItem ueMetrics (.qci item) := rfl

theorem slicePerPlmnPerCell_eq (ueMetrics : UeMetricsEntry) (slice : SlicePerPlmnPerCellType) :
    slicePerPlmnPerCell ueMetrics slice =
      forEach writeItem ueMetrics (slice.fQIPERSlicesPerPlmnPerCells.map .fiveQI) :=
  forEach_map _ fQIPERSlicesPerPlmnPerCell_eq ueMetrics slice.fQIPERSlicesPerPlmnPerCells

theorem duPM5GC_eq (ueMetrics : UeMetricsEntry) (duPM5GC : Option DUPM5GCContainerType) :
    (ifNotNil duPM5GC ueMetrics fun duPM5GC =>
        forEach slicePerPlmnPerCell ueMetrics duPM5GC.slicePerPlmnPerCells) =
      forEach writeItem ueMetrics ((duPM5GC.map DUPM5GCContainerType.items).getD []) := by
  cases duPM5GC with
  | none => rfl
  | some duPM5GC =>
      exact forEach_flatMap slicePerPlmnPerCell_eq ueMetrics duPM5GC.slicePerPlmnPerCells

theorem duPMEPC_eq (ueMetrics : UeMetricsEntry) (duPMEPC : Option DUPMEPCContainerType) :
    (ifNotNil duPMEPC ueMetrics fun duPMEPC =>
        forEach perQCIReport ueMetrics duPMEPC.perQCIReports) =
      forEach writeItem ueMetrics ((duPMEPC.map DUPMEPCContainerType.items).getD []) := by
  cases duPMEPC with
  | none => rfl
  | some duPMEPC => exact forEach_map _ perQCIReport_eq ueMetrics duPMEPC.perQCIReports

theorem servedPlmnPerCell_eq (ueMetrics : UeMetricsEntry) (served : ServedPlmnPerCellType) :
    servedPlmnPerCell ueMetrics served = forEach writeItem ueMetrics served.items := by
  rw [servedPlmnPerCell, ServedPlmnPerCellType.items, forEach_append]
  simp only [duPM5GC_eq, duPMEPC_eq]

theorem items_entries (ueMetrics : UeMetricsEntry) (report : CellResourceReportType) :
    (forEach servedPlmnPerCell ueMetrics report.servedPlmnPerCells).entries =
      (report.items.scanl assignItem ueMetrics).tail.map Write.ueMetrics := by
  rw [forEach_flatMap servedPlmnPerCell_eq]
  exact forEach_writeNext_entries Write.ueMetrics assignItem ueMetrics report.items

variable {hdr : HeaderValues}

/-- What a report writes does not depend on what the reports before it have left. -/
theorem cellResourceReport_entries (pending : Pending) (report : CellResourceReportType) :
    (cellResourceReport hdr pending report).entries = report.writes := by
  unfold cellResourceReport CellResourceReportType.writes
  cases parsed : parseNRCGI report.nRCGI with
  | error stop => cases stop <;> rfl
  | ok cellID =>
      have items := items_entries (report.cellRecord cellID) report
      rcases ends_forEach ends_servedPlmnPerCell (report.cellRecord cellID)
        report.servedPlmnPerCells with ⟨last, ends⟩
      simp only [CellResourceReportType.cellRecord] at items ends ⊢
      simp only [orContinue]
      rw [bind_entries_of_ok rfl, bind_entries_of_ok rfl, bind_entries_of_ok ends, items,
        pure_entries, List.append_nil]
      rfl

theorem oDU_entries {container : ODUPFContainerType}
    (stored : ∀ report ∈ container.cellResourceReports, report.Stored) (pending : Pending) :
    (oDU hdr pending container).entries =
      container.cellResourceReports.flatMap CellResourceReportType.writes :=
  forEach_entries_of_same
    (fun report member pending => ⟨_, cellResourceReport_result (stored report member) pending⟩)
    (fun report _ pending => cellResourceReport_entries pending report) pending

end MetricsLoops

theorem ueRecords_append (before after : List Write) :
    ueRecords (before ++ after) = ueRecords before ++ ueRecords after :=
  List.filterMap_append

theorem ueRecords_map (records : List UeMetricsEntry) :
    ueRecords (records.map Write.ueMetrics) = records := by
  rw [ueRecords, List.filterMap_map]
  exact List.filterMap_some

theorem ueRecords_flatMap {Item : Type} (writes : Item → List Write) (items : List Item) :
    ueRecords (items.flatMap writes) = items.flatMap fun item => ueRecords (writes item) := by
  induction items with
  | nil => rfl
  | cons item items ih =>
      rw [List.flatMap_cons, ueRecords_append, ih, List.flatMap_cons]

section SideBySide

variable {Source Left Right : Type} {R : Left → Right → Prop}

theorem forall₂_append_iff {left left' : List Left} {right right' : List Right}
    (lengths : left.length = right.length) :
    List.Forall₂ R (left ++ left') (right ++ right') ↔
      List.Forall₂ R left right ∧ List.Forall₂ R left' right' := by
  constructor
  · intro beside
    have first := List.forall₂_take left.length beside
    have second := List.forall₂_drop left.length beside
    rw [List.take_left, lengths, List.take_left] at first
    rw [List.drop_left, lengths, List.drop_left] at second
    exact ⟨first, second⟩
  · rintro ⟨first, second⟩
    exact List.rel_append first second

theorem forall₂_flatMap_iff {left : Source → List Left} {right : Source → List Right}
    {sources : List Source}
    (lengths : ∀ source ∈ sources, (left source).length = (right source).length) :
    List.Forall₂ R (sources.flatMap left) (sources.flatMap right) ↔
      ∀ source ∈ sources, List.Forall₂ R (left source) (right source) := by
  induction sources with
  | nil => simp
  | cons source sources ih =>
      rw [List.flatMap_cons, List.flatMap_cons, forall₂_append_iff (lengths source (by simp)),
        ih fun other member => lengths other (by simp [member]), List.forall_mem_cons]

/-- The states of a fold beside its items, by what is in front of each item. -/
theorem forall₂_scanl_iff {State Item : Type} {R : Item → State → Prop}
    {next : State → Item → State} (items : List Item) (state : State) :
    List.Forall₂ R items (items.scanl next state).tail ↔
      ∀ before item after, items = before ++ item :: after →
        R item (next (before.foldl next state) item) := by
  induction items generalizing state with
  | nil => simp
  | cons first items ih =>
      have tail : ((first :: items).scanl next state).tail =
          next state first :: (items.scanl next (next state first)).tail := by
        cases items <;> simp
      rw [tail, List.forall₂_cons, ih]
      constructor
      · rintro ⟨here, later⟩ before item after split
        cases before with
        | nil =>
            obtain ⟨rfl, -⟩ := List.cons.inj split
            exact here
        | cons other before =>
            obtain ⟨rfl, rest⟩ := List.cons.inj split
            exact later before item after rest
      · intro all
        constructor
        · exact all [] first items rfl
        · intro before item after split
          exact all (first :: before) item after (congrArg (first :: ·) split)

end SideBySide

/-- What the variable holds behind some items: of each field the value of the last item that
sets it. -/
theorem foldl_assignItem (report : CellResourceReportType) (cellID : String)
    (before : List ReportItem) :
    ∃ ul, before.foldl assignItem (report.cellRecord cellID) =
      { report.cellRecord cellID with
        fiveQI := ((lastFiveQI before).map FQIPERSlicesPerPlmnPerCellType.fiveQI).getD 0
        qCI := ((lastQCI before).map DUPMEPCPerQCIReportType.qci).getD 0
        pRBUsageDL := ((lastQCI before).map fun last => last.prbUsage.dl).getD 0
        pRBUsageUL := ul } := by
  induction before using List.reverseRecOn with
  | nil => exact ⟨0, rfl⟩
  | append_singleton before item ih =>
      rcases ih with ⟨ul, held⟩
      rw [List.foldl_concat, held]
      cases item with
      | fiveQI item =>
          refine ⟨item.prbUsage.ul, ?_⟩
          simp [assignItem, lastFiveQI, lastQCI, ReportItem.fiveQI?, ReportItem.qci?]
      | qci item =>
          refine ⟨item.prbUsage.ul, ?_⟩
          simp [assignItem, lastFiveQI, lastQCI, ReportItem.fiveQI?, ReportItem.qci?]

theorem assigned_own_iff (report : CellResourceReportType) (cellID : String)
    (before : List ReportItem) (item : ReportItem) :
    assignItem (before.foldl assignItem (report.cellRecord cellID)) item =
        item.ownRecord (report.cellRecord cellID) ↔
      item.Undisturbed before := by
  rcases foldl_assignItem report cellID before with ⟨ul, held⟩
  rw [held]
  cases item with
  | fiveQI item =>
      simp [assignItem, ReportItem.ownRecord, ReportItem.Undisturbed,
        CellResourceReportType.cellRecord]
      tauto
  | qci item =>
      simp [assignItem, ReportItem.ownRecord, ReportItem.Undisturbed,
        CellResourceReportType.cellRecord]

theorem reportRecords_eq (report : CellResourceReportType) {cellID : String}
    (readable : parseNRCGI report.nRCGI = .ok cellID) :
    ueRecords report.writes = report.cellRecord cellID ::
      (report.items.scanl assignItem (report.cellRecord cellID)).tail := by
  simp only [CellResourceReportType.writes, readable]
  exact congrArg _ (ueRecords_map _)

theorem described_some_iff {own record : UeMetricsEntry} :
    Described (some own) record ↔ record = own := Iff.rfl

theorem report_described_iff (report : CellResourceReportType) :
    List.Forall₂ Described report.ownRecords (ueRecords report.writes) ↔
      ((parseNRCGI report.nRCGI).isOk → report.Undisturbed) := by
  cases parsed : parseNRCGI report.nRCGI with
  | error stop =>
      simp [CellResourceReportType.ownRecords, CellResourceReportType.writes, parsed, ueRecords,
        Except.isOk, Except.toBool]
  | ok cellID =>
      have unlabelled : Described none (report.cellRecord cellID) := trivial
      rw [reportRecords_eq report parsed, CellResourceReportType.ownRecords, parsed]
      simp only [List.forall₂_cons, unlabelled, true_and, List.forall₂_map_left_iff,
        described_some_iff, forall₂_scanl_iff, assigned_own_iff]
      simp [CellResourceReportType.Undisturbed, Except.isOk, Except.toBool]

theorem report_lengths (report : CellResourceReportType) :
    report.ownRecords.length = (ueRecords report.writes).length := by
  cases parsed : parseNRCGI report.nRCGI with
  | error stop =>
      simp [CellResourceReportType.ownRecords, CellResourceReportType.writes, parsed, ueRecords]
  | ok cellID =>
      rw [reportRecords_eq report parsed, CellResourceReportType.ownRecords, parsed]
      simp

variable {hdr : HeaderValues}

theorem stored_oDU {container : PMContainerType} (stored : container.Stored)
    {oDU : ODUPFContainerType} (content : container.content = some (.oDU oDU)) :
    container.pfContainer = some { containerType := 1, container := .pointer (.oDU oDU) } ∧
      ∀ report ∈ oDU.cellResourceReports, report.Stored := by
  cases present : container.pfContainer with
  | none => simp [PMContainerType.content, present] at content
  | some pf =>
      simp only [PMContainerType.content, present, Option.bind_some] at content
      cases stored.pf pf present with
      | oDU other reports =>
          obtain rfl : other = oDU := by simpa [Interface.content] using content
          exact ⟨rfl, reports⟩
      | oCUCP other => simp [Interface.content] at content
      | oCUUP other plmns => simp [Interface.content] at content

theorem closing_records (container : PMContainerType) (pending : Pending) :
    ueRecords (if pending.flag then
      write (Write.headerCellMetrics container pending.cellMetrics) else pure ()).entries = [] := by
  split <;> rfl

theorem handlePMContainer_oDU_records {container : PMContainerType} (stored : container.Stored)
    {oDU : ODUPFContainerType} (content : container.content = some (.oDU oDU)) :
    ueRecords (handlePMContainer hdr () container).entries =
      oDU.cellResourceReports.flatMap fun report => ueRecords report.writes := by
  rcases stored_oDU stored content with ⟨present, reports⟩
  have loop : (MetricsLoops.oDU hdr .reset oDU).result = _ := MetricsLoops.oDU_result reports .reset
  calc
    ueRecords (handlePMContainer hdr () container).entries
        = ueRecords (ifNotNil container.pfContainer (some .reset)
            (MetricsLoops.pfContainer hdr)).entries := by
      rw [handlePMContainer, bind_entries_of_ok (pfContainer_of_container stored),
        ueRecords_append, closing_records, List.append_nil]
    _ = ueRecords (MetricsLoops.oDU hdr .reset oDU).entries := by
      rw [present, ifNotNil, MetricsLoops.pfContainer, if_pos rfl, bind_entries_of_ok rfl,
        bind_entries_of_ok loop, pure_entries, List.append_nil]
      rfl
    _ = oDU.cellResourceReports.flatMap fun report => ueRecords report.writes := by
      rw [MetricsLoops.oDU_entries reports, ueRecords_flatMap]

/-- The records of a container are as many as what they should carry, and carry it exactly
where the reports of a DU are undisturbed. -/
theorem container_described_iff {container : PMContainerType} (stored : container.Stored) :
    (container.ownRecords hdr).length =
        (ueRecords (handlePMContainer hdr () container).entries).length ∧
      (List.Forall₂ Described (container.ownRecords hdr)
          (ueRecords (handlePMContainer hdr () container).entries) ↔
        ∀ report ∈ container.cellReports, (parseNRCGI report.nRCGI).isOk →
          report.Undisturbed) := by
  by_cases isDU : ∃ oDU, container.content = some (.oDU oDU)
  · rcases isDU with ⟨oDU, content⟩
    have own : container.ownRecords hdr =
        oDU.cellResourceReports.flatMap CellResourceReportType.ownRecords := by
      simp only [PMContainerType.ownRecords, content]
    have reports : container.cellReports = oDU.cellResourceReports := by
      simp only [PMContainerType.cellReports, content]
    have lengths : ∀ report ∈ oDU.cellResourceReports,
        report.ownRecords.length = (ueRecords report.writes).length :=
      fun report _ => report_lengths report
    rw [handlePMContainer_oDU_records stored content, own, reports, forall₂_flatMap_iff lengths]
    constructor
    · rw [List.length_flatMap, List.length_flatMap, List.map_congr_left lengths]
    · simp only [report_described_iff]
  · have own : container.ownRecords hdr =
        (ueRecords (handlePMContainer hdr () container).entries).map fun _ => none := by
      unfold PMContainerType.ownRecords
      split
      · next oDU content => exact absurd ⟨oDU, content⟩ isDU
      · rfl
    have reports : container.cellReports = [] := by
      unfold PMContainerType.cellReports
      split
      · next oDU content => exact absurd ⟨oDU, content⟩ isDU
      · rfl
    rw [own, reports, List.forall₂_map_left_iff, List.forall₂_same]
    exact ⟨List.length_map _, by simp [Described]⟩

/-- In every message as `GetIndicationMessage` stores one, each record written for an item of a
DU container carries the values of that item exactly where no readable report has an item that
the items before it disturb. -/
theorem items_described_iff {indMsg : IndicationMessage} {format1 : IndicationMessageFormat1}
    (isFormat1 : indMsg.indMsgType = 1) (content : indMsg.indMsg = .pointer format1)
    (stored : ∀ container ∈ format1.pmContainers, container.Stored) :
    ItemsDescribed hdr indMsg format1 ↔
      ∀ container ∈ format1.pmContainers, ∀ report ∈ container.cellReports,
        (parseNRCGI report.nRCGI).isOk → report.Undisturbed := by
  rw [ItemsDescribed, handleIndicationMessage_entries isFormat1 content stored, ueRecords_flatMap,
    forall₂_flatMap_iff fun container member => (container_described_iff (stored container member)).1]
  exact forall₂_congr fun container member => (container_described_iff (stored container member)).2

def reportOf (served : List ServedPlmnPerCellType) : CellResourceReportType where
  nRCGI := servedCell.nRCGI.toGo
  totalofAvailablePRBs := { dl := 100, ul := 100 }
  servedPlmnPerCells := served
  servedPlmnPerCellCount := served.length

def servedOf5QI (item : FQIPERSlicesPerPlmnPerCellType) : ServedPlmnPerCellType where
  plmnID := plmn00F110.octets.toGo
  duPM5GC := some
    { slicePerPlmnPerCells :=
        [{ sliceID := { sST := { buf := [1], size := 1 }, sD := none }
           fQIPERSlicesPerPlmnPerCells := [item]
           fQIPERSlicesPerPlmnPerCellCount := 1 }]
      slicePerPlmnPerCellCount := 1 }
  duPMEPC := none

def servedOfQCI (item : DUPMEPCPerQCIReportType) : ServedPlmnPerCellType where
  plmnID := plmn00F120.octets.toGo
  duPM5GC := none
  duPMEPC := some { perQCIReports := [item], perQCIReportCount := 1 }

def formatOf (served : List ServedPlmnPerCellType) : IndicationMessageFormat1 where
  pmContainers :=
    [{ pfContainer := some
        { containerType := 1
          container := .pointer (.oDU
            { cellResourceReports := [reportOf served], cellResourceReportCount := 1 }) }
       ranContainer := none }]
  pmContainerCount := 1

def messageOf (served : List ServedPlmnPerCellType) : IndicationMessage where
  styleType := 1
  indMsgType := 1
  indMsg := .pointer (formatOf served)

def headerOfOtherCell : HeaderValues where
  cellIDHdr := ""
  plmnIDHdr := ""
  sliceIDHdr := -1
  fiveQIHdr := -1

theorem formatOf_stored (served : List ServedPlmnPerCellType) :
    ∀ container ∈ (formatOf served).pmContainers, container.Stored := by
  intro container member
  obtain rfl := List.mem_singleton.mp member
  refine ⟨fun pf present => ?_, rfl⟩
  obtain rfl := Option.some.inj present
  refine .oDU _ fun report member => ?_
  obtain rfl := List.mem_singleton.mp member
  exact ⟨fun _ _ => rfl, fun _ _ => rfl⟩

/-- A QCI 0, and behind it a 5QI with the same downlink usage. -/
def qciThen5QI : List ServedPlmnPerCellType :=
  [servedOfQCI { qci := 0, prbUsage := { dl := 4, ul := 5 } },
    servedOf5QI { fiveQI := 9, prbUsage := { dl := 4, ul := 7 } }]

theorem qciThen5QI_undisturbed : (reportOf qciThen5QI).Undisturbed := by
  have items : (reportOf qciThen5QI).items =
      [.qci { qci := 0, prbUsage := { dl := 4, ul := 5 } },
        .fiveQI { fiveQI := 9, prbUsage := { dl := 4, ul := 7 } }] := rfl
  rw [CellResourceReportType.Undisturbed, items]
  rintro (_ | ⟨first, _ | ⟨second, before⟩⟩) item after split
  · obtain ⟨rfl, -⟩ := List.cons.inj split
    rfl
  · obtain ⟨rfl, rest⟩ := List.cons.inj split
    obtain ⟨rfl, -⟩ := List.cons.inj rest
    exact ⟨rfl, rfl⟩
  · simp at split

theorem qciThen5QI_described :
    ItemsDescribed headerOfOtherCell (messageOf qciThen5QI) (formatOf qciThen5QI) := by
  refine (items_described_iff rfl rfl (formatOf_stored qciThen5QI)).mpr ?_
  intro container member report reported _
  obtain rfl := List.mem_singleton.mp member
  obtain rfl := List.mem_singleton.mp reported
  exact qciThen5QI_undisturbed

/-- The downlink usage 5 of the only item is in no record. -/
theorem messageOf5QI_loses_downlink :
    ¬ ∀ hdr indMsg format1, indMsg.indMsgType = 1 → indMsg.indMsg = .pointer format1 →
      (∀ container ∈ format1.pmContainers, container.Stored) →
      ItemsDescribed hdr indMsg format1 := by
  intro claim
  let served := [servedOf5QI { fiveQI := 9, prbUsage := { dl := 5, ul := 7 } }]
  have described : ItemsDescribed headerOfOtherCell (messageOf served) (formatOf served) :=
    claim _ _ _ rfl rfl (formatOf_stored served)
  exact absurd described (by decide +kernel)

namespace MessageDecoder

theorem servedPlmnPerCellEntry_items {served : CServedPlmnPerCell} {copy : ServedPlmnPerCellType}
    (copied : servedPlmnPerCellEntry served = .ok copy) : copy.items = [] := by
  rcases bind_ok_iff.mp copied with ⟨filled, -, copied⟩
  obtain rfl := pure_ok_iff.mp copied
  rfl

theorem cellResourceReport_items {cell : CCellResourceReport} {report : CellResourceReportType}
    (copied : cellResourceReport cell = .ok report) : report.items = [] := by
  rcases bind_ok_iff.mp copied with ⟨entries, filled, copied⟩
  obtain rfl := pure_ok_iff.mp copied
  apply List.flatMap_eq_nil_iff.mpr
  intro served member
  rcases mem_fill filled member with ⟨source, -, same⟩
  exact servedPlmnPerCellEntry_items same

theorem pfContainer_items {container : CPFContainer} {copy : PFContainerType}
    (copied : pfContainer container = .ok copy) {oDU : ODUPFContainerType}
    (content : copy.container = .pointer (.oDU oDU)) :
    ∀ report ∈ oDU.cellResourceReports, report.items = [] := by
  cases container with
  | oDU cells =>
      rcases bind_ok_iff.mp copied with ⟨other, hother, copied⟩
      obtain rfl := pure_ok_iff.mp copied
      obtain rfl := PFContainerContent.oDU.inj (Interface.pointer.inj content)
      rcases bind_ok_iff.mp hother with ⟨entries, filled, hother⟩
      obtain rfl := pure_ok_iff.mp hother
      intro report member
      rcases mem_fill filled member with ⟨cell, -, same⟩
      exact cellResourceReport_items same
  | oCUCP gNBCUCPName numberOfActiveUEs =>
      obtain rfl := pure_ok_iff.mp copied
      cases content
  | oCUUP gNBCUUPName items =>
      rcases bind_ok_iff.mp copied with ⟨oCUUP, -, copied⟩
      obtain rfl := pure_ok_iff.mp copied
      cases content
  | unknown => cases copied

end MessageDecoder

/-- As long as `GetIndicationMessage` fills copies of its array of served PLMNs, no item
reaches the loops. -/
theorem decoded_items_nil {decodedMsg : Option CIndicationMessage} {indMsg : IndicationMessage}
    {format1 : IndicationMessageFormat1} (copied : getIndicationMessage decodedMsg = .ok indMsg)
    (content : indMsg.indMsg = .pointer format1) :
    ∀ container ∈ format1.pmContainers, ∀ report ∈ container.cellReports, report.items = [] := by
  cases decodedMsg with
  | none => cases copied
  | some decodedMsg =>
      simp only [getIndicationMessage] at copied
      split at copied
      · rcases bind_ok_iff.mp copied with ⟨entries, filled, copied⟩
        obtain rfl := pure_ok_iff.mp copied
        obtain rfl := Interface.pointer.inj content
        intro container member report reported
        rcases mem_fill filled member with ⟨source, -, same⟩
        have stored := MessageDecoder.pmContainer_stored same
        rcases bind_ok_iff.mp same with ⟨pf, hpf, same⟩
        obtain rfl := pure_ok_iff.mp same
        unfold PMContainerType.cellReports at reported
        split at reported
        · next oDU isDU =>
            have present : pf = some _ := (stored_oDU stored isDU).1
            rw [present] at hpf
            rcases MessageDecoder.ifSome_eq_ok hpf with ⟨performance, -, hperformance⟩
            exact MessageDecoder.pfContainer_items hperformance rfl report reported
        · cases reported
      · cases copied

end NearRtRic.Kpimon
