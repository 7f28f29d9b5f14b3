import NearRtRic.Kpimon.IndicationMetrics
import NearRtRic.Library.JsonText

/-! Which fields of a UE metrics record reach the text that is stored of it. -/

namespace NearRtRic.Kpimon

open NearRtRic.JsonText

def int64 (value : Int) : Value := .number (integer value)

def Timestamp.fields (timestamp : Timestamp) : List (Shape × Value) :=
  [(⟨"TVsec", "tv_sec"⟩, int64 timestamp.tVsec),
   (⟨"TVnsec", "tv_nsec"⟩, int64 timestamp.tVnsec)]

def Timestamp.json (timestamp : Timestamp) : Value := ofStruct timestamp.fields

def CellRFType.fields (cellRF : CellRFType) : List (Shape × Value) :=
  [(⟨"RSRP", "rsrp"⟩, int64 cellRF.rSRP),
   (⟨"RSRQ", "rsrq"⟩, int64 cellRF.rSRQ),
   (⟨"RSSINR", "rsSinr"⟩, int64 cellRF.rSSINR)]

def CellRFType.json (cellRF : CellRFType) : Value := ofStruct cellRF.fields

def NeighborCellRFType.fields (neighbor : NeighborCellRFType) : List (Shape × Value) :=
  [(⟨"CellID", "CID"⟩, .string neighbor.cellID),
   (⟨"CellRF", "Cell-RF"⟩, neighbor.cellRF.json)]

def NeighborCellRFType.json (neighbor : NeighborCellRFType) : Value := ofStruct neighbor.fields

def neighborCellsJson : Option (List NeighborCellRFType) → Value
  | none => .null
  | some neighbors => .array (neighbors.map NeighborCellRFType.json)

/-- The declaration of `UeMetricsEntry` with its tags. -/
def UeMetricsEntry.fields (ueMetrics : UeMetricsEntry) : List (Shape × Value) :=
  [(⟨"UeID", "UE ID"⟩, int64 ueMetrics.ueID),
   (⟨"ServingCellID", "Serving Cell ID"⟩, .string ueMetrics.servingCellID),
   (⟨"MeasTimestampPDCPBytes", "Meas-Timestamp-PDCP-Bytes"⟩,
    ueMetrics.measTimestampPDCPBytes.json),
   (⟨"PDCPBytesDLDL", "PDCP-Bytes-DL"⟩, int64 ueMetrics.pDCPBytesDLDL),
   (⟨"PDCPBytesULUL", "PDCP-Bytes-UL"⟩, int64 ueMetrics.pDCPBytesULUL),
   (⟨"MeasTimestampPRB", "Meas-Timestamp-PRB"⟩, ueMetrics.measTimestampPRB.json),
   (⟨"PRBUsageDL", "PRB-Usage-DL"⟩, int64 ueMetrics.pRBUsageDL),
   (⟨"PRBUsageUL", "PRB-Usage-UL"⟩, int64 ueMetrics.pRBUsageUL),
   (⟨"MeasTimeRF", "Meas-Time-RF"⟩, ueMetrics.measTimeRF.json),
   (⟨"ServingCellRF", "Serving-Cell-RF"⟩, ueMetrics.servingCellRF.json),
   (⟨"NeighborCellsRF", "Neighbor-Cell-RF"⟩, neighborCellsJson ueMetrics.neighborCellsRF),
   (⟨"QCI", "QCI"⟩, int64 ueMetrics.qCI),
   (⟨"FiveQI", "fiveQI"⟩, int64 ueMetrics.fiveQI),
   (⟨"CellID", "UE ID"⟩, .string ueMetrics.cellID),
   (⟨"MeasPeriodPRB", "MeasPeriodUEPRBUsage"⟩, int64 ueMetrics.measPeriodPRB),
   (⟨"MeasPeriodPDCP", "Meas-Period-PDCP"⟩, int64 ueMetrics.measPeriodPDCP),
   (⟨"MeasPeriodRF", "Meas-Period-RF"⟩, int64 ueMetrics.measPeriodRF),
   (⟨"NumberOfActiveUEs", "Number-of-Active-UEs"⟩, int64 ueMetrics.numberOfActiveUEs),
   (⟨"PDCPBytesDL", "PDCP-Bytes-DL"⟩, ofBytes ueMetrics.pDCPBytesDL),
   (⟨"PDCPBytesUL", "PDCP-Bytes-UL"⟩, ofBytes ueMetrics.pDCPBytesUL),
   (⟨"nRPlmnID", "NR-PLMNID"⟩, ofBytes ueMetrics.nRPlmnID),
   (⟨"nRCellID", "NR-CellID"⟩, ofBytes ueMetrics.nRCellID)]

/-- The text that `writeUeMetrics_db` stores in the field `UE Metrics`. -/
def writeUeMetricsDb (ueMetrics : UeMetricsEntry) : List Char :=
  write (ofStruct ueMetrics.fields)

/-- The fields that are alone with their tags. -/
structure ShownAlike (first second : UeMetricsEntry) : Prop where
  servingCellID : first.servingCellID = second.servingCellID
  measTimestampPDCPBytes : first.measTimestampPDCPBytes = second.measTimestampPDCPBytes
  measTimestampPRB : first.measTimestampPRB = second.measTimestampPRB
  pRBUsageDL : first.pRBUsageDL = second.pRBUsageDL
  pRBUsageUL : first.pRBUsageUL = second.pRBUsageUL
  measTimeRF : first.measTimeRF = second.measTimeRF
  servingCellRF : first.servingCellRF = second.servingCellRF
  neighborCellsRF : first.neighborCellsRF = second.neighborCellsRF
  qCI : first.qCI = second.qCI
  fiveQI : first.fiveQI = second.fiveQI
  measPeriodPRB : first.measPeriodPRB = second.measPeriodPRB
  measPeriodPDCP : first.measPeriodPDCP = second.measPeriodPDCP
  measPeriodRF : first.measPeriodRF = second.measPeriodRF
  numberOfActiveUEs : first.numberOfActiveUEs = second.numberOfActiveUEs

theorem int64_injective : Function.Injective int64 := by
  intro first second same
  exact integer_injective (Value.number.inj same)

/-- The declaration of a type, which does not depend on the values. -/
def timestampShapes : List Shape := (Timestamp.fields {}).map Prod.fst

def cellRFShapes : List Shape := (CellRFType.fields {}).map Prod.fst

def neighborShapes : List Shape := (NeighborCellRFType.fields {}).map Prod.fst

def ueMetricsShapes : List Shape := (UeMetricsEntry.fields {}).map Prod.fst

theorem timestampShapes_kept : timestampShapes.all (keeps timestampShapes) = true := by
  decide +kernel

theorem cellRFShapes_kept : cellRFShapes.all (keeps cellRFShapes) = true := by
  decide +kernel

theorem neighborShapes_kept : neighborShapes.all (keeps neighborShapes) = true := by
  decide +kernel

/-- The UE id and the cell id share a tag, the two byte counts of each direction share one, and
the last two fields are not exported. -/
theorem ueMetricsShapes_kept : ueMetricsShapes.map (keeps ueMetricsShapes) =
    [false, true, true, false, false, true, true, true, true, true, true, true, true, false, true,
      true, true, true, false, false, false, false] := by
  decide +kernel

theorem timestamp_injective : Function.Injective Timestamp.json := by
  intro first second same
  have declared : ∀ timestamp : Timestamp, timestamp.fields.map Prod.fst = timestampShapes :=
    fun _ => rfl
  have values := values_of_ofStruct timestampShapes_kept (declared first) (declared second) same
  simp only [Timestamp.fields, List.map_cons, List.cons.injEq, int64_injective.eq_iff] at values
  cases first
  cases second
  exact Timestamp.mk.injEq .. ▸ ⟨values.1, values.2.1⟩

theorem cellRF_injective : Function.Injective CellRFType.json := by
  intro first second same
  have declared : ∀ cellRF : CellRFType, cellRF.fields.map Prod.fst = cellRFShapes :=
    fun _ => rfl
  have values := values_of_ofStruct cellRFShapes_kept (declared first) (declared second) same
  simp only [CellRFType.fields, List.map_cons, List.cons.injEq, int64_injective.eq_iff] at values
  cases first
  cases second
  exact CellRFType.mk.injEq .. ▸ ⟨values.1, values.2.1, values.2.2.1⟩

theorem neighbor_injective : Function.Injective NeighborCellRFType.json := by
  intro first second same
  have declared : ∀ neighbor : NeighborCellRFType,
      neighbor.fields.map Prod.fst = neighborShapes := fun _ => rfl
  have values := values_of_ofStruct neighborShapes_kept (declared first) (declared second) same
  simp only [NeighborCellRFType.fields, List.map_cons, List.cons.injEq, Value.string.injEq,
    cellRF_injective.eq_iff] at values
  cases first
  cases second
  exact NeighborCellRFType.mk.injEq .. ▸ ⟨values.1, values.2.1⟩

theorem neighborCells_injective : Function.Injective neighborCellsJson := by
  intro first second same
  cases first with
  | none =>
      cases second with
      | none => rfl
      | some neighbors => cases same
  | some neighbors =>
      cases second with
      | none => cases same
      | some others =>
          have items := Value.array.inj same
          rw [List.map_injective_iff.mpr neighbor_injective items]

/-- Two records are written alike exactly if the fields agree that are alone with their tags. -/
theorem texts_eq_iff (first second : UeMetricsEntry) :
    writeUeMetricsDb first = writeUeMetricsDb second ↔ ShownAlike first second := by
  have declared : ∀ ueMetrics : UeMetricsEntry,
      ueMetrics.fields.map Prod.fst = ueMetricsShapes := fun _ => rfl
  rw [writeUeMetricsDb, writeUeMetricsDb, write_injective.eq_iff,
    ofStruct_eq_iff ueMetricsShapes_kept (declared first) (declared second)]
  simp only [UeMetricsEntry.fields, masked, List.zip_cons_cons, List.zip_nil_right,
    List.filter_cons, if_true, Bool.false_eq_true, if_false, List.filter_nil, List.map_cons,
    List.map_nil, List.cons.injEq, Value.string.injEq, int64_injective.eq_iff,
    timestamp_injective.eq_iff, cellRF_injective.eq_iff, neighborCells_injective.eq_iff]
  constructor
  · rintro ⟨servingCellID, timestampPDCP, timestampPRB, usageDL, usageUL, timeRF, cellRF,
      neighbors, qCI, fiveQI, periodPRB, periodPDCP, periodRF, activeUEs, -⟩
    exact ⟨servingCellID, timestampPDCP, timestampPRB, usageDL, usageUL, timeRF, cellRF,
      neighbors, qCI, fiveQI, periodPRB, periodPDCP, periodRF, activeUEs⟩
  · intro alike
    exact ⟨alike.servingCellID, alike.measTimestampPDCPBytes, alike.measTimestampPRB,
      alike.pRBUsageDL, alike.pRBUsageUL, alike.measTimeRF, alike.servingCellRF,
      alike.neighborCellsRF, alike.qCI, alike.fiveQI, alike.measPeriodPRB, alike.measPeriodPDCP,
      alike.measPeriodRF, alike.numberOfActiveUEs, trivial⟩

/-- Two records are stored as different texts exactly if a field differs that is alone with its
tag. -/
theorem texts_differ_iff (first second : UeMetricsEntry) :
    writeUeMetricsDb first ≠ writeUeMetricsDb second ↔ ¬ ShownAlike first second :=
  (texts_eq_iff first second).not

/-- The records of two cells are one text. -/
theorem cells_share_text :
    ¬ ∀ first second : UeMetricsEntry, first.cellID ≠ second.cellID →
      writeUeMetricsDb first ≠ writeUeMetricsDb second := by
  intro claim
  refine claim { cellID := "00101" } { cellID := "00102" } (by decide) ?_
  exact (texts_eq_iff _ _).mpr ⟨rfl, rfl, rfl, rfl, rfl, rfl, rfl, rfl, rfl, rfl, rfl, rfl, rfl, rfl⟩

end NearRtRic.Kpimon
