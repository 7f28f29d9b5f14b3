import Mathlib.Tactic
import NearRtRic.Asn1.RoundTrip

/-! The types of E2AP v01.01 as they were generated: each constraint, each list of optional members
and each table of what an id selects has the values of its source file. -/

namespace NearRtRic.Asn1.E2ap

open PerConstraint

def constrained (range_bits effective_bits lower_bound upper_bound : Int) : PerConstraint where
  flags := APC_CONSTRAINED
  range_bits := range_bits
  effective_bits := effective_bits
  lower_bound := lower_bound
  upper_bound := upper_bound

def extensible (range_bits effective_bits lower_bound upper_bound : Int) : PerConstraint where
  flags := APC_CONSTRAINED + APC_EXTENSIBLE
  range_bits := range_bits
  effective_bits := effective_bits
  lower_bound := lower_bound
  upper_bound := upper_bound

theorem ascending_values (count : Nat) :
    ((List.range count).map Int.ofNat).Pairwise (· < ·) := by
  rw [List.pairwise_map]
  exact List.pairwise_lt_range.imp fun less => Int.ofNat_lt.mpr less

/-- The values of a generated enumeration count from 0. -/
def enumeration (count extension : Nat) (within : extension ≤ count + 1) : Enumeration where
  value2enum := (List.range count).map Int.ofNat
  extension := extension
  ascending := ascending_values count
  within := by rwa [List.length_map, List.length_range]

def mandatory (type : Descriptor) : Bool × Descriptor :=
  (false, type)

def optional (type : Descriptor) : Bool × Descriptor :=
  (true, type)

def members : List (Bool × Descriptor) → Elements
  | [] => .nil
  | (optional, type) :: rest => .cons optional none type (members rest)

def alternatives (types : List Descriptor) : Elements :=
  members (types.map mandatory)

def number (value : PerConstraint) : Descriptor :=
  .nativeInteger (some value)

def octetString : Descriptor :=
  .octetString .STR none

def bits (size : PerConstraint) : Descriptor :=
  .octetString .BIT (some size)

def procedureCode : Descriptor :=
  number (constrained 8 8 0 255)

def criticality : Descriptor :=
  .nativeEnumerated (constrained 2 2 0 2) (enumeration 3 0 (by decide))

def protocolIEID : Descriptor :=
  number (constrained 16 16 0 65535)

/-- A number that tells the type of a value, a criticality, and the value. -/
def selecting (id : Descriptor) (rows : List (Int × Nat)) (types : List Descriptor) : Descriptor :=
  .sequence [] none
    (.cons false none id (.cons false none criticality
      (.cons false (some ⟨0, rows⟩) (.openType (alternatives types)) .nil)))

def protocolIESingleContainer (id : Int) (type : Descriptor) : Descriptor :=
  selecting protocolIEID [(id, 1)] [type]

def ricRequestID : Descriptor :=
  .sequence [] (some 2) (members [mandatory (number (constrained 16 16 0 65535)),
    mandatory (number (constrained 16 16 0 65535))])

def ranFunctionID : Descriptor :=
  number (constrained 12 12 0 4095)

def ricEventTriggerDefinition : Descriptor :=
  octetString

def ricActionID : Descriptor :=
  number (constrained 8 8 0 255)

def ricActionType : Descriptor :=
  .nativeEnumerated (extensible 2 2 0 2) (enumeration 3 4 (by decide))

def ricActionDefinition : Descriptor :=
  octetString

def ricSubsequentActionType : Descriptor :=
  .nativeEnumerated (extensible 1 1 0 1) (enumeration 2 3 (by decide))

def ricTimeToWait : Descriptor :=
  .nativeEnumerated (extensible 5 5 0 17) (enumeration 18 19 (by decide))

def ricSubsequentAction : Descriptor :=
  .sequence [] (some 2) (members [mandatory ricSubsequentActionType, mandatory ricTimeToWait])

def ricActionToBeSetupItem : Descriptor :=
  .sequence [2, 3] (some 4) (members [mandatory ricActionID, mandatory ricActionType,
    optional ricActionDefinition, optional ricSubsequentAction])

def ricActionsToBeSetupList : Descriptor :=
  .setOf (some (constrained 4 4 1 16)) (protocolIESingleContainer 19 ricActionToBeSetupItem)

def ricSubscriptionDetails : Descriptor :=
  .sequence [] (some 2) (members [mandatory ricEventTriggerDefinition,
    mandatory ricActionsToBeSetupList])

def ranFunctionDefinition : Descriptor :=
  octetString

def ranFunctionRevision : Descriptor :=
  number (constrained 12 12 0 4095)

def ranFunctionOID : Descriptor :=
  .octetString .STR (some (extensible 10 10 1 1000))

def ranFunctionItem : Descriptor :=
  .sequence [] (some 3) (members [mandatory ranFunctionID, mandatory ranFunctionDefinition,
    mandatory ranFunctionRevision, optional ranFunctionOID])

def ranFunctionsList : Descriptor :=
  .setOf (some (constrained 9 9 0 256)) (protocolIESingleContainer 8 ranFunctionItem)

def ranFunctionIDItem : Descriptor :=
  .sequence [] (some 2) (members [mandatory ranFunctionID, mandatory ranFunctionRevision])

def ranFunctionsIDList : Descriptor :=
  .setOf (some (constrained 9 9 0 256)) (protocolIESingleContainer 6 ranFunctionIDItem)

def ricCallProcessID : Descriptor :=
  octetString

def ricControlHeader : Descriptor :=
  octetString

def ricControlMessage : Descriptor :=
  octetString

def ricControlAckRequest : Descriptor :=
  .nativeEnumerated (extensible 2 2 0 2) (enumeration 3 4 (by decide))

def plmnIdentity : Descriptor :=
  .octetString .STR (some (constrained 0 0 3 3))

def gnbIDChoice : Descriptor :=
  .choice (extensible 0 0 0 0) (some 1) (alternatives [(bits (constrained 4 4 22 32))])

def globalgNBID : Descriptor :=
  .sequence [] (some 2) (members [mandatory plmnIdentity, mandatory gnbIDChoice])

def gnbCUUPID : Descriptor :=
  .integer (some (constrained 36 (-1) 0 68719476735))

def gnbDUID : Descriptor :=
  .integer (some (constrained 36 (-1) 0 68719476735))

def globalE2nodeGNBID : Descriptor :=
  .sequence [1, 2] (some 3) (members [mandatory globalgNBID, optional gnbCUUPID,
    optional gnbDUID])

def engnbID : Descriptor :=
  .choice (extensible 0 0 0 0) (some 1) (alternatives [(bits (constrained 4 4 22 32))])

def globalenGNBID : Descriptor :=
  .sequence [] (some 2) (members [mandatory plmnIdentity, mandatory engnbID])

def globalE2nodeEnGNBID : Descriptor :=
  .sequence [] (some 1) (members [mandatory globalenGNBID])

def enbIDChoice : Descriptor :=
  .choice (extensible 2 2 0 2) (some 3) (alternatives [(bits (constrained 0 0 20 20)),
    (bits (constrained 0 0 18 18)), (bits (constrained 0 0 21 21))])

def globalngeNBID : Descriptor :=
  .sequence [] (some 2) (members [mandatory plmnIdentity, mandatory enbIDChoice])

def globalE2nodeNgENBID : Descriptor :=
  .sequence [] (some 1) (members [mandatory globalngeNBID])

def enbID : Descriptor :=
  .choice (extensible 1 1 0 1) (some 2) (alternatives [(bits (constrained 0 0 20 20)),
    (bits (constrained 0 0 28 28)), (bits (constrained 0 0 18 18)),
    (bits (constrained 0 0 21 21))])

def globalENBID : Descriptor :=
  .sequence [] (some 2) (members [mandatory plmnIdentity, mandatory enbID])

def globalE2nodeENBID : Descriptor :=
  .sequence [] (some 1) (members [mandatory globalENBID])

def globalE2nodeID : Descriptor :=
  .choice (extensible 2 2 0 3) (some 4) (alternatives [globalE2nodeGNBID, globalE2nodeEnGNBID,
    globalE2nodeNgENBID, globalE2nodeENBID])

def e2nodeComponentType : Descriptor :=
  .nativeEnumerated (extensible 3 3 0 5) (enumeration 6 7 (by decide))

def e2nodeComponentGNBCUUPID : Descriptor :=
  .sequence [] (some 1) (members [mandatory gnbCUUPID])

def e2nodeComponentGNBDUID : Descriptor :=
  .sequence [] (some 1) (members [mandatory gnbDUID])

def e2nodeComponentID : Descriptor :=
  .choice (extensible 1 1 0 1) (some 2) (alternatives [e2nodeComponentGNBCUUPID,
    e2nodeComponentGNBDUID])

def e2nodeComponentConfigUpdateGNB : Descriptor :=
  .sequence [0, 1, 2, 3] (some 4) (members [optional octetString, optional octetString,
    optional octetString, optional octetString])

def e2nodeComponentConfigUpdateENgNB : Descriptor :=
  .sequence [0] (some 1) (members [optional octetString])

def e2nodeComponentConfigUpdateNGeNB : Descriptor :=
  .sequence [0, 1] (some 2) (members [optional octetString, optional octetString])

def e2nodeComponentConfigUpdateENB : Descriptor :=
  .sequence [0, 1] (some 2) (members [optional octetString, optional octetString])

def e2nodeComponentConfigUpdate : Descriptor :=
  .choice (extensible 2 2 0 3) (some 4) (alternatives [e2nodeComponentConfigUpdateGNB,
    e2nodeComponentConfigUpdateENgNB, e2nodeComponentConfigUpdateNGeNB,
    e2nodeComponentConfigUpdateENB])

def e2nodeComponentConfigUpdateItem : Descriptor :=
  .sequence [1] (some 3) (members [mandatory e2nodeComponentType, optional e2nodeComponentID,
    mandatory e2nodeComponentConfigUpdate])

def e2nodeComponentConfigUpdateList : Descriptor :=
  .setOf (some (constrained 10 10 1 1024))
    (protocolIESingleContainer 34 e2nodeComponentConfigUpdateItem)

def tNLinformation : Descriptor :=
  .sequence [1] (some 2) (members [mandatory (bits (extensible 8 8 1 160)),
    optional (bits (constrained 0 0 16 16))])

def tNLusage : Descriptor :=
  .nativeEnumerated (extensible 2 2 0 2) (enumeration 3 4 (by decide))

def e2connectionUpdateItem : Descriptor :=
  .sequence [] (some 2) (members [mandatory tNLinformation, mandatory tNLusage])

def e2connectionUpdateList : Descriptor :=
  .setOf (some (constrained 5 5 1 32)) (protocolIESingleContainer 43 e2connectionUpdateItem)

def e2connectionUpdateRemoveItem : Descriptor :=
  .sequence [] (some 1) (members [mandatory tNLinformation])

def e2connectionUpdateRemoveList : Descriptor :=
  .setOf (some (constrained 5 5 1 32)) (protocolIESingleContainer 47 e2connectionUpdateRemoveItem)

def causeRIC : Descriptor :=
  .nativeEnumerated (extensible 4 4 0 10) (enumeration 11 12 (by decide))

def causeRICservice : Descriptor :=
  .nativeEnumerated (extensible 2 2 0 2) (enumeration 3 4 (by decide))

def causeTransport : Descriptor :=
  .nativeEnumerated (extensible 1 1 0 1) (enumeration 2 3 (by decide))

def causeProtocol : Descriptor :=
  .nativeEnumerated (extensible 3 3 0 6) (enumeration 7 8 (by decide))

def causeMisc : Descriptor :=
  .nativeEnumerated (extensible 2 2 0 3) (enumeration 4 5 (by decide))

def cause : Descriptor :=
  .choice (extensible 3 3 0 4) (some 5) (alternatives [causeRIC, causeRICservice, causeTransport,
    causeProtocol, causeMisc])

def ricIndicationSN : Descriptor :=
  number (constrained 16 16 0 65535)

def ricIndicationType : Descriptor :=
  .nativeEnumerated (extensible 1 1 0 1) (enumeration 2 3 (by decide))

def ricIndicationHeader : Descriptor :=
  octetString

def ricIndicationMessage : Descriptor :=
  octetString

def triggeringMessage : Descriptor :=
  .nativeEnumerated (constrained 2 2 0 2) (enumeration 3 0 (by decide))

def typeOfError : Descriptor :=
  .nativeEnumerated (extensible 1 1 0 1) (enumeration 2 3 (by decide))

def criticalityDiagnosticsIEItem : Descriptor :=
  .sequence [] (some 3) (members [mandatory criticality, mandatory protocolIEID,
    mandatory typeOfError])

def criticalityDiagnosticsIEList : Descriptor :=
  .setOf (some (constrained 8 8 1 256)) criticalityDiagnosticsIEItem

def criticalityDiagnostics : Descriptor :=
  .sequence [0, 1, 2, 3, 4] (some 5) (members [optional procedureCode, optional triggeringMessage,
    optional criticality, optional ricRequestID, optional criticalityDiagnosticsIEList])

def ricActionAdmittedItem : Descriptor :=
  .sequence [] (some 1) (members [mandatory ricActionID])

def ricActionAdmittedList : Descriptor :=
  .setOf (some (constrained 4 4 1 16)) (protocolIESingleContainer 14 ricActionAdmittedItem)

def ricActionNotAdmittedItem : Descriptor :=
  .sequence [] (some 2) (members [mandatory ricActionID, mandatory cause])

def ricActionNotAdmittedList : Descriptor :=
  .setOf (some (constrained 5 5 0 16)) (protocolIESingleContainer 16 ricActionNotAdmittedItem)

def ranFunctionIDcauseItem : Descriptor :=
  .sequence [] (some 2) (members [mandatory ranFunctionID, mandatory cause])

def ranFunctionsIDcauseList : Descriptor :=
  .setOf (some (constrained 9 9 0 256)) (protocolIESingleContainer 7 ranFunctionIDcauseItem)

def ricControlStatus : Descriptor :=
  .nativeEnumerated (extensible 2 2 0 2) (enumeration 3 4 (by decide))

def ricControlOutcome : Descriptor :=
  octetString

def globalRICID : Descriptor :=
  .sequence [] (some 2) (members [mandatory plmnIdentity,
    mandatory (bits (constrained 0 0 20 20))])

def updateOutcome : Descriptor :=
  .nativeEnumerated (extensible 1 1 0 1) (enumeration 2 3 (by decide))

def e2nodeComponentConfigUpdateAck : Descriptor :=
  .sequence [1] (some 2) (members [mandatory updateOutcome, optional cause])

def e2nodeComponentConfigUpdateAckItem : Descriptor :=
  .sequence [1] (some 3) (members [mandatory e2nodeComponentType, optional e2nodeComponentID,
    mandatory e2nodeComponentConfigUpdateAck])

def e2nodeComponentConfigUpdateAckList : Descriptor :=
  .setOf (some (constrained 10 10 1 1024))
    (protocolIESingleContainer 36 e2nodeComponentConfigUpdateAckItem)

def e2connectionSetupFailedItem : Descriptor :=
  .sequence [] (some 2) (members [mandatory tNLinformation, mandatory cause])

def e2connectionSetupFailedList : Descriptor :=
  .setOf (some (constrained 5 5 1 32)) (protocolIESingleContainer 41 e2connectionSetupFailedItem)

def timeToWait : Descriptor :=
  .nativeEnumerated (extensible 3 3 0 5) (enumeration 6 7 (by decide))

end NearRtRic.Asn1.E2ap
