import Mathlib.Tactic
import NearRtRic.Asn1.E2apPdu

/-! The E2AP v01.00 of `e2ap/lib` beside the v01.01 of `3rdparty/oranE2`: the messages that both know
are the same octets, which the decoders of both read as the same message. -/

namespace NearRtRic.Asn1.E2ap

open Transmission

namespace V0100

def ranFunctionItem : Descriptor :=
  .sequence [] (some 3) (members [mandatory ranFunctionID, mandatory ranFunctionDefinition,
    mandatory ranFunctionRevision])

def ranFunctionsList : Descriptor :=
  .setOf (some (constrained 9 9 0 256)) (protocolIESingleContainer 8 ranFunctionItem)

/-- Its selector counts the rows, also where two of them have one type. -/
def ricServiceUpdate : Descriptor :=
  messageOf [(10, 1), (12, 2), (11, 3)] [ranFunctionsList, ranFunctionsIDList]

def e2setupRequest : Descriptor :=
  message [(3, globalE2nodeID), (10, ranFunctionsList)]

def e2setupResponse : Descriptor :=
  message [(4, globalRICID), (9, ranFunctionsIDList), (13, ranFunctionsIDcauseList)]

def e2setupFailure : Descriptor :=
  message [(1, cause), (31, timeToWait), (2, criticalityDiagnostics)]

def initiatingMessage : Messages :=
  [(8, ricSubscriptionRequest), (9, ricSubscriptionDeleteRequest), (7, ricServiceUpdate),
    (4, ricControlRequest), (1, e2setupRequest), (3, resetRequest), (5, ricIndication),
    (6, ricServiceQuery), (2, errorIndication)]

def successfulOutcome : Messages :=
  [(8, ricSubscriptionResponse), (9, ricSubscriptionDeleteResponse),
    (7, ricServiceUpdateAcknowledge), (4, ricControlAcknowledge), (1, e2setupResponse),
    (3, resetResponse)]

def unsuccessfulOutcome : Messages :=
  [(8, ricSubscriptionFailure), (9, ricSubscriptionDeleteFailure), (7, ricServiceUpdateFailure),
    (4, ricControlFailure), (1, e2setupFailure)]

def kinds : List Messages :=
  [initiatingMessage, successfulOutcome, unsuccessfulOutcome]

def e2apPDU : Descriptor :=
  pduOf kinds

theorem e2apPDU_wellFormed : wellFormed e2apPDU = true :=
  rfl

end V0100

section

variable {types : List Descriptor} {type : Descriptor} {index : Nat}

theorem encodeAlternative_at (here : types[index]? = some type) (asOpenType : Bool) (member : Value) :
    encodeAlternative asOpenType (alternatives types) index member =
      if asOpenType then aperOpenTypePut (encodeAper type member) else encodeAper type member := by
  induction types generalizing index with
  | nil => cases here
  | cons first types ih =>
      cases index with
      | zero =>
          rw [← Option.some.inj here]
          rfl
      | succ index => exact ih here

theorem fitsAlternative_at (here : types[index]? = some type) (asOpenType : Bool) (member : Value) :
    fitsAlternative asOpenType (alternatives types) index member =
      (fits type member && (!asOpenType || endsOpen (encodeAper type member))) := by
  induction types generalizing index with
  | nil => cases here
  | cons first types ih =>
      cases index with
      | zero =>
          rw [← Option.some.inj here]
          rfl
      | succ index => exact ih here

end

theorem lookup_zipIdx (codes : List Int) (start : Nat) (code : Int) :
    (codes.zipIdx start).lookup code = (codes.idxOf? code).map (start + ·) := by
  induction codes generalizing start with
  | nil => rfl
  | cons first codes ih =>
      rw [List.zipIdx_cons, List.lookup_cons, List.idxOf?_cons]
      by_cases same : code = first
      · simp [same]
      · have hother : (code == first) = false := beq_false_of_ne same
        have hback : (first == code) = false := beq_false_of_ne (Ne.symm same)
        simp only [hother, hback, ih]
        cases codes.idxOf? code with
        | none => rfl
        | some index =>
            have hnext : start + 1 + index = start + (index + 1) := by omega
            exact congrArg some hnext

theorem lookup_eq_iff {codes : List Int} (distinct : codes.Nodup) (index : Nat) (code : Int) :
    (codes.zipIdx 1).lookup code = some (index + 1) ↔ codes[index]? = some code := by
  rw [lookup_zipIdx, Option.map_eq_some_iff]
  constructor
  · rintro ⟨position, found, same⟩
    rcases List.idxOf?_eq_some_iff.mp found with ⟨inside, here, _⟩
    have hposition : position = index := by omega
    rw [← hposition, List.getElem?_eq_getElem inside, here]
  · intro here
    rcases List.getElem?_eq_some_iff.mp here with ⟨inside, same⟩
    refine ⟨index, List.idxOf?_eq_some_iff.mpr ⟨inside, same, fun other earlier => ?_⟩, by omega⟩
    intro again
    have hsame := (List.Nodup.getElem_inj_iff distinct).mp (again.trans same.symm)
    omega

theorem extensionsCount_none (count : Nat) (members : List (Option Value)) :
    extensionsCount none count members = 0 := by
  have hnone : extensions none count = [] := List.filter_eq_nil_iff.mpr fun _ _ => Bool.false_ne_true
  rw [extensionsCount, hnone]
  rfl

def messageOfKind (code criticality : Option Value) (index : Nat) (message : Value) : Value :=
  .sequence [code, criticality, some (.choice (index + 1) message)]

variable {rows rows' : Messages} {index index' : Nat} {row : Int × Descriptor}

theorem encodeAper_outcome (here : rows[index]? = some row) (there : rows'[index']? = some row)
    (code criticality : Option Value) (message : Value) :
    encodeAper (outcome rows) (messageOfKind code criticality index message) =
      encodeAper (outcome rows') (messageOfKind code criticality index' message) := by
  have htype : (rows.map Prod.snd)[index]? = some row.2 := by
    rw [List.getElem?_map, here]
    rfl
  have htype' : (rows'.map Prod.snd)[index']? = some row.2 := by
    rw [List.getElem?_map, there]
    rfl
  have hmessage := encodeAlternative_at htype true message
  have hmessage' := encodeAlternative_at htype' true message
  simp only [outcome, selecting, messageOfKind, encodeAper, Value.onSequence, sequenceEncodeAper,
    extensionsCount_none, if_true, putPresence, encodeRoot, inExtensionGroup, Bool.false_eq_true,
    if_false]
  simp only [memberAt, List.getElem?_cons_zero, List.getElem?_cons_succ, Option.join_some, putMember,
    Value.onChoice, hmessage, hmessage']

theorem any_fitsOpen_iff (here : rows[index]? = some row) (distinct : (rows.map Prod.fst).Nodup)
    (members : List (Option Value)) (message : Value) :
    (selectType ⟨0, (rows.map Prod.fst).zipIdx 1⟩ members).any
        (fitsOpen (.openType (alternatives (rows.map Prod.snd))) (.choice (index + 1) message)) = true ↔
      memberAt members 0 = some (.integer row.1) ∧
        (fits row.2 message && endsOpen (encodeAper row.2 message)) = true := by
  have htype : (rows.map Prod.snd)[index]? = some row.2 := by
    rw [List.getElem?_map, here]
    rfl
  have hcode : (rows.map Prod.fst)[index]? = some row.1 := by
    rw [List.getElem?_map, here]
    rfl
  have hmessage := fitsAlternative_at htype true message
  simp only [Bool.not_true, Bool.false_or] at hmessage
  simp only [Option.any_eq_true, fitsOpen, Bool.and_eq_true, decide_eq_true_eq, hmessage]
  constructor
  · rintro ⟨position, selected, rfl, hfits⟩
    refine ⟨?_, hfits⟩
    unfold selectType at selected
    split at selected
    · next native hmember =>
        have hsame := (lookup_eq_iff distinct index native).mp selected
        rw [hcode] at hsame
        rw [hmember, Option.some.inj hsame]
    · cases selected
  · rintro ⟨hmember, hfits⟩
    refine ⟨index + 1, ?_, rfl, hfits⟩
    unfold selectType
    rw [hmember]
    exact (lookup_eq_iff distinct index row.1).mpr hcode

theorem fits_outcome (here : rows[index]? = some row) (there : rows'[index']? = some row)
    (distinct : (rows.map Prod.fst).Nodup) (distinct' : (rows'.map Prod.fst).Nodup)
    (code criticality : Option Value) (message : Value) :
    fits (outcome rows) (messageOfKind code criticality index message) =
      fits (outcome rows') (messageOfKind code criticality index' message) := by
  simp only [outcome, selecting, messageOfKind, fits, fitsMembers, Elements.count, inExtensionGroup,
    fitsMember]
  have hhere := any_fitsOpen_iff here distinct
    [code, criticality, some (.choice (index + 1) message)] message
  have hthere := any_fitsOpen_iff there distinct'
    [code, criticality, some (.choice (index' + 1) message)] message
  have hselected := Bool.eq_iff_iff.mpr (hhere.trans hthere.symm)
  simp only [memberAt, List.getElem?_cons_zero, List.getElem?_cons_succ, Option.join_some]
  rw [hselected]
  rfl

def pduOfKind (kind : Nat) (code criticality : Option Value) (index : Nat) (message : Value) : Value :=
  .choice (kind + 1) (messageOfKind code criticality index message)

theorem choiceEncodeAper_congr {encode encode' : Bool → Nat → Value → Put Unit} {present : Nat}
    {member member' : Value}
    (same : ∀ asOpenType, encode asOpenType present member = encode' asOpenType present member')
    (ct : PerConstraint) (ext_start : Option Nat) :
    choiceEncodeAper ct ext_start encode present member =
      choiceEncodeAper ct ext_start encode' present member' := by
  simp only [choiceEncodeAper, same]

theorem pdu_alike {kinds kinds' : List Messages} {kind : Nat} {messages messages' : Messages}
    (one : kinds[kind]? = some messages) (other : kinds'[kind]? = some messages')
    (here : messages[index]? = some row) (there : messages'[index']? = some row)
    (distinct : (messages.map Prod.fst).Nodup) (distinct' : (messages'.map Prod.fst).Nodup)
    (code criticality : Option Value) (message : Value) :
    encodeAper (pduOf kinds) (pduOfKind kind code criticality index message) =
        encodeAper (pduOf kinds') (pduOfKind kind code criticality index' message) ∧
      fits (pduOf kinds) (pduOfKind kind code criticality index message) =
        fits (pduOf kinds') (pduOfKind kind code criticality index' message) := by
  have hone : (kinds.map outcome)[kind]? = some (outcome messages) := by
    rw [List.getElem?_map, one]
    rfl
  have hother : (kinds'.map outcome)[kind]? = some (outcome messages') := by
    rw [List.getElem?_map, other]
    rfl
  have hencode := encodeAper_outcome here there code criticality message
  have hfits := fits_outcome here there distinct distinct' code criticality message
  constructor
  · unfold pduOf pduOfKind
    rw [encodeAper, encodeAper, Value.onChoice, Value.onChoice]
    apply choiceEncodeAper_congr
    intro asOpenType
    rw [encodeAlternative_at hone, encodeAlternative_at hother, hencode]
  · simp only [pduOf, pduOfKind, fits, fitsAlternative_at hone, fitsAlternative_at hother, hencode,
      hfits]

/-- The message of a kind at a place in the older version and the one at a place in the newer one
are of one procedure and one type. -/
def Shared (kind index index' : Nat) : Prop :=
  ∃ row, V0100.kinds[kind]?.bind (·[index]?) = some row ∧ kinds[kind]?.bind (·[index']?) = some row

theorem kinds_distinct : (∀ messages ∈ V0100.kinds, (messages.map Prod.fst).Nodup) ∧
    ∀ messages ∈ kinds, (messages.map Prod.fst).Nodup := by
  decide

theorem shared_alike {kind : Nat} (shared : Shared kind index index')
    (code criticality : Option Value) (message : Value) :
    encodeAper V0100.e2apPDU (pduOfKind kind code criticality index message) =
        encodeAper e2apPDU (pduOfKind kind code criticality index' message) ∧
      fits V0100.e2apPDU (pduOfKind kind code criticality index message) =
        fits e2apPDU (pduOfKind kind code criticality index' message) := by
  rcases shared with ⟨row, hrow, hrow'⟩
  rcases Option.bind_eq_some_iff.mp hrow with ⟨messages, hone, here⟩
  rcases Option.bind_eq_some_iff.mp hrow' with ⟨messages', hother, there⟩
  exact pdu_alike hone hother here there
    (kinds_distinct.1 messages (List.mem_of_getElem? hone))
    (kinds_distinct.2 messages' (List.mem_of_getElem? hother)) code criticality message

/-- The reader of the older version takes the newer encoding for its own version of the message. -/
theorem shared_conveys {kind : Nat} (shared : Shared kind index index')
    {code criticality : Option Value} {message : Value}
    (fit : fits e2apPDU (pduOfKind kind code criticality index' message) = true) :
    Conveys (encodeAper e2apPDU (pduOfKind kind code criticality index' message))
      (decodeAper .e2apLib V0100.e2apPDU)
      fun _ got => got = pduOfKind kind code criticality index message := by
  rcases shared_alike shared code criticality message with ⟨hencode, hfits⟩
  rw [← hencode]
  exact encodeAper_conveys V0100.e2apPDU _ V0100.e2apPDU_wellFormed (hfits.trans fit)

/-- One encoding for two readers. -/
theorem read_alike {Got Got' : Type} {encode : Put Unit} {decode : Get Got} {decode' : Get Got'}
    {got : Got} {got' : Got'} (conveys : Conveys encode decode fun _ read => read = got)
    (conveys' : Conveys encode decode' fun _ read => read = got') :
    ∃ buf, aperEncodeToNewBuffer encode = .ok buf ∧ ∀ rest,
      aperDecodeComplete decode (buf ++ rest) = .ok (got, buf.length) ∧
        aperDecodeComplete decode' (buf ++ rest) = .ok (got', buf.length) := by
  rcases aperDecodeComplete_of_new_buffer conveys with ⟨buf, hbuf, hdecode⟩
  rcases aperDecodeComplete_of_new_buffer conveys' with ⟨buf', hbuf', hdecode'⟩
  obtain rfl : buf = buf' := Except.ok.inj (hbuf.symm.trans hbuf')
  refine ⟨buf, hbuf, fun rest => ?_⟩
  rcases hdecode rest with ⟨_, hgot, rfl⟩
  rcases hdecode' rest with ⟨_, hgot', rfl⟩
  exact ⟨hgot, hgot'⟩

/-- A message that both versions have is one text of octets, which either decoder reads as its own
version of the message. -/
theorem versions_interoperate {kind : Nat} (shared : Shared kind index index')
    {code criticality : Option Value} {message : Value}
    (fit : fits e2apPDU (pduOfKind kind code criticality index' message) = true) :
    ∃ buf, aperEncodeToNewBuffer
          (encodeAper V0100.e2apPDU (pduOfKind kind code criticality index message)) = .ok buf ∧
      aperEncodeToNewBuffer
          (encodeAper e2apPDU (pduOfKind kind code criticality index' message)) = .ok buf ∧
      ∀ rest,
        aperDecodeComplete (decodeAper .e2apLib V0100.e2apPDU) (buf ++ rest) =
            .ok (pduOfKind kind code criticality index message, buf.length) ∧
          aperDecodeComplete (decodeAper .oranE2 e2apPDU) (buf ++ rest) =
            .ok (pduOfKind kind code criticality index' message, buf.length) := by
  have hold := shared_conveys shared fit
  have hnew : Conveys _ (decodeAper .oranE2 e2apPDU) _ :=
    encodeAper_conveys e2apPDU _ e2apPDU_wellFormed fit
  rcases read_alike hold hnew with ⟨buf, hencode, hdecode⟩
  exact ⟨buf, (shared_alike shared code criticality message).1 ▸ hencode, hencode, hdecode⟩

/-- A report of one octet of header and one of message, whose place is another one in each version. -/
def report : Value :=
  .sequence [some (.list ([(29, 1, .sequence [some (.integer 123), some (.integer 7)]),
      (5, 2, .integer 1), (15, 3, .integer 0), (28, 5, .integer 0), (25, 6, .string ⟨[1], 0⟩),
      (26, 7, .string ⟨[2], 0⟩)].map fun (ie : Int × Nat × Value) =>
    .sequence [some (.integer ie.1), some (.integer 0), some (.choice ie.2.1 ie.2.2)]))]

theorem versions_interoperate_report :
    ∃ buf, aperEncodeToNewBuffer (encodeAper V0100.e2apPDU
          (pduOfKind 0 (some (.integer 5)) (some (.integer 1)) 6 report)) = .ok buf ∧
      aperEncodeToNewBuffer (encodeAper e2apPDU
          (pduOfKind 0 (some (.integer 5)) (some (.integer 1)) 8 report)) = .ok buf ∧
      ∀ rest,
        aperDecodeComplete (decodeAper .e2apLib V0100.e2apPDU) (buf ++ rest) =
            .ok (pduOfKind 0 (some (.integer 5)) (some (.integer 1)) 6 report, buf.length) ∧
          aperDecodeComplete (decodeAper .oranE2 e2apPDU) (buf ++ rest) =
            .ok (pduOfKind 0 (some (.integer 5)) (some (.integer 1)) 8 report, buf.length) :=
  versions_interoperate ⟨(5, ricIndication), rfl, rfl⟩ (by decide +kernel)

end NearRtRic.Asn1.E2ap
