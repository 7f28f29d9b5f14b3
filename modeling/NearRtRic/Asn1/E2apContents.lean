import Mathlib.Tactic
import NearRtRic.Asn1.E2apVersions
import NearRtRic.Asn1.Sizes

/-! Messages put together from their IEs: what is asked of the IEs for a message to fit its type, and
how much it takes. -/

namespace NearRtRic.Asn1.E2ap

open PerConstraint Transmission

/-- An IE, and any other value whose type an id tells. -/
def ieOf (id criticality : Int) (index : Nat) (value : Value) : Value :=
  messageOfKind (some (.integer id)) (some (.integer criticality)) index value

def containerOf (ies : List Value) : Value :=
  .sequence [some (.list ies)]

variable {rows : Messages} {index : Nat} {row : Int × Descriptor} {id : Descriptor}

theorem fits_selecting (here : rows[index]? = some row) (distinct : (rows.map Prod.fst).Nodup)
    (known : fits id (.integer row.1) = true) {code : Int}
    (coded : fits criticality (.integer code) = true) {value : Value} (fit : fits row.2 value = true)
    (ends : endsOpen (encodeAper row.2 value) = true) :
    fits (selecting id ((rows.map Prod.fst).zipIdx 1) (rows.map Prod.snd))
      (ieOf row.1 code index value) = true := by
  have hselected := (any_fitsOpen_iff here distinct
    [some (.integer row.1), some (.integer code), some (.choice (index + 1) value)] value).mpr
    ⟨rfl, by rw [fit, ends]; rfl⟩
  simp only [selecting, ieOf, messageOfKind, fits, fitsMembers, Elements.count, inExtensionGroup,
    fitsMember]
  simp only [memberAt, List.getElem?_cons_zero, List.getElem?_cons_succ, Option.join_some, hselected,
    known, coded]
  rfl

theorem sizeAlternative_at {types : List Descriptor} {type : Descriptor}
    (here : types[index]? = some type) (member : Value) :
    sizeAlternative (alternatives types) index member = sizeAper type member := by
  induction types generalizing index with
  | nil => cases here
  | cons first types ih =>
      cases index with
      | zero =>
          rw [← Option.some.inj here]
          rfl
      | succ index => exact ih here

theorem sizeAper_selecting (id : Descriptor) (here : rows[index]? = some row) (code : Int)
    (value : Value) :
    sizeAper (selecting id ((rows.map Prod.fst).zipIdx 1) (rows.map Prod.snd))
        (ieOf row.1 code index value) =
      1 + (sizeAper id (.integer row.1) + (sizeAper criticality (.integer code) +
        openBits (sizeAper row.2 value))) := by
  have htype : (rows.map Prod.snd)[index]? = some row.2 := by
    rw [List.getElem?_map, here]
    rfl
  simp only [selecting, ieOf, messageOfKind, sizeAper_sequence, sizeAper_open, sizeRoot_cons,
    sizeRoot_nil, extensionsCount_none, inExtensionGroup, memberAt, List.getElem?_cons_zero,
    List.getElem?_cons_succ, Option.join_some, Option.map_some, Option.getD_some,
    sizeAlternative_at htype]
  rfl

/-- The members are all there, and none is an extension. -/
def sequenceOfAll (types : List Descriptor) : Descriptor :=
  .sequence [] (some types.length) (members (types.map mandatory))

theorem members_count (types : List Descriptor) :
    (members (types.map mandatory)).count = types.length := by
  induction types with
  | nil => rfl
  | cons type types ih => exact congrArg (· + 1) ih

theorem memberAt_append (before values : List (Option Value)) (value : Value) :
    memberAt (before ++ some value :: values) before.length = some value := by
  rw [memberAt, List.getElem?_append_right le_rfl, Nat.sub_self]
  rfl

theorem members_at (first : Nat) {types : List Descriptor} {values : List Value}
    (each : List.Forall₂ (fun type value => fits type value = true) types values)
    (before : List (Option Value)) (root : before.length + types.length ≤ first) :
    fitsMembers (some first) before.length (members (types.map mandatory)) (before ++ values.map some) =
        true ∧
      sizeRoot (some first) before.length (members (types.map mandatory)) (before ++ values.map some) =
        (List.zipWith sizeAper types values).sum := by
  induction each generalizing before with
  | nil => exact ⟨rfl, rfl⟩
  | @cons type value types values fit each ih =>
      rw [List.length_cons] at root
      have hroot : inExtensionGroup (some first) before.length = false :=
        decide_eq_false (by omega)
      have hmember := memberAt_append before (values.map some) value
      have hbefore : (before ++ [some value]).length + types.length ≤ first := by
        rw [List.length_append, List.length_singleton]
        omega
      have hrest := ih (before ++ [some value]) hbefore
      rw [List.length_append, List.length_singleton, List.append_assoc, List.singleton_append] at hrest
      simp only [List.map_cons, mandatory, members, fitsMembers, sizeRoot_cons, hmember, hroot,
        fitsMember, Bool.false_eq_true, if_false, Option.map_some, Option.getD_some,
        List.zipWith_cons_cons, List.sum_cons, fit]
      exact ⟨hrest.1, congrArg (sizeAper type value + ·) hrest.2⟩

theorem extensionsCount_all (count : Nat) (members : List (Option Value)) :
    extensionsCount (some count) count members = 0 := by
  have hnone : extensions (some count) count = [] := by
    apply List.filter_eq_nil_iff.mpr
    intro edx among
    have hinside := List.mem_range.mp among
    simp only [inExtensionGroup, decide_eq_true_eq]
    omega
  rw [extensionsCount, hnone]
  rfl

theorem fits_sequenceOfAll {types : List Descriptor} {values : List Value}
    (each : List.Forall₂ (fun type value => fits type value = true) types values) :
    fits (sequenceOfAll types) (.sequence (values.map some)) = true ∧
      sizeAper (sequenceOfAll types) (.sequence (values.map some)) =
        1 + (List.zipWith sizeAper types values).sum := by
  have hmembers := members_at types.length each [] (Nat.zero_add _).le
  have hlength : (values.map some).length = types.length := by
    rw [List.length_map, each.length_eq]
  simp only [List.nil_append, List.length_nil] at hmembers
  constructor
  · rw [sequenceOfAll, fits, members_count, hlength, hmembers.1]
    simp
  · rw [sequenceOfAll, sizeAper_sequence, members_count, extensionsCount_all, if_pos rfl, hmembers.2]
    rfl

theorem number_fits {range_bits effective_bits lower upper native : Int} (ranged : 0 ≤ range_bits)
    (few : range_bits ≤ 16) (long : IsLong native) (least : lower ≤ native) (greatest : native ≤ upper) :
    fits (number (constrained range_bits effective_bits lower upper)) (.integer native) = true ∧
      sizeAper (number (constrained range_bits effective_bits lower upper)) (.integer native) = 24 := by
  have hinside : outOfRange (constrained range_bits effective_bits lower upper) native = false := by
    have hbounds : ¬native < lower ∧ ¬upper < native := by omega
    have hflag :
        (constrained range_bits effective_bits lower upper).has APC_SEMI_CONSTRAINED = false := by
      simp only [PerConstraint.has, constrained]
      decide
    rw [outOfRange, hflag, if_neg Bool.false_ne_true]
    simp only [constrained, if_pos ranged, hbounds, decide_false, Bool.or_false]
  constructor
  · apply decide_eq_true
    refine ⟨long, fun constraint same outside => ?_⟩
    rw [← Option.some.inj same, hinside] at outside
    cases outside
  · have hnative := asnINTEGER2imax_asnImax2INTEGER long
    have hranged : false = false ∧ (constrained range_bits effective_bits lower upper).range_bits ≥ 0 :=
      ⟨rfl, ranged⟩
    have hbits : range_bits.toNat ≤ 16 := by omega
    simp only [number, sizeAper_number, integerBits, hnative]
    rw [hinside, if_pos hranged]
    exact congrArg (1 + ·) (if_pos hbits)

theorem octets_fit {buf : List UInt8} (short : buf.length < 16384) :
    fits octetString (.string ⟨buf, 0⟩) = true ∧
      sizeAper octetString (.string ⟨buf, 0⟩) = 31 + 8 * buf.length := by
  constructor
  · have hwhole : buf.length * 8 % 8 = 0 := Nat.mul_mod_left _ _
    have hall : (Bits.octets buf).length ≤ buf.length * 8 := by
      rw [Bits.octets_length, Nat.mul_comm]
    have hproper : Proper .STR ⟨buf, 0⟩ := by
      simp only [Proper, BitString.sizeinunits, Subvariant.unit_bits, Bits.padding, hwhole]
      rw [List.take_of_length_le hall]
      exact ⟨(List.append_nil _).symm, trivial⟩
    have hkept : SizeKept unconstrainedSize buf.length :=
      ⟨fun root => absurd root.1 (by decide), fun _ => ⟨short, .inl (by decide)⟩⟩
    exact decide_eq_true ⟨hproper, hkept⟩
  · have hfew : buf.length / 16384 = 0 := Nat.div_eq_of_lt short
    simp only [octetString, sizeAper_string, stringBits, BitString.sizeinunits, Subvariant.unit_bits,
      lengthBits, hfew]
    omega

theorem list_fits {bits lower upper : Int} {count : Nat} (bounded : 0 ≤ bits) (least : lower ≤ count)
    (greatest : count ≤ upper) : ListFits (some (constrained bits bits lower upper)) count := by
  have hroot : notInRoot (constrained bits bits lower upper) count = false := by
    simp only [notInRoot, constrained, Bool.or_eq_false_iff]
    exact ⟨decide_eq_false (by omega), decide_eq_false (by omega)⟩
  refine ⟨fun outside => ?_, fun unbounded => absurd bounded (not_le.mpr unbounded)⟩
  rw [outOfList, hroot] at outside
  cases outside

def indicationIEs : Messages :=
  [(29, ricRequestID), (5, ranFunctionID), (15, ricActionID), (27, ricIndicationSN),
    (28, ricIndicationType), (25, ricIndicationHeader), (26, ricIndicationMessage),
    (20, ricCallProcessID)]

def subscriptionResponseIEs : Messages :=
  [(29, ricRequestID), (5, ranFunctionID), (17, ricActionAdmittedList),
    (18, ricActionNotAdmittedList)]

def subscriptionRequestIEs : Messages :=
  [(29, ricRequestID), (5, ranFunctionID), (30, ricSubscriptionDetails)]

def ieType (rows : Messages) : Descriptor :=
  selecting protocolIEID ((rows.map Prod.fst).zipIdx 1) (rows.map Prod.snd)

theorem fits_message (rows : Messages) {ies : List Value} (few : ies.length ≤ 65535)
    (each : ∀ ie ∈ ies, fits (ieType rows) ie = true) :
    fits (message rows) (containerOf ies) = true ∧
      sizeAper (message rows) (containerOf ies) =
        2 + lengthBits ies.length + (ies.map (sizeAper (ieType rows))).sum := by
  have hlist : fits (.setOf (some (constrained 16 16 0 65535)) (ieType rows)) (.list ies) = true := by
    rw [fits, decide_eq_true (list_fits (by decide) (by omega) (by omega)), Bool.true_and,
      List.all_eq_true]
    exact each
  have hmessage := fits_sequenceOfAll (List.Forall₂.cons hlist .nil)
  refine ⟨hmessage.1, hmessage.2.trans ?_⟩
  simp only [List.zipWith_cons_cons, List.zipWith_nil_left, List.sum_cons, List.sum_nil, sizeAper_list]
  omega

theorem fits_pdu {kinds : List Messages} {kind : Nat} (few : kind ≤ 2) (one : kinds[kind]? = some rows)
    (here : rows[index]? = some row) (distinct : (rows.map Prod.fst).Nodup)
    (known : fits procedureCode (.integer row.1) = true) {code : Int}
    (coded : fits criticality (.integer code) = true) {body : Value} (fit : fits row.2 body = true)
    (ends : endsOpen (encodeAper row.2 body) = true) :
    fits (pduOf kinds)
      (pduOfKind kind (some (.integer row.1)) (some (.integer code)) index body) = true := by
  have hone : (kinds.map outcome)[kind]? = some (outcome rows) := by
    rw [List.getElem?_map, one]
    rfl
  have hroot : notInRoot (extensible 2 2 0 2) kind = false := by
    simp only [notInRoot, extensible, Bool.or_eq_false_iff]
    exact ⟨decide_eq_false (by omega), decide_eq_false (by omega)⟩
  have hmessage := fits_selecting here distinct known coded fit ends
  rw [pduOf, pduOfKind, fits, hroot, if_neg Bool.false_ne_true, fitsAlternative_at hone]
  exact Bool.and_eq_true_iff.mpr ⟨hmessage, rfl⟩

theorem sizeAper_pdu {kinds : List Messages} {kind : Nat} (few : kind ≤ 2)
    (one : kinds[kind]? = some rows) (here : rows[index]? = some row) (code : Int) (body : Value) :
    sizeAper (pduOf kinds) (pduOfKind kind (some (.integer row.1)) (some (.integer code)) index body) =
      25 + (sizeAper procedureCode (.integer row.1) + (sizeAper criticality (.integer code) +
        openBits (sizeAper row.2 body))) := by
  have hone : (kinds.map outcome)[kind]? = some (outcome rows) := by
    rw [List.getElem?_map, one]
    rfl
  have hroot : notInRoot (extensible 2 2 0 2) kind = false := by
    simp only [notInRoot, extensible, Bool.or_eq_false_iff]
    exact ⟨decide_eq_false (by omega), decide_eq_false (by omega)⟩
  rw [pduOf, pduOfKind, sizeAper_choice, sizeAlternative_at hone]
  have hmessage : sizeAper (outcome rows)
      (messageOfKind (some (.integer row.1)) (some (.integer code)) index body) = _ :=
    sizeAper_selecting procedureCode here code body
  rw [hmessage, if_pos ⟨by decide, hroot⟩]
  have hrange : max (extensible 2 2 0 2).range_bits.toNat 23 = 23 := rfl
  rw [hrange]
  omega

end NearRtRic.Asn1.E2ap
