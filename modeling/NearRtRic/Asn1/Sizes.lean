import Mathlib.Tactic
import NearRtRic.Asn1.Limits
import NearRtRic.Asn1.RoundTrip

/-! How many bits the encoding of a value takes at most, and so what buffer is large enough. -/

namespace NearRtRic.Asn1

open Bits PerConstraint Transmission

theorem aperPutAlign_bounded : Bounded aperPutAlign 7 := by
  refine Bounded.reading (fun po size => rfl) fun po _ => ?_
  split
  · exact (Bounded.pure ()).mono (by decide)
  · exact (asnPutFewBits_bounded 0 _).mono (by omega)

theorem aperPutNsnnwn_bounded (range number : Nat) : Bounded (aperPutNsnnwn range number) 23 := by
  unfold aperPutNsnnwn
  split
  · next few =>
      have hwidth := (rangeWidth_spec few).2
      exact (asnPutFewBits_bounded _ _).mono (by omega)
  · split
    · apply (aperPutAlign_bounded.bind fun _ => asnPutFewBits_bounded _ _).mono
      split
      · decide
      · decide
    · exact Bounded.fail 23

theorem putDeterminant_bounded (length : Nat) : Bounded (putDeterminant length) 16 := by
  unfold putDeterminant
  split
  · exact (asnPutFewBits_bounded _ _).mono (by decide)
  · split
    · exact asnPutFewBits_bounded _ _
    · exact (asnPutFewBits_bounded _ _).mono (by decide)

theorem aperPutLength_bounded (range : Int) (length : Nat) :
    Bounded (aperPutLength range length) 23 := by
  unfold aperPutLength
  split
  · exact (aperPutNsnnwn_bounded _ _).bind fun _ => Bounded.pure _
  · have hdeterminant := (putDeterminant_bounded length).bind fun _ =>
      Bounded.pure (⟨mayEncode length, mayEncode_le length⟩ : { amount : Nat // amount ≤ length })
    exact aperPutAlign_bounded.bind fun _ => hdeterminant

theorem uperPutNsnnwn_bounded (n : Int) : Bounded (uperPutNsnnwn n) 32 := by
  have hoctets : ∀ bytes : Nat, bytes ≤ 3 →
      Bounded (asnPutFewBits bytes 8 >>= fun _ => asnPutFewBits n.toNat (8 * bytes)) 32 := by
    intro bytes few
    apply ((asnPutFewBits_bounded _ _).bind fun _ => asnPutFewBits_bounded _ _).mono
    omega
  unfold uperPutNsnnwn
  split
  · split
    · exact Bounded.fail 32
    · exact (asnPutFewBits_bounded _ _).mono (by decide)
  · split
    · exact hoctets 1 (by decide)
    · split
      · exact hoctets 2 (by decide)
      · split
        · exact hoctets 3 (by decide)
        · exact Bounded.fail 32

/-- Lengths take so many bits at most, of which each stands before up to 64K. -/
def lengthBits (length : Nat) : Nat :=
  23 * (length / 16384 + 1)

theorem lengthBits_rest {length : Nat} (more : mayEncode length < length) :
    23 + lengthBits (length - mayEncode length) ≤ lengthBits length := by
  unfold lengthBits
  unfold mayEncode at more ⊢
  split at more
  · omega
  · next many =>
      rw [if_neg many]
      omega

theorem answers_length {length : Nat} {amount : { amount : Nat // amount ≤ length }}
    (answers : Answers (aperPutLength (-1) length) amount) : amount.val = mayEncode length := by
  rcases answers with ⟨before, after, valid, run⟩
  exact (aperPutLength_grows valid run).1

section

variable {Item : Type} {putPiece : List Item → Put Unit} {size : Item → Nat}

theorem putPieces_bounded
    (each : ∀ items : List Item, Bounded (putPiece items) (items.map size).sum) :
    ∀ (rounds : Nat) (items : List Item),
      Bounded (putPieces putPiece rounds items) (lengthBits items.length + (items.map size).sum) := by
  intro rounds
  induction rounds with
  | zero => exact fun items => (Bounded.pure ()).mono (Nat.zero_le _)
  | succ rounds ih =>
      intro items
      unfold putPieces
      split
      · exact (Bounded.pure ()).mono (Nat.zero_le _)
      · have hrest : ∀ amount, Answers (aperPutLength (-1) items.length) amount →
            Bounded (do
              putPiece (items.take amount)
              putPieces putPiece rounds (items.drop amount))
              (lengthBits items.length - 23 + (items.map size).sum) := by
          intro amount answers
          have hamount := answers_length answers
          have hsplit : (items.map size).sum =
              ((items.take amount).map size).sum + ((items.drop amount).map size).sum := by
            rw [← List.sum_append, ← List.map_append, List.take_append_drop]
          have hdrop : (items.drop amount.val).length = items.length - mayEncode items.length := by
            rw [List.length_drop, hamount]
          by_cases last : items.drop amount.val = []
          · rw [last, putPieces_nil]
            apply ((each (items.take amount)).bind fun _ => Bounded.pure ()).mono
            omega
          · have hmore : mayEncode items.length < items.length := by
              rw [← hamount]
              exact not_le.mp fun all => last (List.drop_eq_nil_iff.mpr all)
            have hless := lengthBits_rest hmore
            apply ((each (items.take amount)).bind fun _ => ih (items.drop amount)).mono
            rw [hdrop]
            omega
        have hlength : 23 ≤ lengthBits items.length := Nat.le_mul_of_pos_right 23 (Nat.succ_pos _)
        apply ((aperPutLength_bounded _ _).bind_of hrest).mono
        omega

theorem putAll_bounded
    (each : ∀ items : List Item, Bounded (putPiece items) (items.map size).sum) (items : List Item) :
    Bounded (putAll putPiece items) (lengthBits items.length + (items.map size).sum) :=
  putPieces_bounded each items.length items

end

theorem putGroups_bounded (count : Nat) (src : List UInt8) :
    Bounded (putGroups count src) (24 * count) := by
  induction count generalizing src with
  | zero => exact Bounded.pure ()
  | succ count ih =>
      apply ((asnPutFewBits_bounded _ 24).bind fun _ => ih (src.drop 3)).mono
      omega

theorem asnPutManyBits_bounded (src : List UInt8) (nbits : Nat) (inside : nbits ≤ 8 * src.length) :
    Bounded (asnPutManyBits src nbits inside) nbits := by
  have hrest : Bounded (if nbits % 24 = 0 then pure ()
      else do
        let value := bigEndian ((src.drop (3 * (nbits / 24))).take ((nbits % 24 + 7) / 8))
        asnPutFewBits (value >>> ((8 - nbits % 8) % 8)) (nbits % 24)) (nbits % 24) := by
    split
    · exact (Bounded.pure ()).mono (Nat.zero_le _)
    · exact asnPutFewBits_bounded _ _
  apply ((putGroups_bounded (nbits / 24) src).bind fun _ => hrest).mono
  omega

def rangedBits (range_bits : Nat) : Nat :=
  if range_bits ≤ 16 then 23 else 80

/-- The octets of a body and its lengths. -/
def bodyBits (length : Nat) : Nat :=
  lengthBits length + 8 * length

theorem highestOctet_le (value j : Nat) : highestOctet value j ≤ j := by
  induction j with
  | zero => exact le_rfl
  | succ j ih =>
      unfold highestOctet
      split
      · exact le_rfl
      · omega

theorem putOctets_bounded (octets : List UInt8) : Bounded (putOctets octets) (8 * octets.length) := by
  induction octets with
  | nil => exact Bounded.pure ()
  | cons octet octets ih =>
      apply ((asnPutFewBits_bounded _ 8).bind fun _ => ih).mono
      rw [List.length_cons]
      omega

theorem rangeWidth_le (range : Nat) : rangeWidth range ≤ 9 := by
  unfold rangeWidth
  cases hfound : (List.range' 1 8).find? fun i => decide (range ≤ 2 ^ i) with
  | none => exact le_rfl
  | some width =>
      have hinside := List.mem_of_find?_eq_some hfound
      rw [List.mem_range'_1] at hinside
      change width ≤ 9
      omega

theorem putRanged_bounded (range_bits value : Nat) :
    Bounded (putRanged range_bits value) (rangedBits range_bits) := by
  unfold putRanged rangedBits
  split
  · apply (asnPutFewBits_bounded _ _).mono
    rw [if_pos (by omega)]
    omega
  · split
    · next eight =>
        apply (aperPutAlign_bounded.bind fun _ => asnPutFewBits_bounded _ _).mono
        rw [eight]
        decide
    · split
      · exact aperPutAlign_bounded.bind fun _ => asnPutFewBits_bounded _ _
      · have hwidth := rangeWidth_le (maxRangeBytes range_bits)
        have hhighest := highestOctet_le value 7
        apply ((asnPutFewBits_bounded _ _).bind fun _ =>
          aperPutAlign_bounded.bind fun _ => putOctets_bounded _).mono
        rw [bytesOf_length]
        omega

theorem putBody_bounded (st : List UInt8) : Bounded (putBody st) (bodyBits st.length) := by
  have hpiece : ∀ piece : List UInt8,
      Bounded (asnPutManyBits piece (8 * piece.length) le_rfl) (piece.map fun _ => 8).sum := by
    intro piece
    apply (asnPutManyBits_bounded _ _ _).mono
    rw [List.map_const', List.sum_replicate, smul_eq_mul, Nat.mul_comm]
  have hall := putAll_bounded hpiece st
  rw [List.map_const', List.sum_replicate, smul_eq_mul, Nat.mul_comm] at hall
  exact hall

theorem putInext_bounded (ct : PerConstraint) (inext : Bool) : Bounded (putInext ct inext) 1 := by
  unfold putInext
  split
  · exact asnPutFewBits_bounded _ 1
  · split
    · exact Bounded.fail 1
    · exact (Bounded.pure ()).mono (Nat.zero_le _)

def integerBits (ct : Option PerConstraint) (st : List UInt8) : Nat :=
  match ct, asnINTEGER2imax st with
  | some ct, some value =>
      1 + if outOfRange ct value = false ∧ ct.range_bits ≥ 0 then rangedBits ct.range_bits.toNat
        else bodyBits st.length
  | _, _ => bodyBits st.length

theorem integerEncodeAper_bounded (ct : Option PerConstraint) (st : List UInt8) :
    Bounded (integerEncodeAper ct st) (integerBits ct st) := by
  unfold integerEncodeAper integerBits
  split
  · exact Bounded.fail _
  · cases ct with
    | none => exact putBody_bounded st
    | some ct =>
        cases asnINTEGER2imax st with
        | none => exact Bounded.fail _
        | some value =>
            refine (putInext_bounded _ _).bind fun _ => ?_
            cases outOfRange ct value with
            | true => exact putBody_bounded st
            | false =>
                rw [if_neg Bool.false_ne_true]
                by_cases ranged : ct.range_bits ≥ 0
                · rw [if_pos ranged, if_pos ⟨rfl, ranged⟩]
                  exact putRanged_bounded _ _
                · have hbody : ¬(false = false ∧ ct.range_bits ≥ 0) := fun both => ranged both.2
                  rw [if_neg ranged, if_neg hbody]
                  split
                  · exact Bounded.fail _
                  · exact putBody_bounded st

theorem enumerated_bounded (ct : PerConstraint) (specs : Enumeration) (native : Int) :
    Bounded (nativeEnumeratedEncodeAper ct specs native) (1 + max ct.range_bits.toNat 32) := by
  unfold nativeEnumeratedEncodeAper
  split
  · exact Bounded.fail _
  · cases specs.value2enum.idxOf? native with
    | none => exact Bounded.fail _
    | some value =>
        refine (putInext_bounded _ _).bind fun _ => ?_
        split
        · exact (asnPutFewBits_bounded _ _).mono (le_max_left _ _)
        · split
          · exact Bounded.fail _
          · exact (uperPutNsnnwn_bounded _).mono (le_max_right _ _)

theorem putUnits_bounded (unit_bits : Nat) : ∀ (rounds : Nat) (buf : List UInt8) (sizeinunits : Nat)
    (inside : sizeinunits * unit_bits ≤ 8 * buf.length),
    Bounded (putUnits unit_bits rounds buf sizeinunits inside)
      (lengthBits sizeinunits + sizeinunits * unit_bits) := by
  intro rounds
  induction rounds with
  | zero => exact fun _ _ _ => (Bounded.pure ()).mono (Nat.zero_le _)
  | succ rounds ih =>
      intro buf sizeinunits inside
      by_cases nothing : sizeinunits = 0
      · rw [putUnits_none _ nothing]
        exact (Bounded.pure ()).mono (Nat.zero_le _)
      · rcases putUnits_some inside rfl nothing with ⟨hinside, hunits⟩
        rw [hunits]
        have hlength : 23 ≤ lengthBits sizeinunits := Nat.le_mul_of_pos_right 23 (Nat.succ_pos _)
        have hrest : ∀ maySave, Answers (aperPutLength (-1) sizeinunits) maySave →
            Bounded (asnPutManyBits buf (maySave * unit_bits)
                ((Nat.mul_le_mul_right _ maySave.property).trans inside) >>= fun _ =>
              putUnits unit_bits rounds (buf.drop (maySave * unit_bits / 8)) (sizeinunits - maySave)
                (hinside maySave))
              (lengthBits sizeinunits - 23 + sizeinunits * unit_bits) := by
          intro maySave answers
          have hamount := answers_length answers
          have hsplit : maySave.val * unit_bits + (sizeinunits - maySave.val) * unit_bits =
              sizeinunits * unit_bits := by
            rw [← Nat.add_mul, Nat.add_sub_cancel' maySave.property]
          by_cases last : sizeinunits - maySave.val = 0
          · apply ((asnPutManyBits_bounded _ _ _).bind fun _ =>
              (putUnits_none rounds last ▸ Bounded.pure () : Bounded _ 0)).mono
            omega
          · have hless : 23 + lengthBits (sizeinunits - maySave.val) ≤ lengthBits sizeinunits := by
              rw [hamount] at last ⊢
              exact lengthBits_rest (Nat.lt_of_sub_ne_zero last)
            apply ((asnPutManyBits_bounded _ _ _).bind fun _ => ih _ _ _).mono
            omega
        apply ((aperPutLength_bounded _ _).bind_of hrest).mono
        omega

def stringBits (subvariant : Subvariant) (st : BitString) : Nat :=
  8 + lengthBits (st.sizeinunits subvariant) + st.sizeinunits subvariant * subvariant.unit_bits

theorem putCount_bounded (csiz : PerConstraint) (sizeinunits : Nat) :
    Bounded (putCount csiz sizeinunits) 23 := by
  unfold putCount
  split
  · refine ((aperPutLength_bounded _ _).bind fun ret => (?_ : Bounded _ 0)).mono le_rfl
    split
    · exact Bounded.fail 0
    · exact Bounded.pure ()
  · exact (Bounded.pure ()).mono (Nat.zero_le _)

theorem octetString_bounded (subvariant : Subvariant) (size : Option PerConstraint) (st : BitString) :
    Bounded (octetStringEncodeAper subvariant size st) (stringBits subvariant st) := by
  have hlength : 23 ≤ lengthBits (st.sizeinunits subvariant) :=
    Nat.le_mul_of_pos_right 23 (Nat.succ_pos _)
  have halignment : ∀ csiz, Bounded (putSized.alignment csiz st) 7 := by
    intro csiz
    unfold putSized.alignment
    split
    · exact aperPutAlign_bounded
    · exact (Bounded.pure ()).mono (Nat.zero_le _)
  unfold octetStringEncodeAper putString stringBits
  rw [Nat.add_assoc, Nat.add_assoc 1 7]
  refine (putInext_bounded _ _).bind fun _ => ?_
  split
  · unfold putSized
    apply ((putCount_bounded _ _).bind fun _ => (halignment _).bind fun _ =>
      asnPutManyBits_bounded _ _ _).mono
    omega
  · unfold putUnsized
    split
    · apply ((aperPutLength_bounded (-1) 0).bind fun _ => Bounded.pure ()).mono
      omega
    · apply (putUnits_bounded _ _ _ _ _).mono
      omega

/-- The body of an open type is what it holds, in whole octets and not less than one. -/
def openBits (bits : Nat) : Nat :=
  bodyBits (max 1 ((bits + 7) / 8))

theorem bodyBits_mono {fewer more : Nat} (le : fewer ≤ more) : bodyBits fewer ≤ bodyBits more := by
  have hpieces : fewer / 16384 ≤ more / 16384 := Nat.div_le_div_right le
  unfold bodyBits lengthBits
  omega

theorem Bounded.new_buffer {encode : Put Unit} {bits : Nat} (bounded : Bounded encode bits)
    {buf : List UInt8} (run : aperEncodeToNewBuffer encode = .ok buf) :
    0 < buf.length ∧ buf.length ≤ max 1 ((bits + 7) / 8) := by
  cases hencode : aperEncode encode none with
  | error stop =>
      rw [aperEncodeToNewBuffer, hencode] at run
      cases run
  | ok outcome =>
      rcases outcome with ⟨op_key, encoded⟩
      rcases stored_of_aperEncode hencode with ⟨hnew, hlength⟩
      rcases aperEncode_spec hencode with ⟨sent, after, hrun, _, rfl, _⟩
      have hwritten := bounded.written (fresh_valid none) hrun
      rw [fresh_written, List.length_nil] at hwritten
      rw [hnew] at run
      rw [← Except.ok.inj run]
      split
      · exact ⟨Nat.one_pos, le_max_left _ _⟩
      · rw [hlength]
        omega

theorem aperOpenTypePut_bounded {encode : Put Unit} {bits : Nat} (bounded : Bounded encode bits) :
    Bounded (aperOpenTypePut encode) (openBits bits) := by
  have hbody : ∀ buf, Answers (Action.outcome (aperEncodeToNewBuffer encode)
      (aperEncodeToNewBuffer_kept encode)) buf → Bounded (putBody buf) (openBits bits) := by
    rintro buf ⟨before, after, _, run⟩
    cases hencode : aperEncodeToNewBuffer encode with
    | error stop =>
        simp only [Action.outcome, hencode] at run
        cases run
    | ok buf' =>
        simp only [Action.outcome, hencode] at run
        rw [← (Prod.mk.inj (Except.ok.inj run)).1]
        exact (putBody_bounded buf').mono (bodyBits_mono (bounded.new_buffer hencode).2)
  apply ((Bounded.outcome _ _).bind_of hbody).mono
  rw [Nat.zero_add]

mutual

/-- What the encoding of a value takes at most. -/
def sizeAper : Descriptor → Value → Nat
  | .integer ct, .body st => integerBits ct st
  | .nativeInteger ct, .integer native => integerBits ct (asnImax2INTEGER native)
  | .nativeEnumerated ct _, .integer _ => 1 + max ct.range_bits.toNat 32
  | .octetString subvariant _, .string st => stringBits subvariant st
  | .sequence oms first_extension elements, .sequence members =>
      1 + oms.length + sizeRoot first_extension 0 elements members +
        if extensionsCount first_extension elements.count members = 0 then 0
        else 23 + elements.count + sizeExtensions first_extension 0 elements members
  | .choice ct _ elements, .choice (present + 1) member =>
      1 + (max ct.range_bits.toNat 23 +
        if ct.range_bits ≥ 0 ∧ notInRoot ct present = false then sizeAlternative elements present member
        else openBits (sizeAlternative elements present member))
  | .setOf _ element, .list array =>
      1 + lengthBits array.length + (array.map (sizeAper element)).sum
  | .openType elements, .choice (present + 1) member =>
      openBits (sizeAlternative elements present member)
  | _, _ => 0

def sizeRoot (first_extension : Option Nat) : Nat → Elements → List (Option Value) → Nat
  | _, .nil, _ => 0
  | edx, .cons _ _ type rest, members =>
      (if inExtensionGroup first_extension edx then 0
        else ((memberAt members edx).map (sizeAper type)).getD 0) +
        sizeRoot first_extension (edx + 1) rest members

def sizeExtensions (first_extension : Option Nat) : Nat → Elements → List (Option Value) → Nat
  | _, .nil, _ => 0
  | edx, .cons _ _ type rest, members =>
      (if inExtensionGroup first_extension edx then
        ((memberAt members edx).map fun member => openBits (sizeAper type member)).getD 0 else 0) +
        sizeExtensions first_extension (edx + 1) rest members

def sizeAlternative : Elements → Nat → Value → Nat
  | .nil, _, _ => 0
  | .cons _ _ type _, 0, member => sizeAper type member
  | .cons _ _ _ rest, present + 1, member => sizeAlternative rest present member

end

section

variable {first_extension : Option Nat} {elements : Elements} {type : Descriptor}

theorem sizeAper_number (ct : Option PerConstraint) (native : Int) :
    sizeAper (.nativeInteger ct) (.integer native) = integerBits ct (asnImax2INTEGER native) :=
  rfl

theorem sizeAper_string (subvariant : Subvariant) (size : Option PerConstraint) (st : BitString) :
    sizeAper (.octetString subvariant size) (.string st) = stringBits subvariant st :=
  rfl

theorem sizeAper_sequence (oms : List Nat) (members : List (Option Value)) :
    sizeAper (.sequence oms first_extension elements) (.sequence members) =
      1 + oms.length + sizeRoot first_extension 0 elements members +
        if extensionsCount first_extension elements.count members = 0 then 0
        else 23 + elements.count + sizeExtensions first_extension 0 elements members :=
  rfl

theorem sizeAper_choice (ct : PerConstraint) (ext_start : Option Nat) (present : Nat) (member : Value) :
    sizeAper (.choice ct ext_start elements) (.choice (present + 1) member) =
      1 + (max ct.range_bits.toNat 23 +
        if ct.range_bits ≥ 0 ∧ notInRoot ct present = false then sizeAlternative elements present member
        else openBits (sizeAlternative elements present member)) :=
  rfl

theorem sizeAper_list (size : Option PerConstraint) (array : List Value) :
    sizeAper (.setOf size type) (.list array) =
      1 + lengthBits array.length + (array.map (sizeAper type)).sum :=
  rfl

theorem sizeAper_open (present : Nat) (member : Value) :
    sizeAper (.openType elements) (.choice (present + 1) member) =
      openBits (sizeAlternative elements present member) :=
  rfl

theorem sizeRoot_nil (edx : Nat) (members : List (Option Value)) :
    sizeRoot first_extension edx .nil members = 0 :=
  rfl

theorem sizeRoot_cons (optional : Bool) (type_selector : Option TypeSelector) (edx : Nat)
    (members : List (Option Value)) :
    sizeRoot first_extension edx (.cons optional type_selector type elements) members =
      (if inExtensionGroup first_extension edx then 0
        else ((memberAt members edx).map (sizeAper type)).getD 0) +
        sizeRoot first_extension (edx + 1) elements members :=
  rfl

end

theorem putPresence_bounded (members : List (Option Value)) (oms : List Nat) :
    Bounded (putPresence members oms) oms.length := by
  induction oms with
  | nil => exact Bounded.pure ()
  | cons edx oms ih =>
      apply ((asnPutFewBits_bounded _ 1).bind fun _ => ih).mono
      rw [List.length_cons]
      omega

theorem aperPutNslength_bounded (length : Nat) : Bounded (aperPutNslength length) 23 := by
  unfold aperPutNslength
  split
  · split
    · exact Bounded.fail 23
    · exact (asnPutFewBits_bounded _ 7).mono (by decide)
  · refine ((aperPutLength_bounded _ _).bind fun ret => (?_ : Bounded _ 0)).mono le_rfl
    split
    · exact Bounded.fail 0
    · exact Bounded.pure ()

theorem putItems_bounded {encode : Value → Put Unit} {size : Value → Nat}
    (each : ∀ item, Bounded (encode item) (size item)) (items : List Value) :
    Bounded (putItems encode items) (items.map size).sum := by
  induction items with
  | nil => exact Bounded.pure ()
  | cons item items ih =>
      rw [List.map_cons, List.sum_cons]
      exact (each item).bind fun _ => ih

theorem sequenceOf_bounded {encode : Value → Put Unit} {size : Value → Nat}
    (each : ∀ item, Bounded (encode item) (size item)) (ct : Option PerConstraint)
    (array : List Value) :
    Bounded (sequenceOfEncodeAper encode ct array)
      (1 + lengthBits array.length + (array.map size).sum) := by
  have hlength : 23 ≤ lengthBits array.length := Nat.le_mul_of_pos_right 23 (Nat.succ_pos _)
  have hunbounded : Bounded (sequenceOfEncodeAper.putUnbounded encode array)
      (lengthBits array.length + (array.map size).sum) := by
    unfold sequenceOfEncodeAper.putUnbounded
    split
    · apply ((aperPutLength_bounded (-1) 0).bind fun _ => Bounded.pure ()).mono
      omega
    · exact putAll_bounded (putItems_bounded each) array
  unfold sequenceOfEncodeAper
  cases ct with
  | none => exact hunbounded.mono (by omega)
  | some ct =>
      rw [Nat.add_assoc]
      refine (putInext_bounded _ _).bind fun _ => ?_
      split
      · apply ((aperPutLength_bounded _ _).bind fun _ => putItems_bounded each array).mono
        omega
      · exact hunbounded

theorem putMember_bounded {encode : Value → Put Unit} {size : Value → Nat}
    (each : ∀ member, Bounded (encode member) (size member)) (optional : Bool) (member : Option Value) :
    Bounded (putMember optional encode member) ((member.map size).getD 0) := by
  cases member with
  | some member => exact each member
  | none =>
      change Bounded (if optional then pure () else Put.fail) 0
      split
      · exact Bounded.pure ()
      · exact Bounded.fail 0

theorem sequence_bounded {encodeRoot encodeExtensions : List (Option Value) → Put Unit}
    {members : List (Option Value)} {root extensionBits : Nat}
    (rootBounded : Bounded (encodeRoot members) root)
    (extensionsBounded : Bounded (encodeExtensions members) extensionBits) (oms : List Nat)
    (first_extension : Option Nat) (elements_count : Nat) :
    Bounded (sequenceEncodeAper oms first_extension elements_count encodeRoot encodeExtensions members)
      (1 + oms.length + root +
        if extensionsCount first_extension elements_count members = 0 then 0
        else 23 + elements_count + extensionBits) := by
  have hextpresent : ∀ extpresent, Bounded (putExtpresent first_extension extpresent) 1 := by
    intro extpresent
    cases first_extension with
    | none => exact (Bounded.pure ()).mono (Nat.zero_le _)
    | some first_extension => exact asnPutFewBits_bounded _ 1
  have hextensions : (extensions first_extension elements_count).length ≤ elements_count := by
    have hfilter := List.length_filter_le (inExtensionGroup first_extension) (List.range elements_count)
    rwa [List.length_range] at hfilter
  unfold sequenceEncodeAper
  rw [Nat.add_assoc, Nat.add_assoc]
  refine (hextpresent _).bind fun _ => (putPresence_bounded members oms).bind fun _ =>
    rootBounded.bind fun _ => ?_
  split
  · exact Bounded.pure ()
  · apply ((aperPutNslength_bounded _).bind fun _ => (putPresence_bounded members _).bind fun _ =>
      extensionsBounded).mono
    omega

theorem choice_bounded {encodeAlternative : Bool → Nat → Value → Put Unit} {present bits : Nat}
    {member : Value}
    (each : ∀ asOpenType, Bounded (encodeAlternative asOpenType present member)
      (if asOpenType then openBits bits else bits)) (ct : PerConstraint) (ext_start : Option Nat) :
    Bounded (choiceEncodeAper ct ext_start encodeAlternative present member)
      (1 + (max ct.range_bits.toNat 23 +
        if ct.range_bits ≥ 0 ∧ notInRoot ct present = false then bits else openBits bits)) := by
  have hroot := each false
  have hextension := each true
  rw [if_neg Bool.false_ne_true] at hroot
  rw [if_pos rfl] at hextension
  have hsame : (ct.range_bits ≥ 0 ∧ (decide (ct.range_bits ≥ 0) && notInRoot ct present) = false) ↔
      (ct.range_bits ≥ 0 ∧ notInRoot ct present = false) := by
    refine and_congr_right fun ranged => ?_
    rw [decide_eq_true ranged, Bool.true_and]
  unfold choiceEncodeAper
  refine (putInext_bounded _ _).bind fun _ => ?_
  simp only [hsame]
  split
  · apply ((asnPutFewBits_bounded _ _).bind fun _ => hroot).mono
    omega
  · cases ext_start with
    | none => exact Bounded.fail _
    | some ext_start =>
        simp only
        split
        · apply ((aperPutNsnnwn_bounded _ _).bind fun _ => hextension).mono
          omega
        · apply hextension.mono
          omega

mutual

/-- No encoding takes more than that. -/
theorem encodeAper_bounded : ∀ (type : Descriptor) (value : Value),
    Bounded (encodeAper type value) (sizeAper type value)
  | .integer ct, value => by
      rw [encodeAper]
      cases value with
      | body st => exact integerEncodeAper_bounded ct st
      | _ => exact Bounded.fail _
  | .nativeInteger ct, value => by
      rw [encodeAper]
      cases value with
      | integer native => exact integerEncodeAper_bounded ct (asnImax2INTEGER native)
      | _ => exact Bounded.fail _
  | .nativeEnumerated ct specs, value => by
      rw [encodeAper]
      cases value with
      | integer native => exact enumerated_bounded ct specs native
      | _ => exact Bounded.fail _
  | .octetString subvariant size, value => by
      rw [encodeAper]
      cases value with
      | string st => exact octetString_bounded subvariant size st
      | _ => exact Bounded.fail _
  | .sequence oms first_extension elements, value => by
      rw [encodeAper]
      cases value with
      | sequence members =>
          exact sequence_bounded (encodeRoot_bounded first_extension elements 0 members)
            (encodeExtensions_bounded first_extension elements 0 members) oms first_extension _
      | _ => exact Bounded.fail _
  | .choice ct ext_start elements, value => by
      rw [encodeAper]
      cases value with
      | choice present member =>
          cases present with
          | zero => exact Bounded.fail _
          | succ present =>
              have hmember := fun asOpenType =>
                encodeAlternative_bounded elements asOpenType present member
              exact choice_bounded hmember ct ext_start
      | _ => exact Bounded.fail _
  | .setOf size element, value => by
      rw [encodeAper]
      cases value with
      | list array =>
          exact sequenceOf_bounded (fun item => encodeAper_bounded element item) size array
      | _ => exact Bounded.fail _
  | .openType elements, value => by
      rw [encodeAper]
      cases value with
      | choice present member =>
          cases present with
          | zero => exact Bounded.fail _
          | succ present => exact encodeAlternative_bounded elements true present member
      | _ => exact Bounded.fail _

theorem encodeRoot_bounded (first_extension : Option Nat) : ∀ (elements : Elements) (edx : Nat)
    (members : List (Option Value)),
    Bounded (encodeRoot first_extension edx elements members)
      (sizeRoot first_extension edx elements members)
  | .nil, edx, members => Bounded.pure ()
  | .cons optional type_selector type rest, edx, members => by
      rw [encodeRoot, sizeRoot]
      have hrest := encodeRoot_bounded first_extension rest (edx + 1) members
      split
      · rw [Nat.zero_add]
        exact hrest
      · exact (putMember_bounded (fun member => encodeAper_bounded type member) _ _).bind fun _ => hrest

theorem encodeExtensions_bounded (first_extension : Option Nat) : ∀ (elements : Elements) (edx : Nat)
    (members : List (Option Value)),
    Bounded (encodeExtensions first_extension edx elements members)
      (sizeExtensions first_extension edx elements members)
  | .nil, edx, members => Bounded.pure ()
  | .cons optional type_selector type rest, edx, members => by
      rw [encodeExtensions, sizeExtensions]
      have hrest := encodeExtensions_bounded first_extension rest (edx + 1) members
      cases hextension : inExtensionGroup first_extension edx with
      | false =>
          rw [if_pos rfl, if_neg Bool.false_ne_true, Nat.zero_add]
          exact hrest
      | true =>
          rw [if_neg Bool.noConfusion, if_pos rfl]
          have hmember := putMember_bounded (fun member =>
            aperOpenTypePut_bounded (encodeAper_bounded type member)) true (memberAt members edx)
          exact hmember.bind fun _ => hrest

theorem encodeAlternative_bounded : ∀ (elements : Elements) (asOpenType : Bool) (present : Nat)
    (member : Value), Bounded (encodeAlternative asOpenType elements present member)
      (if asOpenType then openBits (sizeAlternative elements present member)
        else sizeAlternative elements present member)
  | .nil, asOpenType, present, member => Bounded.fail _
  | .cons optional type_selector type rest, asOpenType, 0, member => by
      rw [encodeAlternative, sizeAlternative]
      have hmember := encodeAper_bounded type member
      split
      · exact aperOpenTypePut_bounded hmember
      · exact hmember
  | .cons optional type_selector type rest, asOpenType, present + 1, member => by
      rw [encodeAlternative, sizeAlternative]
      exact encodeAlternative_bounded rest asOpenType present member

end

theorem Bounded.decoded {Got : Type} {encode : Put Unit} {decode : Get Got} {Post : Unit → Got → Prop}
    {bits buffer_size : Nat} (bounded : Bounded encode bits) (conveys : Conveys encode decode Post)
    (large : bits ≤ 8 * buffer_size) :
    ∃ stored encoded, aperEncodeToBuffer encode buffer_size = .ok (stored, encoded) ∧
      encoded ≤ bits ∧ stored.length = (encoded + 7) / 8 ∧
      (0 < encoded → ∀ rest, ∃ got,
        aperDecodeComplete decode (stored ++ rest) = .ok (got, stored.length) ∧ Post () got) := by
  rcases conveys.writes (.fresh none) (fresh_valid none) rfl with ⟨sent, after, hrun, roomy⟩
  rcases aperEncode_of_roomy hrun roomy with ⟨op_key, hencode⟩
  have hlength := (stored_of_aperEncode hencode).2
  have hwritten := bounded.written (fresh_valid none) hrun
  rw [fresh_written, List.length_nil, Nat.zero_add] at hwritten
  refine ⟨op_key.stored, after.written.length, ?_, hwritten, hlength, fun some rest => ?_⟩
  · have hroom : op_key.stored.length ≤ buffer_size := by omega
    rw [bounded.aperEncodeToBuffer_eq, hencode]
    exact if_pos hroom
  · exact aperDecodeComplete_of_encoded conveys hencode some rest

theorem Bounded.nothing_put {encode : Put Unit} {bits buffer_size : Nat} (bounded : Bounded encode bits)
    {stored : List UInt8} (run : aperEncodeToBuffer encode buffer_size = .ok (stored, 0)) :
    aperEncodeToNewBuffer encode = .ok [0] := by
  rw [bounded.aperEncodeToBuffer_eq] at run
  cases hencode : aperEncode encode none with
  | error stop =>
      rw [hencode] at run
      cases run
  | ok outcome =>
      rw [hencode] at run
      have hrun : (if outcome.1.stored.length ≤ buffer_size then .ok (outcome.1.stored, outcome.2)
          else .error .failed) = (.ok (stored, 0) : Except Stop (List UInt8 × Nat)) := run
      split at hrun
      · have hnone : outcome.2 = 0 := (Prod.mk.inj (Except.ok.inj hrun)).2
        rw [aperEncodeToNewBuffer, hencode]
        exact if_pos hnone
      · cases hrun

theorem Bounded.decoded_of_refused {Got : Type} {encode : Put Unit} {decode : Get Got}
    {Post : Unit → Got → Prop} {bits buffer_size : Nat} (bounded : Bounded encode bits)
    (conveys : Conveys encode decode Post) (large : bits ≤ 8 * buffer_size)
    (refused : (aperDecodeComplete decode [0]).isOk = false) :
    ∃ stored encoded, aperEncodeToBuffer encode buffer_size = .ok (stored, encoded) ∧
      encoded ≤ bits ∧ stored.length = (encoded + 7) / 8 ∧ ∀ rest, ∃ got,
        aperDecodeComplete decode (stored ++ rest) = .ok (got, stored.length) ∧ Post () got := by
  rcases bounded.decoded conveys large with ⟨stored, encoded, hencode, hbits, hlength, hdecode⟩
  refine ⟨stored, encoded, hencode, hbits, hlength, hdecode (Nat.pos_of_ne_zero ?_)⟩
  rintro rfl
  have hnothing := bounded.nothing_put hencode
  rcases aperDecodeComplete_of_new_buffer conveys with ⟨buf, hbuf, hread⟩
  obtain rfl : buf = [0] := Except.ok.inj (hbuf.symm.trans hnothing)
  rcases hread [] with ⟨got, hgot, _⟩
  rw [List.append_nil] at hgot
  rw [hgot] at refused
  cases refused

/-- An open type that takes less than 16K octets comes back. -/
theorem endsOpen_of_size {type : Descriptor} {value : Value}
    (short : sizeAper type value ≤ 8 * 16383) : endsOpen (encodeAper type value) = true := by
  unfold endsOpen
  split
  · next buf hencode =>
      have hshort := (encodeAper_bounded type value).new_buffer hencode
      apply decide_eq_true
      unfold Ends
      omega
  · rfl

/-- `aper_encode_to_buffer` and `asn_encode_to_buffer` put the same octets into a buffer, and both
want all of them to fit, whatever the value is, unless it takes no bits. -/
theorem buffers_agree (type : Descriptor) (value : Value) (buffer_size : Nat) (stored : List UInt8) :
    (∃ encoded, 0 < encoded ∧
        aperEncodeToBuffer (encodeAper type value) buffer_size = .ok (stored, encoded)) ↔
      asnEncodeToBuffer (encodeAper type value) buffer_size = .ok (some stored, stored.length) ∧
        aperEncodeToBuffer (encodeAper type value) buffer_size ≠ .ok ([], 0) :=
  (encodeAper_bounded type value).agree buffer_size stored

/-- A buffer of the size that a value takes at most is large enough, and what is put into it is
decoded to the value. -/
theorem decoded_of_large_buffer {reader : LengthReader} {type : Descriptor} {value : Value}
    {buffer_size : Nat} (generated : wellFormed type = true) (fit : fits type value = true)
    (large : sizeAper type value ≤ 8 * buffer_size) :
    ∃ stored encoded, aperEncodeToBuffer (encodeAper type value) buffer_size = .ok (stored, encoded) ∧
      encoded ≤ sizeAper type value ∧ stored.length = (encoded + 7) / 8 ∧
      (0 < encoded → ∀ rest,
        aperDecodeComplete (decodeAper reader type) (stored ++ rest) = .ok (value, stored.length)) := by
  have hconveys : Conveys (encodeAper type value) (decodeAper reader type) fun _ got => got = value :=
    encodeAper_conveys type value generated fit
  rcases (encodeAper_bounded type value).decoded hconveys large with
    ⟨stored, encoded, hencode, hbits, hlength, hdecode⟩
  refine ⟨stored, encoded, hencode, hbits, hlength, fun some rest => ?_⟩
  rcases hdecode some rest with ⟨got, hgot, rfl⟩
  exact hgot

theorem decoded_of_large_buffer_extended :
    ∃ stored encoded,
      aperEncodeToBuffer (encodeAper extended extendedValue) 40 = .ok (stored, encoded) ∧
      encoded ≤ sizeAper extended extendedValue ∧ stored.length = (encoded + 7) / 8 ∧
      (0 < encoded → ∀ rest,
        aperDecodeComplete (decodeAper .oranE2 extended) (stored ++ rest) =
          .ok (extendedValue, stored.length)) :=
  decoded_of_large_buffer (by decide) (by decide) (by decide)

end NearRtRic.Asn1
