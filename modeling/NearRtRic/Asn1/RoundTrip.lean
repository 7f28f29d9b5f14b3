import Mathlib.Tactic
import NearRtRic.Asn1.Descriptor

/-! What is decoded is what was encoded, for every value of a type that has been generated as its
coders expect. -/

namespace NearRtRic.Asn1

open Bits PerConstraint Transmission

def optionalRoot (first_extension : Option Nat) : Nat → Elements → List Nat
  | _, .nil => []
  | edx, .cons optional _ _ rest =>
      if inExtensionGroup first_extension edx = false ∧ optional then
        edx :: optionalRoot first_extension (edx + 1) rest
      else optionalRoot first_extension (edx + 1) rest

/-- The constraints on a number of elements: both bounds within 64K, or nothing that a version of
`aper_get_length` takes for a range. -/
def ListConstraint (ct : PerConstraint) : Prop :=
  ct.effective_bits < 0 ∧
      ¬(0 ≤ ct.upper_bound - ct.lower_bound + 1 ∧ ct.upper_bound - ct.lower_bound + 1 ≤ 65536) ∨
    0 ≤ ct.effective_bits ∧ 0 ≤ ct.lower_bound ∧ ct.lower_bound ≤ ct.upper_bound ∧
      ct.upper_bound - ct.lower_bound < 65536

instance (ct : PerConstraint) : Decidable (ListConstraint ct) :=
  inferInstanceAs (Decidable (_ ∨ _))

/-- The constraints on an alternative: as many bits as tell those of the root apart. -/
def ChoiceConstraint (ct : PerConstraint) : Prop :=
  0 ≤ ct.range_bits ∧ ct.range_bits ≤ 31 ∧ ct.upper_bound < 2 ^ ct.range_bits.toNat

instance (ct : PerConstraint) : Decidable (ChoiceConstraint ct) :=
  inferInstanceAs (Decidable (_ ∧ _))

mutual

/-- What a generated type has to be like for its values to come back. -/
def wellFormed : Descriptor → Bool
  | .integer ct => ct.all fun ct => IntegerConstraint ct
  | .nativeInteger ct => ct.all fun ct => IntegerConstraint ct
  | .nativeEnumerated ct specs => EnumeratedConstraint ct specs
  | .octetString _ size => SizeConstraint (size.getD unconstrainedSize)
  | .sequence oms first_extension elements =>
      decide (oms = optionalRoot first_extension 0 elements) &&
        decide ((extensions first_extension elements.count).length ≤ 64) && wellFormedElements elements
  | .choice ct _ elements => decide (ChoiceConstraint ct) && wellFormedElements elements
  | .setOf size element => (size.all fun ct => ListConstraint ct) && wellFormed element
  | .openType _ => false

/-- An open type is one that its member can select. -/
def wellFormedElements : Elements → Bool
  | .nil => true
  | .cons _ type_selector type rest =>
      (if type_selector.isSome then wellFormedOpen type else wellFormed type) && wellFormedElements rest

def wellFormedOpen : Descriptor → Bool
  | .openType elements => wellFormedElements elements
  | _ => false

end

/-- What an encoder puts takes no positive multiple of 16K octets. -/
def endsOpen (encode : Put Unit) : Bool :=
  match aperEncodeToNewBuffer encode with
  | .ok buf => Ends buf.length
  | .error _ => true

/-- A length without bounds ends with a piece that is not followed by another one. -/
def UnboundedFits (count : Nat) : Prop :=
  count = 0 ∨ Ends count

instance (count : Nat) : Decidable (UnboundedFits count) :=
  inferInstanceAs (Decidable (_ ∨ _))

def ListFits (size : Option PerConstraint) (count : Nat) : Prop :=
  match size with
  | none => UnboundedFits count
  | some ct =>
      (outOfList ct count = true → ct.has APC_EXTENSIBLE = true ∧ UnboundedFits count) ∧
        (ct.effective_bits < 0 → UnboundedFits count)

instance (size : Option PerConstraint) (count : Nat) : Decidable (ListFits size count) := by
  unfold ListFits
  cases size with
  | none => exact inferInstanceAs (Decidable (UnboundedFits count))
  | some ct => exact inferInstanceAs (Decidable (_ ∧ _))

def extensionFits (ct : PerConstraint) (ext_start : Option Nat) (present : Nat) : Bool :=
  ct.has APC_EXTENSIBLE &&
    match ext_start with
    | none => false
    | some ext_start => ext_start ≤ present ∧ present - ext_start < 2 ^ numberWidth ct.range_bits.toNat

/-- A member is a value of its type, or of the one that the table selects for it. -/
def fitsMember (fits : Bool) (fitsOpen : Nat → Bool) (type_selector : Option TypeSelector)
    (edx : Nat) (members : List (Option Value)) : Bool :=
  match type_selector with
  | none => fits
  | some type_selector =>
      decide (type_selector.constraining < edx) && (selectType type_selector members).any fitsOpen

mutual

/-- The values of a type that come back. -/
def fits : Descriptor → Value → Bool
  | .integer ct, .body st =>
      (asnINTEGER2imax st).any fun native => st = asnImax2INTEGER native ∧ Allows ct native
  | .nativeInteger ct, .integer native => Allows ct native
  | .nativeEnumerated _ specs, .integer native => Enumerates specs native
  | .octetString subvariant size, .string st =>
      Proper subvariant st ∧ SizeKept (size.getD unconstrainedSize) (st.sizeinunits subvariant)
  | .sequence _ first_extension elements, .sequence members =>
      decide (members.length = elements.count) && fitsMembers first_extension 0 elements members
  | .choice ct ext_start elements, .choice (present + 1) member =>
      if notInRoot ct present then
        extensionFits ct ext_start present && fitsAlternative true elements present member
      else fitsAlternative false elements present member
  | .setOf size element, .list array => decide (ListFits size array.length) && array.all (fits element)
  | _, _ => false

def fitsMembers (first_extension : Option Nat) : Nat → Elements → List (Option Value) → Bool
  | _, .nil, _ => true
  | edx, .cons optional type_selector type rest, members =>
      (match memberAt members edx with
        | none => optional || inExtensionGroup first_extension edx
        | some member =>
            if inExtensionGroup first_extension edx then
              fits type member && endsOpen (encodeAper type member)
            else fitsMember (fits type member) (fitsOpen type member) type_selector edx members) &&
        fitsMembers first_extension (edx + 1) rest members

def fitsOpen : Descriptor → Value → Nat → Bool
  | .openType elements, .choice (present + 1) member, presence_index =>
      decide (presence_index = present + 1) && fitsAlternative true elements present member
  | _, _, _ => false

def fitsAlternative (asOpenType : Bool) : Elements → Nat → Value → Bool
  | .nil, _, _ => false
  | .cons _ _ type _, 0, member =>
      fits type member && (!asOpenType || endsOpen (encodeAper type member))
  | .cons _ _ _ rest, present + 1, member => fitsAlternative asOpenType rest present member

end

theorem bitsOf_one (bit : Bool) : bitsOf 1 bit.toNat = [bit] := by
  cases bit with
  | true => rfl
  | false => rfl

theorem putPresence_writes (members : List (Option Value)) (oms : List Nat) :
    Writes (putPresence members oms) (oms.map fun edx => (memberAt members edx).isSome) := by
  induction oms with
  | nil => exact Writes.pure
  | cons edx oms ih =>
      have hbit := asnPutFewBits_writes (memberAt members edx).isSome.toNat (by decide : 1 ≤ 31)
      rw [bitsOf_one] at hbit
      exact hbit.bind ih

theorem getBitmap_reads (bits : List Bool) :
    ∃ opmd : Bitmap, opmd.val.left = bits ∧ Reads (getBitmap bits.length) bits opmd := by
  rcases exists_octets bits with ⟨bytes, hbytes⟩
  have hlength := length_of_padded hbytes
  have hinside : bits.length ≤ 8 * bytes.length := by omega
  refine ⟨⟨⟨bytes, 0, bits.length, 0⟩, Nat.zero_le _, hinside, rfl⟩, ?_, ?_⟩
  · simp only [AsnBitData.left, hbytes, List.take_left, List.drop_zero]
  · intro pd rest valid left
    rcases asnGetManyBits_reads hbytes pd rest valid left with ⟨pd', hread, hrest⟩
    refine ⟨pd', ?_, hrest⟩
    simp only [getBitmap, hread]
    rw [dif_pos hinside]

theorem putPresence_conveys (members : List (Option Value)) (oms : List Nat) :
    Conveys (putPresence members oms) (getBitmap oms.length) fun _ opmd =>
      opmd.val.left = oms.map fun edx => (memberAt members edx).isSome := by
  rcases getBitmap_reads (oms.map fun edx => (memberAt members edx).isSome) with
    ⟨opmd, hleft, hreads⟩
  rw [List.length_map] at hreads
  exact ((putPresence_writes members oms).conveys hreads).mono fun _ got same => by rw [same, hleft]

theorem Bitmap.next_cons {opmd : Bitmap} {present : Bool} {bits : List Bool}
    (left : opmd.val.left = present :: bits) :
    opmd.next.1 = some present ∧ opmd.next.2.val.left = bits := by
  rcases asnGetFewBits_reads [present] (Nat.le_add_left 1 30) opmd.val bits opmd.property left with
    ⟨pd, hread, hvalid, hleft, _⟩
  have hnext : opmd.next = (some (wordOf [present] != 0), ⟨pd, hvalid⟩) := by
    unfold next
    split
    · next word pd' hrun =>
        have hsame := hrun.symm.trans hread
        rcases Prod.mk.inj (Except.ok.inj hsame) with ⟨rfl, rfl⟩
        rfl
    · next stop hrun =>
        have hsame := hrun.symm.trans hread
        cases hsame
  rw [hnext]
  refine ⟨?_, hleft⟩
  cases present with
  | true => rfl
  | false => rfl

theorem Bitmap.next_nil {opmd : Bitmap} (left : opmd.val.left = []) : opmd.next.1 = none := by
  have hfailed : (asnGetFewBits 1).run opmd.val = .error .failed :=
    getFewBits_failed (by rw [left]; decide) opmd.property
  unfold next
  split
  · next word pd hrun =>
      have hsame := hrun.symm.trans hfailed
      cases hsame
  · rfl

theorem skipOverflow_exhausted {epmd : Bitmap} (left : epmd.val.left = []) (rounds : Nat) :
    skipOverflow rounds epmd = pure () := by
  cases rounds with
  | zero => rfl
  | succ rounds =>
      have hnext := Bitmap.next_nil left
      unfold skipOverflow
      split
      · rfl
      · next same =>
          rw [same] at hnext
          cases hnext
      · next same =>
          rw [same] at hnext
          cases hnext

theorem aperNslength_conveys {length : Nat} (positive : 0 < length) (few : length ≤ 64) :
    Conveys (aperPutNslength length) aperGetNslength fun _ got => got = length := by
  have hread : Reads aperGetNslength (bitsOf 1 0 ++ (bitsOf 6 (length - 1) ++ [])) length := by
    apply (asnGetFewBits_word (by decide) (by decide)).bind
    apply (asnGetFewBits_word (by decide) (by omega)).bind
    rw [Nat.sub_add_cancel positive]
    exact Reads.pure length
  have hbits : bitsOf 7 (length - 1) = bitsOf 1 0 ++ bitsOf 6 (length - 1) := by
    have hsplit := bitsOf_add 1 6 (length - 1)
    rwa [Nat.div_eq_of_lt (by omega)] at hsplit
  unfold aperPutNslength
  rw [if_pos few, if_neg positive.ne']
  rw [List.append_nil, ← hbits] at hread
  exact (asnPutFewBits_writes _ (by decide)).conveys hread

theorem extpresent_conveys (first_extension : Option Nat) {extpresent : Bool}
    (may : extpresent = true → first_extension.isSome) :
    Conveys (putExtpresent first_extension extpresent) (getExtpresent first_extension)
      fun _ got => got = extpresent := by
  cases first_extension with
  | none =>
      cases extpresent with
      | true => exact absurd (may rfl) (by decide)
      | false => exact Conveys.pure rfl
  | some first_extension =>
      apply (asnPutFewBits_conveys extpresent.toNat (by decide)).mapping
      intro _ got same
      rw [same]
      cases extpresent with
      | true => rfl
      | false => rfl

theorem items_convey {encode : Value → Put Unit} {decode : Get Value} {array : List Value}
    (each : ∀ item ∈ array, Conveys (encode item) decode fun _ got => got = item) :
    Conveys (putItems encode array) (getItems decode array.length) fun _ got => got = array := by
  induction array with
  | nil => exact Conveys.pure rfl
  | cons item items ih =>
      apply (each item (List.mem_cons_self ..)).bind
      intro _ got same
      apply (ih fun other among => each other (List.mem_cons_of_mem _ among)).mapping
      intro _ rest hrest
      rw [same, hrest]

/-- A length without a range is read alike by the versions. -/
theorem getListLength_none (reader : LengthReader) :
    getListLength reader none = aperGetLength (-1) (-1) :=
  reader.agrees _ _ (.inr (by decide))

theorem getListLength_eq (reader : LengthReader) {root : Option PerConstraint}
    (generated : ∀ ct ∈ root, ListConstraint ct) (unbounded : ∀ ct ∈ root, ct.effective_bits < 0) :
    getListLength reader root = aperGetLength (-1) (-1) := by
  cases root with
  | none => exact getListLength_none reader
  | some ct =>
      have hbits := unbounded ct rfl
      have hrange := ((generated ct rfl).resolve_right (by omega)).2
      have hsome : ¬(ct.effective_bits ≥ 0 ∧ 0 ≤ ct.upper_bound - ct.lower_bound + 1 ∧
          ct.upper_bound - ct.lower_bound + 1 ≤ 65536) := fun all => hrange all.2
      have hnone : ¬((-1 : Int) ≥ 0 ∧ (0 : Int) ≤ -1 ∧ (-1 : Int) ≤ 65536) := by decide
      rw [getListLength, reader.agrees _ _ (.inr hrange), aperGetLength, aperGetLength,
        if_neg hsome, if_neg hnone, if_neg (by omega : ¬ct.effective_bits ≥ 0),
        if_neg (by decide : ¬(-1 : Int) ≥ 0)]

theorem unbounded_conveys {reader : LengthReader} {root : Option PerConstraint}
    (read : getListLength reader root = aperGetLength (-1) (-1)) {encode : Value → Put Unit} {decode : Get Value} {array : List Value}
    (each : ∀ item ∈ array, Conveys (encode item) decode fun _ got => got = item)
    (ends : UnboundedFits array.length) :
    Conveys (sequenceOfEncodeAper.putUnbounded encode array) 
      (setOfDecodeAper.getUnbounded reader decode root) fun _ got => got = .list array := by
  unfold sequenceOfEncodeAper.putUnbounded setOfDecodeAper.getUnbounded
  rw [read]
  have hpieces : Conveys
      (if array.isEmpty then do
          let _ ← aperPutLength (-1) 0
          pure ()
        else putAll (putItems encode) array : Put Unit)
      (getAll (aperGetLength (-1) (-1)) (getItems decode)) fun _ got => got = array := by
    by_cases empty : array = []
    · have hrounds : ∀ fuel, 1 ≤ fuel →
          Conveys (aperPutLength (-1) 0 >>= fun _ => pure ())
            (getPieces (aperGetLength (-1) (-1)) (getItems decode) fuel) fun _ got => got = [] := by
        intro fuel enough
        rcases fuel with _ | fuel
        · omega
        apply (aperLength_conveys 0).bind
        intro _ got same
        rw [same.2]
        exact Conveys.pure rfl
      rw [empty]
      refine Conveys.looping (fun _ valid => left_length_le valid) hrounds ?_
      intro before sent after valid run
      rcases Action.run_bind_ok_iff.mp run with ⟨amount, middle, hlength, hpure⟩
      rcases Prod.mk.inj (Except.ok.inj hpure) with ⟨_, rfl⟩
      have hgrown : before.written.length + 8 ≤ middle.written.length :=
        (aperPutLength_grows valid hlength).2
      change before.written.length + 1 ≤ middle.written.length
      omega
    · have hsome : ¬array.isEmpty = true := by simpa using empty
      have hends := ends.resolve_left fun none => empty (List.length_eq_zero_iff.mp none)
      rw [if_neg hsome]
      have hitems : ∀ items : List Value,
          (∀ item ∈ items, Conveys (encode item) decode fun _ got => got = item) →
          Conveys (putItems encode items) (getItems decode items.length) fun _ got => got = items :=
        fun items each => items_convey each
      exact all_convey hitems each hends
  exact hpieces.mapping fun _ got same => by rw [same]

theorem list_conveys {reader : LengthReader} {encode : Value → Put Unit} {decode : Get Value} {size : Option PerConstraint}
    {array : List Value} (generated : ∀ ct ∈ size, ListConstraint ct) (fit : ListFits size array.length)
    (each : ∀ item ∈ array, Conveys (encode item) decode fun _ got => got = item) :
    Conveys (sequenceOfEncodeAper encode size array) (setOfDecodeAper reader decode size)
      fun _ got => got = .list array := by
  cases size with
  | none => exact unbounded_conveys (getListLength_none reader) each fit
  | some ct =>
      unfold sequenceOfEncodeAper setOfDecodeAper
      apply (putInext_conveys fun extended => (fit.1 extended).1).bind
      intro _ root same
      rw [same]
      cases hout : outOfList ct array.length with
      | true => exact unbounded_conveys (getListLength_none reader) each (fit.1 hout).2
      | false =>
          simp only [Bool.false_eq_true, if_false]
          by_cases bounded : ct.effective_bits ≥ 0
          · have hroot : ct.lower_bound ≤ array.length ∧ array.length ≤ ct.upper_bound := by
              simp only [outOfList, notInRoot, bounded] at hout
              simpa using hout
            rcases generated ct rfl with ⟨hnone, -⟩ | ⟨-, hlower, hbounds, hsmall⟩
            · omega
            have hfits : (array.length - ct.lower_bound).toNat <
                2 ^ numberWidth (ct.upper_bound - ct.lower_bound + 1).toNat :=
              lt_numberWidth (by omega) (by omega)
            have hcount : Conveys (aperPutLength (ct.upper_bound - ct.lower_bound + 1)
                  (array.length - ct.lower_bound).toNat)
                (aperGetNsnnwn (ct.upper_bound - ct.lower_bound + 1).toNat)
                fun _ got => got = (array.length - ct.lower_bound).toNat := by
              unfold aperPutLength
              rw [if_pos ⟨by omega, by omega⟩]
              exact (aperNsnnwn_conveys (by omega) hfits).answering fun _ got same => same
            rw [if_pos ⟨trivial, bounded⟩, if_pos bounded]
            apply hcount.bind
            intro _ nelems hnelems
            have hlength : ((nelems : Int) + ct.lower_bound).toNat = array.length := by omega
            rw [hlength]
            exact (items_convey each).mapping fun _ got same => by rw [same]
          · have hends := fit.2 (by omega)
            rw [if_neg fun both => bounded both.2, if_neg bounded]
            refine unbounded_conveys (getListLength_eq reader generated ?_) each hends
            intro other same
            obtain rfl := Option.some.inj same
            exact Int.not_le.mp bounded

/-- The members that are decoded before the extensions from an index on. -/
def known (first_extension : Option Nat) (edx : Nat) (members : List (Option Value)) :
    List (Option Value) :=
  members.mapIdx fun index member =>
    if inExtensionGroup first_extension index ∧ edx ≤ index then none else member

section

variable {first_extension : Option Nat} {edx : Nat} {members : List (Option Value)}

@[simp] theorem known_length : (known first_extension edx members).length = members.length :=
  List.length_mapIdx

theorem getElem?_known (index : Nat) :
    (known first_extension edx members)[index]? = members[index]?.map fun member =>
      if inExtensionGroup first_extension index ∧ edx ≤ index then none else member :=
  List.getElem?_mapIdx

theorem getElem?_of_memberAt (inside : edx < members.length) :
    members[edx]? = some (memberAt members edx) := by
  rw [memberAt, List.getElem?_eq_getElem inside]
  rfl

theorem known_all (all : members.length ≤ edx) : known first_extension edx members = members := by
  apply List.ext_getElem?
  intro index
  rw [getElem?_known]
  by_cases inside : index < members.length
  · rw [getElem?_of_memberAt inside, Option.map_some, if_neg (by omega)]
  · rw [List.getElem?_eq_none (by omega)]
    rfl

theorem known_set :
    (known first_extension edx members).set edx (memberAt members edx) =
      known first_extension (edx + 1) members := by
  apply List.ext_getElem?
  intro index
  rw [List.getElem?_set, known_length, getElem?_known, getElem?_known]
  by_cases here : edx = index
  · subst here
    by_cases inside : edx < members.length
    · rw [if_pos rfl, if_pos inside, getElem?_of_memberAt inside, Option.map_some,
        if_neg (by omega)]
    · rw [if_pos rfl, if_neg inside, List.getElem?_eq_none (by omega)]
      rfl
  · rw [if_neg here]
    have hsame : edx ≤ index ↔ edx + 1 ≤ index := by omega
    simp only [hsame]

theorem known_absent (absent : memberAt members edx = none) :
    known first_extension edx members = known first_extension (edx + 1) members := by
  apply List.ext_getElem?
  intro index
  rw [getElem?_known, getElem?_known]
  by_cases inside : index < members.length
  · rw [getElem?_of_memberAt inside, Option.map_some, Option.map_some]
    by_cases here : edx = index
    · subst here
      rw [absent, ite_self, ite_self]
    · have hsame : edx ≤ index ↔ edx + 1 ≤ index := by omega
      simp only [hsame]
  · rw [List.getElem?_eq_none (by omega)]
    rfl

theorem known_root (root : inExtensionGroup first_extension edx = false) :
    known first_extension edx members = known first_extension (edx + 1) members := by
  apply List.ext_getElem?
  intro index
  rw [getElem?_known, getElem?_known]
  by_cases here : edx = index
  · subst here
    simp only [root, Bool.false_eq_true, false_and, if_false]
  · have hsame : edx ≤ index ↔ edx + 1 ≤ index := by omega
    simp only [hsame]

theorem take_known (inside : edx < members.length) :
    (known first_extension 0 members).take (edx + 1) = (known first_extension 0 members).take edx ++
      [if inExtensionGroup first_extension edx then none else memberAt members edx] := by
  rw [List.take_add_one, getElem?_known, getElem?_of_memberAt inside, Option.map_some]
  simp only [Nat.zero_le, and_true]
  rfl

theorem inExtensionGroup_mono {index : Nat} (root : inExtensionGroup first_extension edx = false)
    (before : index ≤ edx) : inExtensionGroup first_extension index = false := by
  cases first_extension with
  | none => rfl
  | some first_extension =>
      have hfirst := of_decide_eq_false root
      exact decide_eq_false (by omega)

theorem selectType_take {type_selector : TypeSelector} (before : type_selector.constraining < edx)
    (root : inExtensionGroup first_extension edx = false) (inside : edx < members.length) :
    selectType type_selector ((known first_extension 0 members).take edx) =
      selectType type_selector members := by
  have hroot := inExtensionGroup_mono root before.le
  have hmember : memberAt ((known first_extension 0 members).take edx) type_selector.constraining =
      memberAt members type_selector.constraining := by
    rw [memberAt, List.getElem?_take, if_pos before, getElem?_known,
      getElem?_of_memberAt (before.trans inside), Option.map_some]
    simp only [hroot, Bool.false_eq_true, false_and, if_false]
    rfl
  rw [selectType, hmember, selectType]

end

theorem extensionsCount_eq_zero {first_extension : Option Nat} {members : List (Option Value)}
    (none : extensionsCount first_extension members.length members = 0) :
    known first_extension 0 members = members := by
  have habsent : ∀ edx, edx < members.length → inExtensionGroup first_extension edx = true →
      memberAt members edx = .none := by
    intro edx inside extension
    have hamong : edx ∈ extensions first_extension members.length :=
      List.mem_filter.mpr ⟨List.mem_range.mpr inside, extension⟩
    unfold extensionsCount at none
    split at none
    · have hempty := List.length_eq_zero_iff.mp none
      rw [hempty] at hamong
      cases hamong
    · next absent =>
        by_contra present
        apply absent
        rw [List.any_eq_true]
        exact ⟨edx, hamong, Option.isSome_iff_ne_none.mpr present⟩
  apply List.ext_getElem?
  intro edx
  rw [getElem?_known]
  by_cases inside : edx < members.length
  · rw [getElem?_of_memberAt inside, Option.map_some]
    split
    · next extension => rw [habsent edx inside extension.1]
    · rfl
  · rw [List.getElem?_eq_none (by omega)]
    rfl

theorem extensionsCount_pos {first_extension : Option Nat} {count : Nat}
    {members : List (Option Value)} (some : extensionsCount first_extension count members ≠ 0) :
    extensionsCount first_extension count members = (extensions first_extension count).length ∧
      first_extension.isSome := by
  unfold extensionsCount at some ⊢
  split at some
  · next present =>
      rw [if_pos present]
      refine ⟨rfl, ?_⟩
      rcases List.any_eq_true.mp present with ⟨edx, hamong, _⟩
      have hextension := (List.mem_filter.mp hamong).2
      cases first_extension with
      | none => cases hextension
      | some first_extension => rfl
  · exact absurd rfl some

theorem sequence_conveys {oms : List Nat} {first_extension : Option Nat}
    {encodeRoot encodeExtensions : List (Option Value) → Put Unit}
    {decodeRoot : Bitmap → Get (List (Option Value))}
    {decodeExtensions : Bitmap → List (Option Value) → Get (List (Option Value) × Bitmap)}
    {members : List (Option Value)}
    (few : (extensions first_extension members.length).length ≤ 64)
    (root : ∀ opmd : Bitmap, opmd.val.left = oms.map (fun edx => (memberAt members edx).isSome) →
      Conveys (encodeRoot members) (decodeRoot opmd) fun _ got => got = known first_extension 0 members)
    (behind : ∀ epmd : Bitmap,
      epmd.val.left = (extensions first_extension members.length).map
        (fun edx => (memberAt members edx).isSome) →
      Conveys (encodeExtensions members) (decodeExtensions epmd (known first_extension 0 members))
        fun _ got => got.1 = members ∧ got.2.val.left = []) :
    Conveys
      (sequenceEncodeAper oms first_extension members.length encodeRoot encodeExtensions members)
      (sequenceDecodeAper oms first_extension decodeRoot decodeExtensions)
      fun _ got => got = .sequence members := by
  refine (extpresent_conveys first_extension ?_).bind ?_
  · intro present
    exact (extensionsCount_pos (by simpa using present)).2
  intro _ extpresent hextpresent
  apply (putPresence_conveys members oms).bind
  intro _ opmd hopmd
  apply (root opmd hopmd).bind
  intro _ st hst
  by_cases nothing : extensionsCount first_extension members.length members = 0
  · have habsent : extpresent = false := by
      rw [hextpresent, nothing]
      rfl
    rw [if_pos nothing, habsent, hst, extensionsCount_eq_zero nothing]
    exact Conveys.pure rfl
  · have hpresent : extpresent = true := by
      rw [hextpresent]
      simpa using nothing
    have hcount := (extensionsCount_pos nothing).1
    rw [if_neg nothing, hpresent, hst, hcount]
    apply (aperNslength_conveys (by omega) few).bind
    intro _ bmlength hbmlength
    rw [hbmlength]
    apply (putPresence_conveys members _).bind
    intro _ epmd hepmd
    apply (behind epmd hepmd).finishing
    intro _ got same
    rw [skipOverflow_exhausted same.2, same.1]
    exact Conveys.pure rfl

theorem choice_conveys {ct : PerConstraint} {ext_start : Option Nat}
    {encodeAlternative : Bool → Nat → Value → Put Unit} {decodeAlternative : Bool → Nat → Get Value}
    {present : Nat} {member : Value} (generated : ChoiceConstraint ct)
    (extended : notInRoot ct present = true → extensionFits ct ext_start present = true)
    (each : ∀ asOpenType, notInRoot ct present = asOpenType →
      Conveys (encodeAlternative asOpenType present member) (decodeAlternative asOpenType present)
        fun _ got => got = member) :
    Conveys (choiceEncodeAper ct ext_start encodeAlternative present member)
      (choiceDecodeAper ct ext_start decodeAlternative)
      fun _ got => got = .choice (present + 1) member := by
  rcases generated with ⟨hbits, hfew, hupper⟩
  have hextended : (decide (ct.range_bits ≥ 0) && notInRoot ct present) = notInRoot ct present := by
    rw [decide_eq_true hbits, Bool.true_and]
  have hallowed : notInRoot ct present = true → ct.has APC_EXTENSIBLE = true := by
    intro outside
    exact (Bool.and_eq_true_iff.mp (extended outside)).1
  unfold choiceEncodeAper choiceDecodeAper
  simp only [hextended]
  apply (putInext_conveys hallowed).bind
  intro _ root hroot
  rw [hroot]
  cases outside : notInRoot ct present with
  | false =>
      have hinside : ct.lower_bound ≤ present ∧ present ≤ ct.upper_bound := by
        simpa [notInRoot] using outside
      have hfits : present < 2 ^ ct.range_bits.toNat := by
        zify
        omega
      rw [if_pos ⟨hbits, rfl⟩, if_pos ⟨rfl, hbits⟩]
      apply (asnPutFewBits_conveys present (by omega)).bind
      intro _ value hvalue
      rw [Nat.mod_eq_of_lt hfits] at hvalue
      rw [hvalue, if_neg (by omega)]
      exact (each false outside).mapping fun _ got same => by rw [same]
  | true =>
      have hfit := (Bool.and_eq_true_iff.mp (extended outside)).2
      cases ext_start with
      | none => cases hfit
      | some ext_start =>
          rcases of_decide_eq_true hfit with ⟨hstart, hnumber⟩
          have hwidth : 2 ^ numberWidth ct.range_bits.toNat ≤ 2 ^ 8 := by
            apply Nat.pow_le_pow_right (by decide)
            unfold numberWidth
            rw [if_pos (by omega)]
            exact (rangeWidth_spec (by omega)).2
          have hword : CInteger.toUnsigned 32 (present - ext_start) = present - ext_start := by
            have hrange := CInteger.toUnsigned_of_range (by omega : (0 : Int) ≤ present - ext_start)
              (by omega : (present : Int) - ext_start < 2 ^ 32)
            omega
          rw [if_neg (fun both => Bool.noConfusion both.2), if_neg (fun both => Bool.noConfusion both.1)]
          simp only [if_true, hword]
          apply (aperNsnnwn_conveys (by omega) hnumber).bind
          intro _ value hvalue
          rw [hvalue, Nat.sub_add_cancel hstart]
          exact (each true outside).mapping fun _ got same => by rw [same]

theorem fits_integer {ct : Option PerConstraint} {value : Value} (fit : fits (.integer ct) value = true) :
    ∃ native, value = .body (asnImax2INTEGER native) ∧ Allows ct native := by
  cases value with
  | body st =>
      rcases (Option.any_eq_true ..).mp fit with ⟨native, _, hnative⟩
      rcases of_decide_eq_true hnative with ⟨rfl, hallows⟩
      exact ⟨native, rfl, hallows⟩
  | _ => cases fit

theorem fits_nativeInteger {ct : Option PerConstraint} {value : Value}
    (fit : fits (.nativeInteger ct) value = true) : ∃ native, value = .integer native ∧ Allows ct native := by
  cases value with
  | integer native => exact ⟨native, rfl, of_decide_eq_true fit⟩
  | _ => cases fit

theorem fits_nativeEnumerated {ct : PerConstraint} {specs : Enumeration} {value : Value}
    (fit : fits (.nativeEnumerated ct specs) value = true) :
    ∃ native, value = .integer native ∧ Enumerates specs native := by
  cases value with
  | integer native => exact ⟨native, rfl, of_decide_eq_true fit⟩
  | _ => cases fit

theorem fits_octetString {subvariant : Subvariant} {size : Option PerConstraint} {value : Value}
    (fit : fits (.octetString subvariant size) value = true) :
    ∃ st, value = .string st ∧ Proper subvariant st ∧
      SizeKept (size.getD unconstrainedSize) (st.sizeinunits subvariant) := by
  cases value with
  | string st => exact ⟨st, rfl, of_decide_eq_true fit⟩
  | _ => cases fit

theorem fits_sequence {oms : List Nat} {first_extension : Option Nat} {elements : Elements}
    {value : Value} (fit : fits (.sequence oms first_extension elements) value = true) :
    ∃ members, value = .sequence members ∧ members.length = elements.count ∧
      fitsMembers first_extension 0 elements members = true := by
  cases value with
  | sequence members =>
      rcases Bool.and_eq_true_iff.mp fit with ⟨hlength, hmembers⟩
      exact ⟨members, rfl, of_decide_eq_true hlength, hmembers⟩
  | _ => cases fit

theorem fits_choice {ct : PerConstraint} {ext_start : Option Nat} {elements : Elements}
    {value : Value} (fit : fits (.choice ct ext_start elements) value = true) :
    ∃ present member, value = .choice (present + 1) member ∧
      (notInRoot ct present = true → extensionFits ct ext_start present = true) ∧
      fitsAlternative (notInRoot ct present) elements present member = true := by
  cases value with
  | choice number member =>
      cases number with
      | zero => cases fit
      | succ present =>
          refine ⟨present, member, rfl, ?_⟩
          rw [fits] at fit
          cases outside : notInRoot ct present with
          | true =>
              rw [outside, if_pos rfl] at fit
              rcases Bool.and_eq_true_iff.mp fit with ⟨hextension, hmember⟩
              exact ⟨fun _ => hextension, hmember⟩
          | false =>
              rw [outside, if_neg (by decide)] at fit
              exact ⟨fun impossible => Bool.noConfusion impossible, fit⟩
  | _ => cases fit

theorem fits_setOf {size : Option PerConstraint} {element : Descriptor} {value : Value}
    (fit : fits (.setOf size element) value = true) :
    ∃ array, value = .list array ∧ ListFits size array.length ∧
      ∀ item ∈ array, fits element item = true := by
  cases value with
  | list array =>
      rw [fits] at fit
      rcases Bool.and_eq_true_iff.mp fit with ⟨hlength, hitems⟩
      exact ⟨array, rfl, of_decide_eq_true hlength, List.all_eq_true.mp hitems⟩
  | _ => cases fit

theorem fitsOpen_openType {type : Descriptor} {value : Value} {presence_index : Nat}
    (fit : fitsOpen type value presence_index = true) :
    ∃ elements present member, type = .openType elements ∧ value = .choice (present + 1) member ∧
      presence_index = present + 1 ∧ fitsAlternative true elements present member = true := by
  cases type with
  | openType elements =>
      cases value with
      | choice number member =>
          cases number with
          | zero => cases fit
          | succ present =>
              rw [fitsOpen] at fit
              rcases Bool.and_eq_true_iff.mp fit with ⟨hpresence, hmember⟩
              exact ⟨elements, present, member, rfl, rfl, of_decide_eq_true hpresence, hmember⟩
      | _ => cases fit
  | _ => cases fit

theorem endsOpen_iff (encode : Put Unit) :
    endsOpen encode = true ↔ ∀ buf, aperEncodeToNewBuffer encode = .ok buf → Ends buf.length := by
  unfold endsOpen
  cases aperEncodeToNewBuffer encode with
  | error stop => simp
  | ok buf => simp

theorem wellFormed_integer {ct : Option PerConstraint} (generated : wellFormed (.integer ct) = true)
    (constraint : PerConstraint) (same : ct = some constraint) : IntegerConstraint constraint :=
  of_decide_eq_true ((Option.all_eq_true ..).mp generated constraint same)

theorem wellFormed_sequence {oms : List Nat} {first_extension : Option Nat} {elements : Elements}
    (generated : wellFormed (.sequence oms first_extension elements) = true) :
    oms = optionalRoot first_extension 0 elements ∧
      (extensions first_extension elements.count).length ≤ 64 ∧ wellFormedElements elements = true := by
  rw [wellFormed] at generated
  rcases Bool.and_eq_true_iff.mp generated with ⟨hboth, helements⟩
  rcases Bool.and_eq_true_iff.mp hboth with ⟨homs, hfew⟩
  exact ⟨of_decide_eq_true homs, of_decide_eq_true hfew, helements⟩

theorem wellFormed_setOf {size : Option PerConstraint} {element : Descriptor}
    (generated : wellFormed (.setOf size element) = true) :
    (∀ ct ∈ size, ListConstraint ct) ∧ wellFormed element = true := by
  rw [wellFormed] at generated
  rcases Bool.and_eq_true_iff.mp generated with ⟨hsize, helement⟩
  exact ⟨fun ct same => of_decide_eq_true ((Option.all_eq_true ..).mp hsize ct same), helement⟩

theorem extensions_eq (first_extension : Option Nat) (count : Nat) :
    extensions first_extension count = (List.range' 0 count).filter (inExtensionGroup first_extension) := by
  rw [extensions, List.range_eq_range']

section

variable {reader : LengthReader}

theorem member_conveys {type : Descriptor} {member : Value} {type_selector : Option TypeSelector}
    {edx : Nat} {members st : List (Option Value)}
    (fit : fitsMember (fits type member) (fitsOpen type member) type_selector edx members = true)
    (selects : ∀ selector : TypeSelector, selector.constraining < edx →
      selectType selector st = selectType selector members)
    (plain : type_selector.isSome = false → fits type member = true →
      Conveys (encodeAper type member) (decodeAper reader type) fun _ got => got = member)
    (opened : ∀ presence_index, type_selector.isSome = true →
      fitsOpen type member presence_index = true →
      Conveys (encodeAper type member) (decodeOpenType reader type presence_index)
        fun _ got => got = member) :
    Conveys (encodeAper type member)
      (getMember (decodeAper reader type) (decodeOpenType reader type) type_selector st)
      fun _ got => got = member := by
  cases type_selector with
  | none => exact plain rfl fit
  | some selector =>
      rcases Bool.and_eq_true_iff.mp fit with ⟨hbefore, hany⟩
      rcases (Option.any_eq_true ..).mp hany with ⟨presence_index, hselected, hfits⟩
      have hselects := (selects selector (of_decide_eq_true hbefore)).trans hselected
      simp only [getMember, hselects]
      exact opened presence_index rfl hfits

theorem wellFormedElements_cons {optional : Bool} {type_selector : Option TypeSelector}
    {type : Descriptor} {rest : Elements}
    (generated : wellFormedElements (.cons optional type_selector type rest) = true) :
    (type_selector.isSome = false → wellFormed type = true) ∧
      (type_selector.isSome = true → wellFormedOpen type = true) ∧ wellFormedElements rest = true := by
  rw [wellFormedElements] at generated
  rcases Bool.and_eq_true_iff.mp generated with ⟨htype, hrest⟩
  refine ⟨?_, ?_, hrest⟩
  · intro plain
    rwa [plain, if_neg (by decide)] at htype
  · intro selected
    rwa [selected, if_pos rfl] at htype

theorem fitsMembers_cons {first_extension : Option Nat} {edx : Nat} {optional : Bool}
    {type_selector : Option TypeSelector} {type : Descriptor} {rest : Elements}
    {members : List (Option Value)}
    (fit : fitsMembers first_extension edx (.cons optional type_selector type rest) members = true) :
    (memberAt members edx = none → inExtensionGroup first_extension edx = false → optional = true) ∧
      (∀ member, memberAt members edx = some member →
        (inExtensionGroup first_extension edx = true →
          fits type member = true ∧ endsOpen (encodeAper type member) = true) ∧
        (inExtensionGroup first_extension edx = false →
          fitsMember (fits type member) (fitsOpen type member) type_selector edx members = true)) ∧
      fitsMembers first_extension (edx + 1) rest members = true := by
  rw [fitsMembers] at fit
  rcases Bool.and_eq_true_iff.mp fit with ⟨hmember, hrest⟩
  refine ⟨?_, ?_, hrest⟩
  · intro absent root
    rw [absent, root] at hmember
    simpa using hmember
  · intro member present
    rw [present] at hmember
    refine ⟨?_, ?_⟩
    · intro extension
      simp only [extension, if_true] at hmember
      exact Bool.and_eq_true_iff.mp hmember
    · intro root
      simpa only [root, Bool.false_eq_true, if_false] using hmember

theorem optionalRoot_cons {first_extension : Option Nat} {edx : Nat} {optional : Bool}
    {type_selector : Option TypeSelector} {type : Descriptor} {rest : Elements} :
    optionalRoot first_extension edx (.cons optional type_selector type rest) =
      if inExtensionGroup first_extension edx = false ∧ optional = true then
        edx :: optionalRoot first_extension (edx + 1) rest
      else optionalRoot first_extension (edx + 1) rest := rfl

theorem wellFormed_of_fits {type_selector : Option TypeSelector} {type : Descriptor} {member : Value}
    (plain : type_selector.isSome = false → wellFormed type = true)
    (selected : type_selector.isSome = true → wellFormedOpen type = true)
    (fit : fits type member = true) : wellFormed type = true := by
  cases hselector : type_selector.isSome with
  | false => exact plain hselector
  | true =>
      have hopen := selected hselector
      cases type with
      | openType elements => cases fit
      | _ => cases hopen

mutual

/-- A value of a type is decoded as it was encoded, wherever it stands in a message. -/
theorem encodeAper_conveys : ∀ (type : Descriptor) (value : Value), wellFormed type = true →
    fits type value = true →
    Conveys (encodeAper type value) (decodeAper reader type) fun _ got => got = value
  | .integer ct, value, generated, fit => by
      rcases fits_integer fit with ⟨native, rfl, allows⟩
      exact (integerEncode_conveys (wellFormed_integer generated) allows).mapping fun _ got same => by
        rw [same]
  | .nativeInteger ct, value, generated, fit => by
      rcases fits_nativeInteger fit with ⟨native, rfl, allows⟩
      exact (integer_conveys (wellFormed_integer generated) allows).mapping fun _ got same => by
        rw [same]
  | .nativeEnumerated ct specs, value, generated, fit => by
      rcases fits_nativeEnumerated fit with ⟨native, rfl, listed⟩
      exact (enumerated_conveys (of_decide_eq_true generated) listed).mapping fun _ got same => by
        rw [same]
  | .octetString subvariant size, value, generated, fit => by
      rcases fits_octetString fit with ⟨st, rfl, proper, kept⟩
      exact (octetString_conveys (of_decide_eq_true generated) proper kept).mapping fun _ got same => by
        rw [same]
  | .sequence oms first_extension elements, value, generated, fit => by
      rcases fits_sequence fit with ⟨members, rfl, hlength, hmembers⟩
      rcases wellFormed_sequence generated with ⟨homs, hfew, helements⟩
      rw [encodeAper, decodeAper, Value.onSequence, ← hlength]
      rw [← hlength] at hfew
      apply sequence_conveys hfew
      · intro opmd left
        rw [homs] at left
        exact root_conveys first_extension elements 0 members opmd [] helements hmembers (by omega) left rfl
      · intro epmd left
        rw [extensions_eq, hlength] at left
        exact extensions_convey first_extension elements 0 members epmd helements hmembers (by omega) left
  | .choice ct ext_start elements, value, generated, fit => by
      rcases fits_choice fit with ⟨present, member, rfl, extended, hmember⟩
      rw [wellFormed] at generated
      rcases Bool.and_eq_true_iff.mp generated with ⟨hconstraint, helements⟩
      rw [encodeAper, decodeAper, Value.onChoice]
      apply choice_conveys (of_decide_eq_true hconstraint) extended
      intro asOpenType outside
      rw [outside] at hmember
      exact alternative_conveys elements asOpenType present member helements hmember
  | .setOf size element, value, generated, fit => by
      rcases fits_setOf fit with ⟨array, rfl, hlength, hitems⟩
      rcases wellFormed_setOf generated with ⟨hconstraint, helement⟩
      rw [encodeAper, decodeAper, Value.onList]
      apply list_conveys hconstraint hlength
      intro item among
      exact encodeAper_conveys element item helement (hitems item among)
  | .openType elements, value, generated, fit => by cases generated

theorem root_conveys (first_extension : Option Nat) : ∀ (elements : Elements) (edx : Nat)
    (members : List (Option Value)) (opmd : Bitmap) (st : List (Option Value)),
    wellFormedElements elements = true → fitsMembers first_extension edx elements members = true →
    edx + elements.count = members.length →
    opmd.val.left = (optionalRoot first_extension edx elements).map
      (fun edx => (memberAt members edx).isSome) →
    st = (known first_extension 0 members).take edx →
    Conveys (encodeRoot first_extension edx elements members)
      (decodeRoot reader first_extension edx elements opmd st)
      fun _ got => got = known first_extension 0 members
  | .nil, edx, members, opmd, st, generated, fit, length, left, before => by
      rw [encodeRoot, decodeRoot]
      apply Conveys.pure
      rw [before, List.take_of_length_le]
      rw [known_length, ← length]
      exact le_rfl
  | .cons optional type_selector type rest, edx, members, opmd, st, generated, fit, length, left,
      before => by
      rcases wellFormedElements_cons generated with ⟨hplain, hopened, hrest⟩
      rcases fitsMembers_cons fit with ⟨habsent, hpresent, hfit⟩
      rw [Elements.count] at length
      have hinside : edx < members.length := by omega
      have hlength : edx + 1 + rest.count = members.length := by omega
      rw [optionalRoot_cons] at left
      rw [encodeRoot, decodeRoot]
      cases hextension : inExtensionGroup first_extension edx with
      | true =>
          rw [if_neg fun both => by rw [hextension] at both; exact Bool.noConfusion both.1] at left
          rw [if_pos rfl, if_pos rfl]
          refine root_conveys first_extension rest (edx + 1) members opmd _ hrest hfit hlength left ?_
          rw [take_known hinside, hextension, before]
          rfl
      | false =>
          rw [if_neg Bool.false_ne_true, if_neg Bool.false_ne_true]
          cases hmember : memberAt members edx with
          | none =>
              have hoptional := habsent hmember hextension
              have hput : putMember optional (encodeAper type) none = pure () := if_pos hoptional
              rw [if_pos ⟨hextension, hoptional⟩, List.map_cons, hmember] at left
              rcases Bitmap.next_cons left with ⟨hnext, hleft⟩
              rw [hput, Action.pure_bind, if_pos ⟨hoptional, hnext⟩]
              refine root_conveys first_extension rest (edx + 1) members _ _ hrest hfit hlength hleft ?_
              rw [take_known hinside, hextension, hmember, before]
              rfl
          | some member =>
              have hmap : ¬(optional = true ∧ opmd.next.1 = some false) ∧
                  (if optional then opmd.next.2 else opmd).val.left =
                    (optionalRoot first_extension (edx + 1) rest).map
                      fun edx => (memberAt members edx).isSome := by
                cases optional with
                | true =>
                    rw [if_pos ⟨hextension, rfl⟩, List.map_cons, hmember] at left
                    rcases Bitmap.next_cons left with ⟨hnext, hleft⟩
                    refine ⟨?_, hleft⟩
                    rw [hnext]
                    exact fun both => by cases both.2
                | false =>
                    rw [if_neg fun both => Bool.noConfusion both.2] at left
                    exact ⟨fun both => Bool.noConfusion both.1, left⟩
              have hselects : ∀ selector : TypeSelector, selector.constraining < edx →
                  selectType selector st = selectType selector members := by
                intro selector earlier
                rw [before]
                exact selectType_take earlier hextension hinside
              have hconveys := member_conveys ((hpresent member hmember).2 hextension) hselects
                (fun plain fit => encodeAper_conveys type member (hplain plain) fit)
                (fun index selected fit => openType_conveys type member index (hopened selected) fit)
              rw [if_neg hmap.1]
              apply hconveys.bind
              intro _ got same
              refine root_conveys first_extension rest (edx + 1) members _ _ hrest hfit hlength hmap.2 ?_
              rw [take_known hinside, hextension, hmember, before, same]
              rfl

theorem extensions_convey (first_extension : Option Nat) : ∀ (elements : Elements) (edx : Nat)
    (members : List (Option Value)) (epmd : Bitmap),
    wellFormedElements elements = true → fitsMembers first_extension edx elements members = true →
    edx + elements.count = members.length →
    epmd.val.left = ((List.range' edx elements.count).filter (inExtensionGroup first_extension)).map
      (fun edx => (memberAt members edx).isSome) →
    Conveys (encodeExtensions first_extension edx elements members)
      (decodeExtensions reader first_extension edx elements epmd (known first_extension edx members))
      fun _ got => got.1 = members ∧ got.2.val.left = []
  | .nil, edx, members, epmd, generated, fit, length, left => by
      rw [encodeExtensions, decodeExtensions]
      apply Conveys.pure
      exact ⟨known_all (by rw [← length]; exact le_rfl), left⟩
  | .cons optional type_selector type rest, edx, members, epmd, generated, fit, length, left => by
      rcases wellFormedElements_cons generated with ⟨hplain, hopened, hrest⟩
      rcases fitsMembers_cons fit with ⟨_, hpresent, hfit⟩
      rw [Elements.count] at length left
      have hlength : edx + 1 + rest.count = members.length := by omega
      rw [List.range'_succ] at left
      rw [encodeExtensions, decodeExtensions]
      cases hextension : inExtensionGroup first_extension edx with
      | false =>
          rw [List.filter_cons_of_neg (by rw [hextension]; decide)] at left
          rw [if_pos rfl, if_pos rfl, known_root hextension]
          exact extensions_convey first_extension rest (edx + 1) members epmd hrest hfit hlength left
      | true =>
          rw [List.filter_cons_of_pos hextension, List.map_cons] at left
          rcases Bitmap.next_cons left with ⟨hnext, hleft⟩
          rw [if_neg Bool.noConfusion, if_neg Bool.noConfusion, hnext, if_neg (Option.some_ne_none _)]
          cases hmember : memberAt members edx with
          | none =>
              have hput : putMember true (fun member => aperOpenTypePut (encodeAper type member)) none =
                  pure () := rfl
              rw [Option.isSome_none, if_pos rfl, hput, Action.pure_bind, known_absent hmember]
              exact extensions_convey first_extension rest (edx + 1) members _ hrest hfit hlength hleft
          | some member =>
              rcases (hpresent member hmember).1 hextension with ⟨hfits, hends⟩
              have hgenerated := wellFormed_of_fits hplain hopened hfits
              have hvalue := encodeAper_conveys type member hgenerated hfits
              have hconveys := (aperOpenType_conveys_iff hvalue).mpr ((endsOpen_iff _).mp hends)
              rw [if_neg fun same => by cases same]
              apply hconveys.bind
              intro _ got same
              have hset : (known first_extension edx members).set edx (some got) =
                  known first_extension (edx + 1) members := by
                rw [same, ← hmember]
                exact known_set
              rw [hset]
              exact extensions_convey first_extension rest (edx + 1) members _ hrest hfit hlength hleft

theorem openType_conveys : ∀ (type : Descriptor) (member : Value) (presence_index : Nat),
    wellFormedOpen type = true → fitsOpen type member presence_index = true →
    Conveys (encodeAper type member) (decodeOpenType reader type presence_index) fun _ got => got = member
  | .openType elements, value, presence_index, generated, fit => by
      rcases fitsOpen_openType fit with ⟨_, present, member, same, rfl, rfl, hmember⟩
      cases same
      rw [encodeAper, decodeOpenType, Value.onChoice]
      exact (alternative_conveys elements true present member generated hmember).mapping
        fun _ got same => by rw [same]
  | .integer _, _, _, generated, _ => by cases generated
  | .nativeInteger _, _, _, generated, _ => by cases generated
  | .nativeEnumerated _ _, _, _, generated, _ => by cases generated
  | .octetString _ _, _, _, generated, _ => by cases generated
  | .sequence _ _ _, _, _, generated, _ => by cases generated
  | .choice _ _ _, _, _, generated, _ => by cases generated
  | .setOf _ _, _, _, generated, _ => by cases generated

theorem alternative_conveys : ∀ (elements : Elements) (asOpenType : Bool) (present : Nat)
    (member : Value), wellFormedElements elements = true →
    fitsAlternative asOpenType elements present member = true →
    Conveys (encodeAlternative asOpenType elements present member)
      (decodeAlternative reader asOpenType elements present) fun _ got => got = member
  | .nil, asOpenType, present, member, generated, fit => by cases fit
  | .cons optional type_selector type rest, asOpenType, 0, member, generated, fit => by
      rcases wellFormedElements_cons generated with ⟨hplain, hopened, _⟩
      rw [fitsAlternative] at fit
      rcases Bool.and_eq_true_iff.mp fit with ⟨hfit, hends⟩
      have hgenerated := wellFormed_of_fits hplain hopened hfit
      have hconveys := encodeAper_conveys type member hgenerated hfit
      rw [encodeAlternative, decodeAlternative]
      cases asOpenType with
      | false => exact hconveys
      | true => exact (aperOpenType_conveys_iff hconveys).mpr ((endsOpen_iff _).mp hends)
  | .cons optional type_selector type rest, asOpenType, present + 1, member, generated, fit => by
      rcases wellFormedElements_cons generated with ⟨_, _, hrest⟩
      rw [fitsAlternative] at fit
      exact alternative_conveys rest asOpenType present member hrest fit

end

def extended : Descriptor :=
  .sequence [1] (some 2) (.cons false none (.nativeInteger none)
    (.cons true none (.octetString .STR none) (.cons true none (.nativeInteger none) .nil)))

def extendedValue : Value :=
  .sequence [some (.integer 5), none, some (.integer (-300))]

/-- A value that is encoded into a buffer of its own is decoded from there, with all its octets and
none of those behind them. -/
theorem decoded_of_new_buffer {type : Descriptor} {value : Value} (generated : wellFormed type = true)
    (fit : fits type value = true) :
    ∃ buf, aperEncodeToNewBuffer (encodeAper type value) = .ok buf ∧
      ∀ rest, aperDecodeComplete (decodeAper reader type) (buf ++ rest) = .ok (value, buf.length) := by
  rcases aperDecodeComplete_of_new_buffer (encodeAper_conveys type value generated fit) with
    ⟨buf, hencode, hdecode⟩
  refine ⟨buf, hencode, fun rest => ?_⟩
  rcases hdecode rest with ⟨got, hgot, rfl⟩
  exact hgot

theorem decoded_of_new_buffer_extended :
    ∃ buf, aperEncodeToNewBuffer (encodeAper extended extendedValue) = .ok buf ∧
      ∀ rest, aperDecodeComplete (decodeAper .oranE2 extended) (buf ++ rest) =
        .ok (extendedValue, buf.length) :=
  decoded_of_new_buffer (by decide) (by decide)

/-- The same of a buffer that is given, where the value takes bits at all. -/
theorem decoded_of_buffer {type : Descriptor} {value : Value} {buffer_size encoded : Nat}
    {stored : List UInt8} (generated : wellFormed type = true) (fit : fits type value = true)
    (run : aperEncodeToBuffer (encodeAper type value) buffer_size = .ok (stored, encoded))
    (some : 0 < encoded) (rest : List UInt8) :
    aperDecodeComplete (decodeAper reader type) (stored ++ rest) = .ok (value, stored.length) := by
  unfold aperEncodeToBuffer at run
  cases hencode : aperEncode (encodeAper type value) (.some buffer_size) with
  | error stop =>
      rw [hencode] at run
      cases run
  | ok outcome =>
      rcases outcome with ⟨op_key, encoded'⟩
      rw [hencode] at run
      rcases Prod.mk.inj (Except.ok.inj run) with ⟨rfl, rfl⟩
      rcases aperDecodeComplete_of_encoded (encodeAper_conveys type value generated fit) hencode some
        rest with ⟨got, hgot, rfl⟩
      exact hgot

theorem decoded_of_buffer_extended :
    aperDecodeComplete (decodeAper .oranE2 extended) ([128, 1, 5, 1, 3, 2, 254, 212] ++ [7]) =
      .ok (extendedValue, 8) :=
  decoded_of_buffer (by decide) (by decide)
    (rfl : aperEncodeToBuffer (encodeAper extended extendedValue) 64 =
      .ok ([128, 1, 5, 1, 3, 2, 254, 212], 64)) (by decide) [7]

/-- Inside of another message a value comes back exactly where it takes no multiple of 16K. -/
theorem nested_conveys_iff {type : Descriptor} {value : Value} (generated : wellFormed type = true)
    (fit : fits type value = true) :
    Conveys (aperOpenTypePut (encodeAper type value)) (aperOpenTypeGet (decodeAper reader type))
        (fun _ got => got = value) ↔
      endsOpen (encodeAper type value) = true :=
  (aperOpenType_conveys_iff (encodeAper_conveys type value generated fit)).trans
    (endsOpen_iff _).symm

theorem nested_conveys_iff_extended :
    Conveys (aperOpenTypePut (encodeAper extended extendedValue))
        (aperOpenTypeGet (decodeAper .oranE2 extended)) (fun _ got => got = extendedValue) :=
  (nested_conveys_iff (by decide) (by decide)).mpr (by decide)

/-- Whatever type and value there are, neither coder touches an octet outside of the message, of
`tmpspace` or of the buffer. -/
theorem coding_stays_inside (type : Descriptor) :
    (∀ value left, aperEncode (encodeAper type value) left ≠ .error .outside) ∧
      (∀ value buffer_size stored encoded,
        aperEncodeToBuffer (encodeAper type value) buffer_size = .ok (stored, encoded) →
        stored.length ≤ buffer_size ∧ stored.length = (encoded + 7) / 8) ∧
      ∀ buffer, aperDecodeComplete (decodeAper reader type) buffer ≠ .error .outside ∧
        ∀ value consumed, aperDecodeComplete (decodeAper reader type) buffer = .ok (value, consumed) →
          0 < consumed ∧ consumed ≤ buffer.length :=
  ⟨fun value left => aperEncode_kept (encodeAper type value) left,
    fun _ _ _ _ run => aperEncodeToBuffer_kept run,
    fun buffer => aperDecodeComplete_kept (decodeAper reader type) buffer⟩

end

end NearRtRic.Asn1
