import Mathlib.Tactic
import NearRtRic.Asn1.Enumerated
import NearRtRic.Asn1.OctetString
import NearRtRic.Asn1.OpenType

/-! Type descriptors, and the coding of the values of a type in aligned PER that they direct. -/

namespace NearRtRic.Asn1

open PerConstraint Transmission

/-- `type_selector` of a member: which member the value of its open type depends on, and, for what
that one is in each row of the table, which element the type of the row is (`presence_index`). -/
structure TypeSelector where
  constraining : Nat
  rows : List (Int × Nat)
  deriving DecidableEq, Repr

mutual

/-- `asn_TYPE_descriptor_t`, with the constraints that hold where it stands. -/
inductive Descriptor
  | integer (value : Option PerConstraint)
  | nativeInteger (value : Option PerConstraint)
  | nativeEnumerated (value : PerConstraint) (specs : Enumeration)
  | octetString (subvariant : Subvariant) (size : Option PerConstraint)
  | sequence (oms : List Nat) (first_extension : Option Nat) (elements : Elements)
  | choice (value : PerConstraint) (ext_start : Option Nat) (elements : Elements)
  | setOf (size : Option PerConstraint) (element : Descriptor)
  | openType (elements : Elements)

inductive Elements
  | nil
  | cons (optional : Bool) (type_selector : Option TypeSelector) (type : Descriptor) (rest : Elements)

end

/-- The value of a type; a member that is not there is a null pointer. -/
inductive Value
  | body (st : List UInt8)
  | integer (native : Int)
  | string (st : BitString)
  | sequence (members : List (Option Value))
  | choice (present : Nat) (member : Value)
  | list (array : List Value)

def Elements.count : Elements → Nat
  | .nil => 0
  | .cons _ _ _ rest => rest.count + 1

def inExtensionGroup (first_extension : Option Nat) (edx : Nat) : Bool :=
  match first_extension with
  | none => false
  | some first_extension => first_extension ≤ edx

def memberAt (members : List (Option Value)) (edx : Nat) : Option Value :=
  members[edx]?.join

/-- The presence of optional members, or of extensions, in a message of its own. -/
abbrev Bitmap := { pd : AsnBitData // pd.Valid }

theorem getGroups_length {count : Nat} {pd pd' : AsnBitData} {groups : List UInt8}
    (run : (getGroups count).run pd = .ok (groups, pd')) : groups.length = 3 * count := by
  induction count generalizing pd pd' groups with
  | zero =>
      rcases Prod.mk.inj (Except.ok.inj run) with ⟨rfl, _⟩
      rfl
  | succ count ih =>
      rcases Action.run_bind_ok_iff.mp run with ⟨value, middle, _, hrest⟩
      rcases Action.run_bind_ok_iff.mp hrest with ⟨rest, last, hgroups, hpure⟩
      rcases Prod.mk.inj (Except.ok.inj hpure) with ⟨rfl, _⟩
      rw [List.length_append, Bits.bytesOf_length, ih hgroups]
      omega

theorem asnGetManyBits_length {nbits : Nat} {pd pd' : AsnBitData} {bytes : List UInt8}
    (run : (asnGetManyBits nbits).run pd = .ok (bytes, pd')) : bytes.length = (nbits + 7) / 8 := by
  rcases Action.run_bind_ok_iff.mp run with ⟨groups, middle, hgroups, hrest⟩
  have hlength := getGroups_length hgroups
  by_cases whole : nbits % 24 = 0
  · rw [if_pos whole] at hrest
    rcases Prod.mk.inj (Except.ok.inj hrest) with ⟨rfl, _⟩
    omega
  · rw [if_neg whole] at hrest
    rcases Action.run_bind_ok_iff.mp hrest with ⟨value, last, _, hpure⟩
    rcases Prod.mk.inj (Except.ok.inj hpure) with ⟨rfl, _⟩
    rw [List.length_append, Bits.bytesOf_length, hlength]
    omega

def getBitmap (count : Nat) : Get Bitmap where
  run pd :=
    match (asnGetManyBits count).run pd with
    | .error stop => .error stop
    | .ok (opres, pd') =>
        if h : count ≤ 8 * opres.length then .ok (⟨⟨opres, 0, count, 0⟩, Nat.zero_le _, h, rfl⟩, pd')
        else .error .outside
  keeps pd valid := by
    have kept := (asnGetManyBits count).keeps pd valid
    cases hread : (asnGetManyBits count).run pd with
    | error stop =>
        rw [hread] at kept
        exact kept
    | ok outcome =>
        have hlength := asnGetManyBits_length hread
        rw [hread] at kept
        simp only
        rw [dif_pos (by omega)]
        exact kept

def Bitmap.next (opmd : Bitmap) : Option Bool × Bitmap :=
  match h : (asnGetFewBits 1).run opmd.val with
  | .ok (present, pd) => (some (present != 0), ⟨pd, (Action.kept_of_ok opmd.property h).1⟩)
  | .error _ => (none, opmd)

def aperPutNslength (length : Nat) : Put Unit :=
  if length ≤ 64 then
    if length = 0 then Put.fail else asnPutFewBits (length - 1) 7
  else do
    let encoded ← aperPutLength (-1) length
    if encoded.val ≠ length then Put.fail else pure ()

def aperGetNslength : Get Nat := do
  let many ← asnGetFewBits 1
  if many = 0 then do
    let length ← asnGetFewBits 6
    pure (length + 1)
  else do
    let (length, again) ← aperGetLength (-1) (-1)
    if again then Get.fail else pure length

def putPresence (members : List (Option Value)) : List Nat → Put Unit
  | [] => pure ()
  | edx :: oms => do
      asnPutFewBits (memberAt members edx).isSome.toNat 1
      putPresence members oms

def extensions (first_extension : Option Nat) (elements_count : Nat) : List Nat :=
  (List.range elements_count).filter (inExtensionGroup first_extension)

def extensionsCount (first_extension : Option Nat) (elements_count : Nat)
    (members : List (Option Value)) : Nat :=
  if (extensions first_extension elements_count).any fun edx => (memberAt members edx).isSome then
    (extensions first_extension elements_count).length
  else 0

/-- The bit that tells whether extensions are present, where a type may have them. -/
def putExtpresent (first_extension : Option Nat) (extpresent : Bool) : Put Unit :=
  match first_extension with
  | none => pure ()
  | some _ => asnPutFewBits extpresent.toNat 1

def getExtpresent (first_extension : Option Nat) : Get Bool :=
  match first_extension with
  | none => pure false
  | some _ => do
      let extpresent ← asnGetFewBits 1
      pure (extpresent != 0)

/-- The first row of the table that fits the member the open type depends on. -/
def selectType (type_selector : TypeSelector) (st : List (Option Value)) : Option Nat :=
  match memberAt st type_selector.constraining with
  | some (.integer native) => type_selector.rows.lookup native
  | _ => none

def putMember (optional : Bool) (encode : Value → Put Unit) (member : Option Value) : Put Unit :=
  match member with
  | some member => encode member
  | none => if optional then pure () else Put.fail

def getMember (decode : Get Value) (decodeOpenType : Nat → Get Value)
    (type_selector : Option TypeSelector) (st : List (Option Value)) : Get Value :=
  match type_selector with
  | none => decode
  | some type_selector =>
      match selectType type_selector st with
      | none => Get.fail
      | some presence_index => decodeOpenType presence_index

/-- The first overflow extension that is present is skipped, and those behind it are not. -/
def skipOverflow : Nat → Bitmap → Get Unit
  | 0, _ => pure ()
  | rounds + 1, epmd =>
      match epmd.next with
      | (none, _) => pure ()
      | (some false, epmd) => skipOverflow rounds epmd
      | (some true, _) => aperOpenTypeSkip

def putItems (encode : Value → Put Unit) : List Value → Put Unit
  | [] => pure ()
  | item :: items => do
      encode item
      putItems encode items

def getItems (decode : Get Value) : Nat → Get (List Value)
  | 0 => pure []
  | count + 1 => do
      let item ← decode
      let items ← getItems decode count
      pure (item :: items)

def notInRoot (ct : PerConstraint) (count : Nat) : Bool :=
  count < ct.lower_bound || ct.upper_bound < count

/-- Whether a size outside of those that the constraint allows matters. -/
def outOfList (ct : PerConstraint) (count : Nat) : Bool :=
  notInRoot ct count && (ct.has APC_EXTENSIBLE || ct.effective_bits ≥ 0)

/-- `SEQUENCE_OF_encode_aper`: an extension has no constraint, and a list of no elements one
length of 0. -/
def sequenceOfEncodeAper (encode : Value → Put Unit) (size : Option PerConstraint)
    (array : List Value) : Put Unit :=
  match size with
  | none => putUnbounded
  | some ct => do
      putInext ct (outOfList ct array.length)
      if outOfList ct array.length = false ∧ ct.effective_bits ≥ 0 then do
        let _ ← aperPutLength (ct.upper_bound - ct.lower_bound + 1)
          (array.length - ct.lower_bound).toNat
        putItems encode array
      else putUnbounded
where
  putUnbounded : Put Unit :=
    if array.isEmpty then do
      let _ ← aperPutLength (-1) 0
      pure ()
    else putAll (putItems encode) array

/-- What `SET_OF_decode_aper` reads a length with, by the constraint that is left of the type's. -/
def getListLength (reader : LengthReader) (root : Option PerConstraint) : Get (Nat × Bool) :=
  match root with
  | none => reader.get (-1) (-1)
  | some ct => reader.get (ct.upper_bound - ct.lower_bound + 1) ct.effective_bits

def setOfDecodeAper (reader : LengthReader) (decode : Get Value) (size : Option PerConstraint) :
    Get Value := do
  let root ← getRoot size
  match root with
  | none => getUnbounded none
  | some ct =>
      if ct.effective_bits ≥ 0 then do
        let nelems ← aperGetNsnnwn (ct.upper_bound - ct.lower_bound + 1).toNat
        let array ← getItems decode (nelems + ct.lower_bound).toNat
        pure (.list array)
      else getUnbounded (some ct)
where
  getUnbounded (root : Option PerConstraint) : Get Value := do
    let array ← getAll (getListLength reader root) (getItems decode)
    pure (.list array)

def Value.onBody (value : Value) (put : List UInt8 → Put Unit) : Put Unit :=
  match value with
  | .body st => put st
  | _ => Put.fail

def Value.onInteger (value : Value) (put : Int → Put Unit) : Put Unit :=
  match value with
  | .integer native => put native
  | _ => Put.fail

def Value.onString (value : Value) (put : BitString → Put Unit) : Put Unit :=
  match value with
  | .string st => put st
  | _ => Put.fail

def Value.onSequence (value : Value) (put : List (Option Value) → Put Unit) : Put Unit :=
  match value with
  | .sequence members => put members
  | _ => Put.fail

def Value.onChoice (value : Value) (put : Nat → Value → Put Unit) : Put Unit :=
  match value with
  | .choice (present + 1) member => put present member
  | _ => Put.fail

def Value.onList (value : Value) (put : List Value → Put Unit) : Put Unit :=
  match value with
  | .list array => put array
  | _ => Put.fail

/-- `SEQUENCE_encode_aper`, of a type without defaults, with what puts its members. -/
def sequenceEncodeAper (oms : List Nat) (first_extension : Option Nat) (elements_count : Nat)
    (encodeRoot encodeExtensions : List (Option Value) → Put Unit) (members : List (Option Value)) :
    Put Unit := do
  let n_extensions := extensionsCount first_extension elements_count members
  putExtpresent first_extension (n_extensions != 0)
  putPresence members oms
  encodeRoot members
  if n_extensions = 0 then pure ()
  else do
    aperPutNslength n_extensions
    putPresence members (extensions first_extension elements_count)
    encodeExtensions members

def sequenceDecodeAper (oms : List Nat) (first_extension : Option Nat)
    (decodeRoot : Bitmap → Get (List (Option Value)))
    (decodeExtensions : Bitmap → List (Option Value) → Get (List (Option Value) × Bitmap)) :
    Get Value := do
  let extpresent ← getExtpresent first_extension
  let opmd ← getBitmap oms.length
  let st ← decodeRoot opmd
  if extpresent then do
    let bmlength ← aperGetNslength
    let epmd ← getBitmap bmlength
    let outcome ← decodeExtensions epmd st
    skipOverflow outcome.2.val.nbits outcome.2
    pure (.sequence outcome.1)
  else pure (.sequence st)

/-- `CHOICE_encode_aper`, of a type without canonical maps: the number of an extension is put with
the bits of the root for its range. -/
def choiceEncodeAper (ct : PerConstraint) (ext_start : Option Nat)
    (encodeAlternative : Bool → Nat → Value → Put Unit) (present : Nat) (member : Value) : Put Unit := do
  let extended := decide (ct.range_bits ≥ 0) && notInRoot ct present
  putInext ct extended
  if ct.range_bits ≥ 0 ∧ extended = false then do
    asnPutFewBits present ct.range_bits.toNat
    encodeAlternative false present member
  else
    match ext_start with
    | none => Put.fail
    | some ext_start => do
        if extended then
          aperPutNsnnwn ct.range_bits.toNat (CInteger.toUnsigned 32 (present - ext_start))
        else pure ()
        encodeAlternative true present member

/-- `CHOICE_decode_aper`, of a type whose constraint has a range. -/
def choiceDecodeAper (ct : PerConstraint) (ext_start : Option Nat)
    (decodeAlternative : Bool → Nat → Get Value) : Get Value := do
  let root ← getRoot (some ct)
  if root.isSome ∧ ct.range_bits ≥ 0 then do
    let value ← asnGetFewBits ct.range_bits.toNat
    if ct.upper_bound < value then Get.fail
    else do
      let member ← decodeAlternative false value
      pure (.choice (value + 1) member)
  else
    match ext_start with
    | none => Get.fail
    | some ext_start => do
        let value ← aperGetNsnnwn ct.range_bits.toNat
        let member ← decodeAlternative true (value + ext_start)
        pure (.choice (value + ext_start + 1) member)

mutual

def encodeAper : Descriptor → Value → Put Unit
  | .integer ct, value => value.onBody (integerEncodeAper ct)
  | .nativeInteger ct, value => value.onInteger (nativeIntegerEncodeAper ct)
  | .nativeEnumerated ct specs, value => value.onInteger (nativeEnumeratedEncodeAper ct specs)
  | .octetString subvariant size, value => value.onString (octetStringEncodeAper subvariant size)
  | .sequence oms first_extension elements, value =>
      value.onSequence (sequenceEncodeAper oms first_extension elements.count
        (encodeRoot first_extension 0 elements) (encodeExtensions first_extension 0 elements))
  | .choice ct ext_start elements, value =>
      value.onChoice (choiceEncodeAper ct ext_start fun asOpenType => encodeAlternative asOpenType elements)
  | .setOf size element, value => value.onList (sequenceOfEncodeAper (encodeAper element) size)
  | .openType elements, value => value.onChoice (encodeAlternative true elements)

def encodeRoot (first_extension : Option Nat) : Nat → Elements → List (Option Value) → Put Unit
  | _, .nil, _ => pure ()
  | edx, .cons optional _ type rest, members =>
      if inExtensionGroup first_extension edx then encodeRoot first_extension (edx + 1) rest members
      else do
        putMember optional (encodeAper type) (memberAt members edx)
        encodeRoot first_extension (edx + 1) rest members

/-- `SEQUENCE_handle_extensions_aper` for `po2`: the extensions that are present. -/
def encodeExtensions (first_extension : Option Nat) : Nat → Elements → List (Option Value) → Put Unit
  | _, .nil, _ => pure ()
  | edx, .cons _ _ type rest, members =>
      if inExtensionGroup first_extension edx = false then
        encodeExtensions first_extension (edx + 1) rest members
      else do
        putMember true (fun member => aperOpenTypePut (encodeAper type member)) (memberAt members edx)
        encodeExtensions first_extension (edx + 1) rest members

/-- One of the elements, in place or as an open type. -/
def encodeAlternative (asOpenType : Bool) : Elements → Nat → Value → Put Unit
  | .nil, _, _ => Put.fail
  | .cons _ _ type _, 0, member =>
      if asOpenType then aperOpenTypePut (encodeAper type member) else encodeAper type member
  | .cons _ _ _ rest, present + 1, member => encodeAlternative asOpenType rest present member

end

section

variable (reader : LengthReader)

mutual

/-- `td->op->aper_decoder`, which an open type has not: it is decoded with the member that it is. -/
def decodeAper : Descriptor → Get Value
  | .integer ct => do
      let st ← integerDecodeAper ct
      pure (.body st)
  | .nativeInteger ct => do
      let native ← nativeIntegerDecodeAper ct
      pure (.integer native)
  | .nativeEnumerated ct specs => do
      let native ← nativeEnumeratedDecodeAper ct specs
      pure (.integer native)
  | .octetString subvariant size => do
      let st ← octetStringDecodeAper reader subvariant size
      pure (.string st)
  | .sequence oms first_extension elements =>
      sequenceDecodeAper oms first_extension
        (fun opmd => decodeRoot first_extension 0 elements opmd [])
        (decodeExtensions first_extension 0 elements)
  | .choice ct ext_start elements =>
      choiceDecodeAper ct ext_start fun asOpenType => decodeAlternative asOpenType elements
  | .setOf size element => setOfDecodeAper reader (decodeAper element) size
  | .openType _ => Get.fail

def decodeRoot (first_extension : Option Nat) :
    Nat → Elements → Bitmap → List (Option Value) → Get (List (Option Value))
  | _, .nil, _, st => pure st
  | edx, .cons optional type_selector type rest, opmd, st =>
      if inExtensionGroup first_extension edx then
        decodeRoot first_extension (edx + 1) rest opmd (st ++ [none])
      else if optional ∧ opmd.next.1 = some false then
        decodeRoot first_extension (edx + 1) rest opmd.next.2 (st ++ [none])
      else do
        let member ← getMember (decodeAper type) (decodeOpenType type) type_selector st
        decodeRoot first_extension (edx + 1) rest (if optional then opmd.next.2 else opmd)
          (st ++ [some member])

def decodeExtensions (first_extension : Option Nat) :
    Nat → Elements → Bitmap → List (Option Value) → Get (List (Option Value) × Bitmap)
  | _, .nil, epmd, st => pure (st, epmd)
  | edx, .cons _ _ type rest, epmd, st =>
      if inExtensionGroup first_extension edx = false then
        decodeExtensions first_extension (edx + 1) rest epmd st
      else if epmd.next.1 = none then pure (st, epmd)
      else if epmd.next.1 = some false then
        decodeExtensions first_extension (edx + 1) rest epmd.next.2 st
      else do
        let member ← aperOpenTypeGet (decodeAper type)
        decodeExtensions first_extension (edx + 1) rest epmd.next.2 (st.set edx (some member))

/-- `OPEN_TYPE_aper_get`, for what was selected. -/
def decodeOpenType : Descriptor → Nat → Get Value
  | .openType elements, present + 1 => do
      let member ← decodeAlternative true elements present
      pure (.choice (present + 1) member)
  | _, _ => Get.fail

def decodeAlternative (asOpenType : Bool) : Elements → Nat → Get Value
  | .nil, _ => Get.fail
  | .cons _ _ type _, 0 =>
      if asOpenType then aperOpenTypeGet (decodeAper type) else decodeAper type
  | .cons _ _ _ rest, present + 1 => decodeAlternative asOpenType rest present

end

end

end NearRtRic.Asn1
