import Mathlib.Tactic
import NearRtRic.Asn1.Integer

/-! Octet, bit and character strings in aligned PER. -/

namespace NearRtRic.Asn1

open Bits PerConstraint Transmission

/-- The subvariants whose characters are octets, and the one whose units are bits. -/
inductive Subvariant
  | STR
  | BIT
  deriving DecidableEq, Repr

namespace Subvariant

def unit_bits : Subvariant → Nat
  | STR => 8
  | BIT => 1

end Subvariant

/-- `OCTET_STRING_t` and `BIT_STRING_t`, which is that and the bits of the last octet that do not
count. -/
structure BitString where
  buf : List UInt8
  bits_unused : Nat
  deriving DecidableEq, Repr

namespace BitString

def sizeinunits (st : BitString) : Subvariant → Nat
  | .STR => st.buf.length
  | .BIT => st.buf.length * 8 - st.bits_unused % 8

theorem sizeinunits_le (st : BitString) (subvariant : Subvariant) :
    st.sizeinunits subvariant * subvariant.unit_bits ≤ 8 * st.buf.length := by
  cases subvariant with
  | STR => exact (Nat.mul_comm _ _).le
  | BIT =>
      simp only [sizeinunits, Subvariant.unit_bits]
      omega

end BitString

/-- The size of `asn_DEF_OCTET_STRING_constraints`. -/
def unconstrainedSize : PerConstraint where
  flags := APC_SEMI_CONSTRAINED
  range_bits := -1
  effective_bits := -1
  lower_bound := 0
  upper_bound := 0

/-- `while(sizeinunits)`: pieces of the units that are left. -/
def putUnits (unit_bits : Nat) : Nat → (buf : List UInt8) → (sizeinunits : Nat) →
    sizeinunits * unit_bits ≤ 8 * buf.length → Put Unit
  | 0, _, _, _ => pure ()
  | rounds + 1, buf, sizeinunits, inside =>
      if sizeinunits = 0 then pure ()
      else do
        let maySave ← aperPutLength (-1) sizeinunits
        asnPutManyBits buf (maySave * unit_bits)
          ((Nat.mul_le_mul_right _ maySave.property).trans inside)
        putUnits unit_bits rounds (buf.drop (maySave * unit_bits / 8)) (sizeinunits - maySave) (by
          have hle := Nat.mul_le_mul_right unit_bits maySave.property
          rw [List.length_drop, Nat.sub_mul]
          omega)

def putCount (csiz : PerConstraint) (sizeinunits : Nat) : Put Unit :=
  if csiz.effective_bits > 0 then do
    let ret ← aperPutLength (csiz.upper_bound - csiz.lower_bound + 1)
      (sizeinunits - csiz.lower_bound).toNat
    if ret.val ≠ 0 then Put.fail else pure ()
  else pure ()

def putSized (subvariant : Subvariant) (csiz : PerConstraint) (st : BitString) : Put Unit := do
  putCount csiz (st.sizeinunits subvariant)
  alignment
  asnPutManyBits st.buf (st.sizeinunits subvariant * subvariant.unit_bits)
    (st.sizeinunits_le subvariant)
where
  alignment : Put Unit :=
    if 2 < st.buf.length ∨ csiz.lower_bound ≠ csiz.upper_bound then aperPutAlign else pure ()

def putUnsized (subvariant : Subvariant) (st : BitString) : Put Unit :=
  if st.sizeinunits subvariant = 0 then do
    let _ ← aperPutLength (-1) 0
    pure ()
  else
    putUnits subvariant.unit_bits (st.sizeinunits subvariant) st.buf (st.sizeinunits subvariant)
      (st.sizeinunits_le subvariant)

/-- `inext`: the number of units does not lie within the bounds. -/
def outOfSize (csiz : PerConstraint) (sizeinunits : Nat) : Bool :=
  csiz.effective_bits ≥ 0 ∧ (sizeinunits < csiz.lower_bound ∨ csiz.upper_bound < sizeinunits)

def putString (subvariant : Subvariant) (csiz : PerConstraint) (st : BitString) : Put Unit := do
  putInext csiz (outOfSize csiz (st.sizeinunits subvariant))
  if csiz.effective_bits ≥ 0 ∧ outOfSize csiz (st.sizeinunits subvariant) = false then
    putSized subvariant csiz st
  else putUnsized subvariant st

def octetStringEncodeAper (subvariant : Subvariant) (size : Option PerConstraint) (st : BitString) :
    Put Unit :=
  putString subvariant (size.getD unconstrainedSize) st

def getUnits (unit_bits count : Nat) : Get BitString := do
  let buf ← asnGetManyBits (count * unit_bits)
  pure ⟨buf, (8 - count * unit_bits % 8) % 8⟩

/-- Before more than two octets of a fixed size, or more than two units of another. -/
def getAlignment (long : Bool) : Get Unit :=
  if long then do
    let _ ← aperGetAlign
    pure ()
  else pure ()

def fixedBytes (subvariant : Subvariant) (upper_bound : Int) : Int :=
  match subvariant with
  | .STR => upper_bound
  | .BIT => (upper_bound + 7) / 8

/-- `repeat` is cleared before it is looked at, so one piece is read. -/
def getString (reader : LengthReader) (subvariant : Subvariant) (csiz : PerConstraint) :
    Get BitString :=
  if csiz.effective_bits = 0 then do
    getAlignment (2 < fixedBytes subvariant csiz.upper_bound)
    getUnits subvariant.unit_bits csiz.upper_bound.toNat
  else do
    let raw_len ← reader.get
      (if csiz.upper_bound - csiz.lower_bound = 0 then -1
        else csiz.upper_bound - csiz.lower_bound + 1) csiz.effective_bits
    getAlignment (2 < (raw_len.1 : Int) + csiz.lower_bound)
    getUnits subvariant.unit_bits (raw_len.1 + csiz.lower_bound).toNat

def octetStringDecodeAper (reader : LengthReader) (subvariant : Subvariant)
    (size : Option PerConstraint) : Get BitString := do
  let root ← getRoot (some (size.getD unconstrainedSize))
  getString reader subvariant (root.getD unconstrainedSize)

/-- The bits that do not count are zero, and as few as the number of units leaves. -/
def Proper (subvariant : Subvariant) (st : BitString) : Prop :=
  let count := st.sizeinunits subvariant * subvariant.unit_bits
  octets st.buf = (octets st.buf).take count ++ padding count ∧ st.bits_unused = (8 - count % 8) % 8

instance (subvariant : Subvariant) (st : BitString) : Decidable (Proper subvariant st) :=
  inferInstanceAs (Decidable (_ ∧ _))

/-- The size constraints that can be generated: none, a fixed size, or bounds of up to 64K. -/
def SizeConstraint (csiz : PerConstraint) : Prop :=
  csiz = { unconstrainedSize with flags := csiz.flags } ∧ csiz.has APC_EXTENSIBLE = false ∨
    0 ≤ csiz.lower_bound ∧
      (csiz.effective_bits = 0 ∧ csiz.lower_bound = csiz.upper_bound ∨
        0 < csiz.effective_bits ∧ csiz.lower_bound < csiz.upper_bound ∧
          csiz.upper_bound - csiz.lower_bound < 65536)

instance (csiz : PerConstraint) : Decidable (SizeConstraint csiz) :=
  inferInstanceAs (Decidable (_ ∨ _))

def InRoot (csiz : PerConstraint) (count : Nat) : Prop :=
  0 ≤ csiz.effective_bits ∧ csiz.lower_bound ≤ count ∧ count ≤ csiz.upper_bound

instance (csiz : PerConstraint) (count : Nat) : Decidable (InRoot csiz count) :=
  inferInstanceAs (Decidable (_ ∧ _))

/-- The sizes that come back: within bounds, more than two units unless the length ends at an
octet; elsewhere less than 16K. -/
def SizeKept (csiz : PerConstraint) (count : Nat) : Prop :=
  (InRoot csiz count →
      csiz.effective_bits = 0 ∨ 2 < count ∨ 255 ≤ csiz.upper_bound - csiz.lower_bound) ∧
    (¬InRoot csiz count →
      count < 16384 ∧ (csiz.effective_bits < 0 ∨ csiz.has APC_EXTENSIBLE = true))

instance (csiz : PerConstraint) (count : Nat) : Decidable (SizeKept csiz count) :=
  inferInstanceAs (Decidable (_ ∧ _))

theorem units_convey {subvariant : Subvariant} {st : BitString} (proper : Proper subvariant st) :
    Conveys (asnPutManyBits st.buf (st.sizeinunits subvariant * subvariant.unit_bits)
        (st.sizeinunits_le subvariant))
      (getUnits subvariant.unit_bits (st.sizeinunits subvariant)) fun _ got => got = st := by
  have hinside := st.sizeinunits_le subvariant
  have hlength : ((octets st.buf).take (st.sizeinunits subvariant * subvariant.unit_bits)).length =
      st.sizeinunits subvariant * subvariant.unit_bits := by
    rw [List.length_take, octets_length, Nat.min_eq_left hinside]
  have hpadded : octets st.buf = (octets st.buf).take
      (st.sizeinunits subvariant * subvariant.unit_bits) ++ padding ((octets st.buf).take
        (st.sizeinunits subvariant * subvariant.unit_bits)).length := by
    rw [hlength]
    exact proper.1
  have hreads := asnGetManyBits_reads hpadded
  rw [hlength] at hreads
  apply ((asnPutManyBits_writes _ _ hinside).conveys hreads).mapping
  intro _ got same
  rw [same, ← proper.2]

theorem getAlignment_conveys (long : Bool) :
    Conveys (if long then aperPutAlign else pure ()) (getAlignment long) fun _ _ => True := by
  unfold getAlignment
  cases long with
  | true => exact aperAlign_conveys.mapping fun _ _ _ => trivial
  | false => exact Conveys.pure trivial

/-- Behind a writer that ends at an octet the reader may align, or not. -/
theorem aligned_conveys {Sent Got Value : Type} {put : Put Sent} {get : Get Got}
    {next : Sent → Put Unit} {rest : Got → Get Value} {long : Got → Bool}
    {Middle : Sent → Got → Prop} {Post : Unit → Value → Prop} (aligned : EndsAligned put)
    (always : Bool) (first : Conveys put get Middle) (hlong : ∀ sent got, Middle sent got → long got = always)
    (second : ∀ sent got, Middle sent got → Conveys (next sent) (rest got) Post) :
    Conveys (put >>= next) (get >>= fun got => getAlignment (long got) >>= fun _ => rest got)
      Post := by
  have hconveys : Conveys
      (put >>= fun sent => (if always then aperPutAlign else pure ()) >>= fun _ => next sent)
      (get >>= fun got => getAlignment (long got) >>= fun _ => rest got) Post := by
    apply first.bind
    intro sent got middle
    rw [hlong sent got middle]
    exact (getAlignment_conveys always).bind fun _ _ _ => second sent got middle
  apply hconveys.congr
  intro before valid
  cases always with
  | true => exact (run_align aligned valid).symm
  | false => rfl

theorem putUnits_none {unit_bits : Nat} (rounds : Nat) {buf : List UInt8} {count : Nat}
    {inside : count * unit_bits ≤ 8 * buf.length} (none : count = 0) :
    putUnits unit_bits rounds buf count inside = pure () := by
  cases rounds with
  | zero => rfl
  | succ rounds => exact if_pos none

theorem putUnits_some {unit_bits total rounds : Nat} {buf : List UInt8} {count : Nat}
    (inside : count * unit_bits ≤ 8 * buf.length) (more : total = rounds + 1) (left : count ≠ 0) :
    ∃ rest : ∀ maySave : { amount : Nat // amount ≤ count },
        (count - maySave) * unit_bits ≤ 8 * (buf.drop (maySave * unit_bits / 8)).length,
      putUnits unit_bits total buf count inside =
      aperPutLength (-1) count >>= fun maySave =>
        asnPutManyBits buf (maySave * unit_bits)
          ((Nat.mul_le_mul_right _ maySave.property).trans inside) >>= fun _ =>
        putUnits unit_bits rounds (buf.drop (maySave * unit_bits / 8)) (count - maySave)
          (rest maySave) := by
  subst more
  exact ⟨_, if_neg left⟩

theorem getUnits_none (unit_bits : Nat) : getUnits unit_bits 0 = pure ⟨[], 0⟩ := by
  rw [getUnits, Nat.zero_mul]
  rfl

theorem eq_of_none {subvariant : Subvariant} {st : BitString} (proper : Proper subvariant st)
    (none : st.sizeinunits subvariant = 0) : st = ⟨[], 0⟩ := by
  rcases st with ⟨buf, bits_unused⟩
  rcases proper with ⟨hbits, hunused⟩
  rw [none, Nat.zero_mul] at hbits hunused
  have hbuf : buf = [] := octets_inj hbits
  rw [hbuf]
  exact congrArg (BitString.mk []) hunused

theorem unsized_conveys {subvariant : Subvariant} {st : BitString} (proper : Proper subvariant st)
    (short : st.sizeinunits subvariant < 16384) :
    Conveys (putUnsized subvariant st)
      (aperGetLength (-1) (-1) >>= fun got =>
        getAlignment (decide (2 < (got.1 : Int) + 0)) >>= fun _ =>
          getUnits subvariant.unit_bits ((got.1 : Int) + 0).toNat)
      fun _ got => got = st := by
  have hamount : mayEncode (st.sizeinunits subvariant) = st.sizeinunits subvariant := if_pos short
  unfold putUnsized
  by_cases none : st.sizeinunits subvariant = 0
  · rw [if_pos none]
    apply aligned_conveys (aperPutLength_aligned 0) false (aperLength_conveys 0)
    · intro sent got same
      rw [same.2]
      rfl
    · intro sent got same
      rw [same.2, eq_of_none proper none]
      have hnone : getUnits subvariant.unit_bits (((mayEncode 0 : Nat) : Int) + 0).toNat =
          pure ⟨[], 0⟩ := getUnits_none _
      rw [hnone]
      exact Conveys.pure rfl
  · rw [if_neg none]
    rcases Nat.exists_eq_succ_of_ne_zero none with ⟨rounds, hrounds⟩
    rcases putUnits_some (st.sizeinunits_le subvariant) hrounds none with ⟨left, hput⟩
    rw [hput]
    apply aligned_conveys (aperPutLength_aligned _) (decide (2 < (st.sizeinunits subvariant : Int) + 0))
      (aperLength_conveys _)
    · intro sent got same
      rw [same.2, hamount]
    · intro sent got same
      rcases sent with ⟨amount, hle⟩
      rcases same with ⟨hsent, rfl⟩
      have hall : amount = st.sizeinunits subvariant := hsent.trans hamount
      subst hall
      have hcount : (((mayEncode (st.sizeinunits subvariant) : Nat) : Int) + 0).toNat =
          st.sizeinunits subvariant := by
        rw [hamount, add_zero, Int.toNat_natCast]
      rw [hcount]
      rw [← Action.bind_pure (getUnits _ _)]
      apply (units_convey proper).bind
      intro _ got same
      rw [putUnits_none rounds (Nat.sub_self _)]
      exact Conveys.pure same

theorem putCount_conveys {csiz : PerConstraint} {sizeinunits : Nat}
    (positive : 0 < csiz.effective_bits) (small : csiz.upper_bound - csiz.lower_bound < 65536)
    (root : InRoot csiz sizeinunits) :
    Conveys (putCount csiz sizeinunits)
      (aperGetLength (csiz.upper_bound - csiz.lower_bound + 1) csiz.effective_bits)
      fun _ got => (got.1 : Int) + csiz.lower_bound = sizeinunits := by
  rcases root with ⟨_, hlower, hupper⟩
  have hfits : (sizeinunits - csiz.lower_bound).toNat <
      2 ^ numberWidth (csiz.upper_bound - csiz.lower_bound + 1).toNat :=
    lt_numberWidth (by omega) (by omega)
  unfold putCount
  rw [if_pos positive, ← Action.bind_pure (aperGetLength _ _)]
  apply (aperLength_conveys_of_range positive.le (by omega) (by omega) hfits).bind
  intro sent got same
  rw [if_neg (not_not.mpr same.1), same.2]
  exact Conveys.pure (by omega)

theorem putCount_aligned {csiz : PerConstraint} (sizeinunits : Nat)
    (positive : 0 < csiz.effective_bits) (large : 255 ≤ csiz.upper_bound - csiz.lower_bound)
    (small : csiz.upper_bound - csiz.lower_bound < 65536) :
    EndsAligned (putCount csiz sizeinunits) := by
  intro before sent after valid run
  unfold putCount aperPutLength at run
  rw [if_pos positive, if_pos ⟨by omega, by omega⟩] at run
  rcases Action.run_bind_ok_iff.mp run with ⟨ret, middle, hlength, hpure⟩
  rcases Action.run_bind_ok_iff.mp hlength with ⟨_, last, hnumber, hret⟩
  rcases Prod.mk.inj (Except.ok.inj hret) with ⟨rfl, rfl⟩
  rcases Prod.mk.inj (Except.ok.inj hpure) with ⟨_, rfl⟩
  exact aperPutNsnnwn_aligned (by omega) (by omega) before () _ valid hnumber

/-- Within the bounds of a size constraint a string comes back, where it is long enough or its
length ends at an octet. -/
theorem sized_conveys {subvariant : Subvariant} {csiz : PerConstraint} {st : BitString}
    (proper : Proper subvariant st) (positive : 0 < csiz.effective_bits)
    (bounds : csiz.lower_bound < csiz.upper_bound)
    (small : csiz.upper_bound - csiz.lower_bound < 65536)
    (root : InRoot csiz (st.sizeinunits subvariant))
    (long : 2 < st.sizeinunits subvariant ∨ 255 ≤ csiz.upper_bound - csiz.lower_bound) :
    Conveys (putSized subvariant csiz st)
      (aperGetLength (csiz.upper_bound - csiz.lower_bound + 1) csiz.effective_bits >>= fun got =>
        getAlignment (decide (2 < (got.1 : Int) + csiz.lower_bound)) >>= fun _ =>
          getUnits subvariant.unit_bits ((got.1 : Int) + csiz.lower_bound).toNat)
      fun _ got => got = st := by
  have hcount := putCount_conveys positive small root
  have halign : putSized.alignment csiz st = aperPutAlign := if_pos (.inr bounds.ne)
  have hunits : ∀ got : Nat × Bool, (got.1 : Int) + csiz.lower_bound = st.sizeinunits subvariant →
      Conveys (asnPutManyBits st.buf (st.sizeinunits subvariant * subvariant.unit_bits)
          (st.sizeinunits_le subvariant))
        (getUnits subvariant.unit_bits ((got.1 : Int) + csiz.lower_bound).toNat)
        fun _ got => got = st := by
    intro got same
    rw [same, Int.toNat_natCast]
    exact units_convey proper
  unfold putSized
  rw [halign]
  by_cases many : 2 < st.sizeinunits subvariant
  · apply hcount.bind
    intro _ got same
    have hlong : decide (2 < (got.1 : Int) + csiz.lower_bound) = true := decide_eq_true (by omega)
    rw [hlong]
    exact (getAlignment_conveys true).bind fun _ _ _ => hunits got same
  · -- the writer aligns and the reader does not, behind a length that ends at an octet
    have haligned := putCount_aligned (st.sizeinunits subvariant) positive (by omega) small
    have hshort : ∀ (_ : Unit) (got : Nat × Bool),
        (got.1 : Int) + csiz.lower_bound = st.sizeinunits subvariant →
          decide (2 < (got.1 : Int) + csiz.lower_bound) = false := by
      intro _ got same
      exact decide_eq_false (by omega)
    apply (aligned_conveys haligned false hcount hshort fun _ got same => hunits got same).congr
    intro before valid
    exact run_align haligned valid

theorem fixed_conveys {reader : LengthReader} {subvariant : Subvariant} {csiz : PerConstraint}
    {st : BitString} (proper : Proper subvariant st) (fixed : csiz.effective_bits = 0)
    (bounds : csiz.lower_bound = csiz.upper_bound)
    (root : InRoot csiz (st.sizeinunits subvariant)) :
    Conveys (putSized subvariant csiz st) (getString reader subvariant csiz) fun _ got => got = st := by
  have hupper : csiz.upper_bound = st.sizeinunits subvariant := by
    rcases root with ⟨_, hlower, hupper⟩
    omega
  have halign : putSized.alignment csiz st =
      if decide (2 < fixedBytes subvariant csiz.upper_bound) then aperPutAlign else pure () := by
    have hbytes : 2 < st.buf.length ↔ 2 < fixedBytes subvariant csiz.upper_bound := by
      have hunused := proper.2
      rw [hupper]
      cases subvariant with
      | STR =>
          simp only [fixedBytes, BitString.sizeinunits]
          omega
      | BIT =>
          simp only [fixedBytes, BitString.sizeinunits, Subvariant.unit_bits] at hunused ⊢
          omega
    unfold putSized.alignment
    simp only [hbytes, bounds, ne_eq, not_true_eq_false, or_false, decide_eq_true_eq]
  have hcount : putCount csiz (st.sizeinunits subvariant) = pure () := if_neg (by omega)
  unfold putSized getString
  rw [hcount, halign, if_pos fixed, Action.pure_bind]
  apply (getAlignment_conveys _).bind
  intro _ _ _
  rw [hupper, Int.toNat_natCast]
  exact units_convey proper

/-- The strings that come back as they are, behind any constraint that can be generated. -/
theorem string_conveys {reader : LengthReader} {subvariant : Subvariant} {csiz : PerConstraint}
    {st : BitString} (generated : SizeConstraint csiz) (proper : Proper subvariant st)
    (kept : SizeKept csiz (st.sizeinunits subvariant)) :
    Conveys (putString subvariant csiz st)
      (getRoot (some csiz) >>= fun root => getString reader subvariant (root.getD unconstrainedSize))
      fun _ got => got = st := by
  unfold putString
  by_cases root : InRoot csiz (st.sizeinunits subvariant)
  · -- within bounds the flag bit is clear, and the constraint decides
    have hinext : outOfSize csiz (st.sizeinunits subvariant) = false := by
      rcases root with ⟨_, hlower, hupper⟩
      exact decide_eq_false (by omega)
    rw [hinext, if_pos ⟨root.1, rfl⟩]
    apply (putInext_conveys (fun set => Bool.noConfusion set)).bind
    intro _ got same
    rw [same]
    rcases generated with ⟨hnone, _⟩ | ⟨_, ⟨fixed, bounds⟩ | ⟨positive, bounds, small⟩⟩
    · have hbits : csiz.effective_bits = -1 := congrArg effective_bits hnone
      exact absurd root.1 (by omega)
    · exact fixed_conveys proper fixed bounds root
    · have hlong := (kept.1 root).resolve_left positive.ne'
      have hconveys := sized_conveys proper positive bounds small root (by omega)
      have hrange : ¬csiz.upper_bound - csiz.lower_bound = 0 := by omega
      change Conveys _ (getString reader subvariant csiz) _
      unfold getString
      rw [if_neg positive.ne', if_neg hrange, reader.agrees _ _ (.inl positive.le)]
      exact hconveys
  · -- elsewhere the reader takes the length for one without bounds
    rcases kept.2 root with ⟨hshort, hflag⟩
    have hunsized : ¬(csiz.effective_bits ≥ 0 ∧
        outOfSize csiz (st.sizeinunits subvariant) = false) := by
      intro ⟨bounded, inside⟩
      have hinside := of_decide_eq_false inside
      exact root ⟨bounded, by omega, by omega⟩
    have hallowed : outOfSize csiz (st.sizeinunits subvariant) = true →
        csiz.has APC_EXTENSIBLE = true := by
      intro outside
      have hbounded := (of_decide_eq_true outside).1
      exact hflag.resolve_left (by omega)
    rw [if_neg hunsized]
    apply (putInext_conveys hallowed).bind
    intro _ got same
    have hgot : getString reader subvariant (got.getD unconstrainedSize) =
        getString .oranE2 subvariant unconstrainedSize := by
      have hnone : getString reader subvariant unconstrainedSize =
          getString .oranE2 subvariant unconstrainedSize := by
        have hlength := reader.agrees (-1) (-1) (.inr (by decide))
        simp only [getString, unconstrainedSize, sub_self, if_pos, hlength]
        rfl
      rw [← hnone]
      rw [same]
      by_cases outside : outOfSize csiz (st.sizeinunits subvariant) = true
      · rw [if_pos outside]
        rfl
      · rw [if_neg outside]
        have hbits : csiz.effective_bits < 0 := by
          by_contra bounded
          exact hunsized ⟨by omega, by simpa using outside⟩
        rcases generated with ⟨hnone, _⟩ | ⟨_, ⟨fixed, _⟩ | ⟨positive, _, _⟩⟩
        · rw [Option.getD_some, hnone]
          rfl
        · omega
        · omega
    rw [hgot]
    exact unsized_conveys proper hshort

theorem octetString_conveys {reader : LengthReader} {subvariant : Subvariant}
    {size : Option PerConstraint} {st : BitString}
    (generated : SizeConstraint (size.getD unconstrainedSize)) (proper : Proper subvariant st)
    (kept : SizeKept (size.getD unconstrainedSize) (st.sizeinunits subvariant)) :
    Conveys (octetStringEncodeAper subvariant size st) (octetStringDecodeAper reader subvariant size)
      fun _ got => got = st :=
  string_conveys generated proper kept

end NearRtRic.Asn1
