import Mathlib.Tactic

/-! Byte-addressed memory and a program that walks C structures in it.

A structure is described twice: by a reader, which may fault, and by a layout
predicate, under which the reader succeeds. -/

namespace NearRtRic.CMemory

/-- What each address holds; `none` where nothing is mapped. -/
abbrev Memory := Nat → Option UInt8

/-- A mapped range that is zero but for the listed bytes. -/
def sparse (first last : Nat) (bytes : List (Nat × UInt8)) : Memory := fun address =>
  if first ≤ address ∧ address < last then some ((bytes.lookup address).getD 0) else none

/-- How a run stops: with a fault of the process, or with an error that it returns. -/
inductive Stop
  | fault
  | error (message : String)
  deriving DecidableEq, Repr

abbrev Run (Value : Type) := Except Stop Value

variable {Value Result Content : Type}

theorem bind_ok_iff {run : Run Value} {next : Value → Run Result} {result : Result} :
    (run >>= next) = .ok result ↔ ∃ value, run = .ok value ∧ next value = .ok result := by
  cases run with
  | error stop => simp [bind, Except.bind]
  | ok value => simp [bind, Except.bind]

@[simp] theorem pure_ok_iff {value answer : Value} :
    (pure value : Run Value) = .ok answer ↔ value = answer :=
  ⟨Except.ok.inj, congrArg Except.ok⟩

@[simp] theorem bind_ok (value : Value) (next : Value → Run Result) :
    ((Except.ok value : Run Value) >>= next) = next value := rfl

@[simp] theorem bind_error (stop : Stop) (next : Value → Run Result) :
    ((Except.error stop : Run Value) >>= next) = .error stop := rfl

theorem bind_fault_iff {run : Run Value} {next : Value → Run Result} :
    (run >>= next) = .error .fault ↔
      run = .error .fault ∨ ∃ value, run = .ok value ∧ next value = .error .fault := by
  cases run with
  | error stop => simp
  | ok value => simp

def orFault : Option Value → Run Value
  | some value => .ok value
  | none => .error .fault

@[simp] theorem orFault_eq_ok_iff {answer : Option Value} {value : Value} :
    orFault answer = .ok value ↔ answer = some value := by
  cases answer with
  | none => simp [orFault]
  | some found => simp [orFault]

/-- An unsigned little-endian word. -/
def load (memory : Memory) (address : Nat) : Nat → Option Nat
  | 0 => some 0
  | width + 1 =>
      match memory address, load memory (address + 1) width with
      | some low, some high => some (low.toNat + 256 * high)
      | _, _ => none

def loadBytes (memory : Memory) (address : Nat) : Nat → Option (List UInt8)
  | 0 => some []
  | count + 1 =>
      match memory address, loadBytes memory (address + 1) count with
      | some first, some rest => some (first :: rest)
      | _, _ => none

/-- The two's-complement value of the low bits of a word; not to be unfolded by
unification, which would count to the power. -/
@[irreducible] def signed (bits word : Nat) : Int :=
  Int.bmod word (2 ^ bits)

theorem signed_of_lt {bits word : Nat} (hbits : 0 < bits) (small : word < 2 ^ (bits - 1)) :
    signed bits word = word := by
  rcases Nat.exists_eq_succ_of_ne_zero (Nat.ne_of_gt hbits) with ⟨below, rfl⟩
  have hsmall : (word : Int) < 2 ^ below := by exact_mod_cast small
  unfold signed
  apply Int.bmod_eq_of_le
  · rw [Nat.pow_succ]
    push_cast
    omega
  · rw [Nat.pow_succ]
    push_cast
    omega

theorem signed_inj {bits first second : Nat} (firstBound : first < 2 ^ bits)
    (secondBound : second < 2 ^ bits) : signed bits first = signed bits second ↔ first = second := by
  constructor
  · intro same
    unfold signed at same
    have remainders := congrArg (· % ((2 ^ bits : Nat) : Int)) same
    simp only [Int.bmod_emod] at remainders
    have values : first % 2 ^ bits = second % 2 ^ bits := by exact_mod_cast remainders
    rwa [Nat.mod_eq_of_lt firstBound, Nat.mod_eq_of_lt secondBound] at values
  · intro same
    rw [same]

theorem load_lt {memory : Memory} {address width value : Nat}
    (loaded : load memory address width = some value) : value < 256 ^ width := by
  induction width generalizing address value with
  | zero =>
      have hvalue : 0 = value := by simpa [load] using loaded
      simp [← hvalue]
  | succ width ih =>
      simp only [load] at loaded
      split at loaded
      · next low high _ hhigh =>
          have hvalue : low.toNat + 256 * high = value := by simpa using loaded
          have hlow : low.toNat < 256 := low.toNat_lt
          have hrest : high < 256 ^ width := ih hhigh
          calc
            value = low.toNat + 256 * high := hvalue.symm
            _ < 256 + 256 * high := by omega
            _ = 256 * (high + 1) := by ring
            _ ≤ 256 * 256 ^ width := Nat.mul_le_mul_left 256 hrest
            _ = 256 ^ (width + 1) := by ring
      · cases loaded

theorem eq_of_signed {bits word : Nat} {value : Int} (bounded : word < 2 ^ bits)
    (hsigned : signed bits word = value) (nonneg : 0 ≤ value) : (word : Int) = value := by
  have hmod : (word : Int) % (2 ^ bits : Nat) = word :=
    Int.emod_eq_of_lt (by omega) (by exact_mod_cast bounded)
  unfold signed Int.bmod at hsigned
  push_cast at hsigned hmod
  rw [hmod] at hsigned
  have hbounded : (word : Int) < 2 ^ bits := by exact_mod_cast bounded
  split at hsigned
  · exact hsigned
  · omega

theorem loadBytes_length {memory : Memory} {address count : Nat} {bytes : List UInt8}
    (loaded : loadBytes memory address count = some bytes) : bytes.length = count := by
  induction count generalizing address bytes with
  | zero =>
      have hbytes : [] = bytes := by simpa [loadBytes] using loaded
      simp [← hbytes]
  | succ count ih =>
      simp only [loadBytes] at loaded
      split at loaded
      · next first rest _ hrest =>
          have hbytes : first :: rest = bytes := by simpa using loaded
          simp [← hbytes, ih hrest]
      · cases loaded

/-- The block of memory that holds only zeros from `address` on. -/
def ZeroAt (memory : Memory) (address count : Nat) : Prop :=
  loadBytes memory address count = some (List.replicate count 0)

instance (memory : Memory) (address count : Nat) : Decidable (ZeroAt memory address count) :=
  inferInstanceAs (Decidable (_ = _))

theorem ZeroAt.load {memory : Memory} {address count : Nat}
    (zero : ZeroAt memory address count) : load memory address count = some 0 := by
  induction count generalizing address with
  | zero => rfl
  | succ count ih =>
      simp only [ZeroAt, loadBytes, List.replicate_succ] at zero
      split at zero
      · next first rest hfirst hrest =>
          obtain ⟨rfl, rfl⟩ : first = 0 ∧ rest = List.replicate count 0 := by simpa using zero
          simp [CMemory.load, hfirst, ih hrest]
      · cases zero

theorem ZeroAt.shorten {memory : Memory} {address count shorter : Nat}
    (zero : ZeroAt memory address count) (below : shorter ≤ count) :
    ZeroAt memory address shorter := by
  induction shorter generalizing address count with
  | zero => rfl
  | succ shorter ih =>
      obtain ⟨rest, rfl⟩ : ∃ rest, count = rest + 1 := ⟨count - 1, by omega⟩
      simp only [ZeroAt, loadBytes, List.replicate_succ] at zero ⊢
      split at zero
      · next first found hfirst hfound =>
          obtain ⟨rfl, rfl⟩ : first = 0 ∧ found = List.replicate rest 0 := by simpa using zero
          have htail : loadBytes memory (address + 1) shorter = some (List.replicate shorter 0) :=
            ih hfound (by omega)
          simp [hfirst, htail]
      · cases zero

def BytesAt (memory : Memory) (address : Nat) (bytes : List UInt8) : Prop :=
  loadBytes memory address bytes.length = some bytes

instance (memory : Memory) (address : Nat) (bytes : List UInt8) :
    Decidable (BytesAt memory address bytes) :=
  inferInstanceAs (Decidable (_ = _))

def word (memory : Memory) (address width : Nat) : Run Nat :=
  orFault (load memory address width)

theorem word_eq_ok_iff {memory : Memory} {address width value : Nat} :
    word memory address width = .ok value ↔ load memory address width = some value :=
  orFault_eq_ok_iff

/-- `C.GoBytes(pointer, C.int(size))` for a `size_t`. -/
def goBytes (memory : Memory) (pointer size : Nat) : Run (List UInt8) :=
  if signed 32 size < 0 then .error .fault
  else orFault (loadBytes memory pointer (signed 32 size).toNat)

theorem goBytes_of_bytesAt {memory : Memory} {pointer : Nat} {bytes : List UInt8}
    (laid : BytesAt memory pointer bytes) (small : bytes.length < 2 ^ 31) :
    goBytes memory pointer bytes.length = .ok bytes := by
  have hsize : signed 32 bytes.length = bytes.length := signed_of_lt (by decide) small
  have hloaded : loadBytes memory pointer bytes.length = some bytes := laid
  have hnat : ¬ (bytes.length : Int) < 0 := by omega
  rw [goBytes, hsize, if_neg hnat, orFault_eq_ok_iff, Int.toNat_natCast]
  exact hloaded

theorem goBytes_length {memory : Memory} {pointer size : Nat} {bytes : List UInt8}
    (copied : goBytes memory pointer size = .ok bytes) (small : size < 2 ^ 31) :
    bytes.length = size := by
  have hsize : signed 32 size = size := signed_of_lt (by decide) small
  simp only [goBytes, hsize] at copied
  have hnat : ¬ (size : Int) < 0 := by omega
  rw [if_neg hnat, orFault_eq_ok_iff] at copied
  simpa using loadBytes_length copied

/-- What an optional pointer field points to, null when it is absent. -/
def ifNotNull (memory : Memory) (address : Nat) (reader : Nat → Run Value) : Run (Option Value) := do
  let target ← word memory address 8
  if target = 0 then pure none
  else
    let value ← reader target
    pure (some value)

/-- The layout of a pointer field and of what it points to. -/
def PointerAt (memory : Memory) (address : Nat) (layout : Nat → Prop) : Prop :=
  ∃ target, target ≠ 0 ∧ load memory address 8 = some target ∧ layout target

/-- The layout of an optional pointer field. -/
def OptionalAt (memory : Memory) (layout : Nat → Content → Prop) (address : Nat) :
    Option Content → Prop
  | none => load memory address 8 = some 0
  | some content => PointerAt memory address (layout · content)

theorem ifNotNull_of_null {memory : Memory} {address : Nat} {reader : Nat → Run Value}
    (null : load memory address 8 = some 0) : ifNotNull memory address reader = .ok none := by
  have hword : word memory address 8 = .ok 0 := word_eq_ok_iff.mpr null
  simp [ifNotNull, hword, pure, Except.pure]

theorem ifNotNull_of_pointer {memory : Memory} {address target : Nat} {reader : Nat → Run Value}
    (loaded : load memory address 8 = some target) (notNull : target ≠ 0) :
    ifNotNull memory address reader = (do let value ← reader target; pure (some value)) := by
  have hword : word memory address 8 = .ok target := word_eq_ok_iff.mpr loaded
  simp [ifNotNull, hword, notNull]

theorem ifNotNull_of_optionalAt {memory : Memory} {address : Nat} {reader : Nat → Run Value}
    {layout : Nat → Content → Prop} {copy : Content → Value} {content : Option Content}
    (reads : ∀ target content, layout target content → reader target = .ok (copy content))
    (laid : OptionalAt memory layout address content) :
    ifNotNull memory address reader = .ok (content.map copy) := by
  cases content with
  | none => exact ifNotNull_of_null laid
  | some content =>
      rcases laid with ⟨target, hne, hload, hlayout⟩
      rw [ifNotNull_of_pointer hload hne, reads target content hlayout]
      rfl

theorem ifNotNull_eq_ok {memory : Memory} {address : Nat} {reader : Nat → Run Value}
    {answer : Option Value} (read : ifNotNull memory address reader = .ok answer) :
    ∀ value, answer = some value → ∃ target, reader target = .ok value := by
  rintro value rfl
  rcases bind_ok_iff.mp read with ⟨target, -, hnext⟩
  split at hnext
  · cases hnext
  · rcases bind_ok_iff.mp hnext with ⟨found, hfound, hpure⟩
    cases hpure
    exact ⟨target, hfound⟩

end NearRtRic.CMemory
