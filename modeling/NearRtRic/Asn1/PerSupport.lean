import Mathlib.Tactic
import NearRtRic.Asn1.BitWriter

/-! Alignment, lengths and small numbers of aligned PER, as `per_support.c` writes and reads them. -/

namespace NearRtRic.Asn1

open Bits Transmission

abbrev Put.fail {Value : Type} : Put Value := Action.stop .failed (by decide)

abbrev Get.fail {Value : Type} : Get Value := Action.stop .failed (by decide)

def aperGetAlign : Get Nat :=
  Action.reading fun pd =>
    if pd.nboff % 8 = 0 then pure 0 else asnGetFewBits (8 - pd.nboff % 8)

def aperPutAlign : Put Unit :=
  Action.reading fun po =>
    if po.nboff % 8 = 0 then pure () else asnPutFewBits 0 (8 - po.nboff % 8)

/-- The loop over 1 to 8 bits: as many as tell a range apart. -/
def rangeWidth (range : Nat) : Nat :=
  ((List.range' 1 8).find? fun i => range ≤ 2 ^ i).getD 9

def aperGetNsnnwn (range : Nat) : Get Nat :=
  if range ≤ 255 then asnGetFewBits (rangeWidth range)
  else if range ≤ 65536 then do
    let _ ← aperGetAlign
    asnGetFewBits (8 * if range = 256 then 1 else 2)
  else Get.fail

def aperPutNsnnwn (range number : Nat) : Put Unit :=
  if range ≤ 255 then asnPutFewBits number (rangeWidth range)
  else if range ≤ 65536 then do
    aperPutAlign
    asnPutFewBits number (8 * if range = 256 then 1 else 2)
  else Put.fail

/-- How much of a length goes into one determinant: all of it below 16K, else up to 64K. -/
def mayEncode (length : Nat) : Nat :=
  if length < 16384 then length else min (length / 16384) 4 * 16384

theorem mayEncode_le (length : Nat) : mayEncode length ≤ length := by
  unfold mayEncode
  split
  · exact le_rfl
  · omega

/-- A length without a range: in one octet, in two, or how many times 16K of it follow. -/
def putDeterminant (length : Nat) : Put Unit :=
  if length ≤ 127 then asnPutFewBits length 8
  else if length < 16384 then asnPutFewBits (length ||| 0x8000) 16
  else asnPutFewBits (0xC0 ||| min (length / 16384) 4) 8

def getDeterminant : Get (Nat × Bool) := do
  let value ← asnGetFewBits 8
  if value < 128 then pure (value, false)
  else if value < 192 then do
    let low ← asnGetFewBits 8
    pure ((value % 64) <<< 8 ||| low, false)
  else if value % 64 < 1 ∨ 4 < value % 64 then Get.fail
  else pure (16384 * (value % 64), true)

/-- The answer is what was encoded of the length, 0 where the range gives the number of bits. -/
def aperPutLength (range : Int) (length : Nat) : Put { amount : Nat // amount ≤ length } :=
  if 0 ≤ range ∧ range ≤ 65536 then do
    aperPutNsnnwn range.toNat length
    pure ⟨0, Nat.zero_le _⟩
  else do
    aperPutAlign
    putDeterminant length
    pure ⟨mayEncode length, mayEncode_le length⟩

def aperGetLength (range ebits : Int) : Get (Nat × Bool) :=
  if ebits ≥ 0 ∧ 0 ≤ range ∧ range ≤ 65536 then do
    let value ← aperGetNsnnwn range.toNat
    pure (value, false)
  else do
    let _ ← aperGetAlign
    if ebits ≥ 0 then do
      let value ← asnGetFewBits ebits.toNat
      pure (value, false)
    else getDeterminant

/-- `aper_get_length` of `e2ap/lib`, which asks for no effective bits before it takes the range. -/
def aperGetRangedLength (range ebits : Int) : Get (Nat × Bool) :=
  if 0 ≤ range ∧ range ≤ 65536 then do
    let value ← aperGetNsnnwn range.toNat
    pure (value, false)
  else do
    let _ ← aperGetAlign
    if ebits ≥ 0 then do
      let value ← asnGetFewBits ebits.toNat
      pure (value, false)
    else getDeterminant

/-- One of the versions of `aper_get_length`, which are alike where there are effective bits or no
range. -/
structure LengthReader where
  get : Int → Int → Get (Nat × Bool)
  agrees : ∀ range ebits, 0 ≤ ebits ∨ ¬(0 ≤ range ∧ range ≤ 65536) →
    get range ebits = aperGetLength range ebits

namespace LengthReader

def oranE2 : LengthReader :=
  ⟨aperGetLength, fun _ _ _ => rfl⟩

theorem ranged_agrees (range ebits : Int) (alike : 0 ≤ ebits ∨ ¬(0 ≤ range ∧ range ≤ 65536)) :
    aperGetRangedLength range ebits = aperGetLength range ebits := by
  unfold aperGetRangedLength aperGetLength
  by_cases ranged : 0 ≤ range ∧ range ≤ 65536
  · rw [if_pos ranged, if_pos ⟨alike.resolve_right (not_not.mpr ranged), ranged⟩]
  · have hunranged : ¬(ebits ≥ 0 ∧ 0 ≤ range ∧ range ≤ 65536) := fun all => ranged all.2
    rw [if_neg ranged, if_neg hunranged]

def e2apLib : LengthReader :=
  ⟨aperGetRangedLength, ranged_agrees⟩

end LengthReader

theorem aperAlign_conveys : Conveys aperPutAlign aperGetAlign fun _ got => got = 0 := by
  apply Conveys.reading
  intro po pd validWriter validReader standing
  have hwritten := written_length validWriter
  have hcounted := validReader.counted
  have hoffset : pd.nboff % 8 = po.nboff % 8 := by
    change pd.moved = po.written.length at standing
    omega
  rw [hoffset]
  split
  · exact Conveys.pure rfl
  · next unaligned =>
      have hwidth : 8 - po.nboff % 8 ≤ 31 := by omega
      have hzero : 0 % 2 ^ (8 - po.nboff % 8) = 0 := Nat.zero_mod _
      exact (asnPutFewBits_conveys 0 hwidth).mono fun _ got same => same.trans hzero

/-- The writer stands at an octet whenever it is through. -/
def EndsAligned {Value : Type} (put : Put Value) : Prop :=
  ∀ before sent after, before.Valid → put.run before = .ok (sent, after) → after.nboff % 8 = 0

theorem aperPutAlign_aligned : EndsAligned aperPutAlign := by
  intro before sent after valid run
  by_cases aligned : before.nboff % 8 = 0
  · simp only [aperPutAlign, Action.reading, if_pos aligned] at run
    rcases Prod.mk.inj (Except.ok.inj run) with ⟨_, rfl⟩
    exact aligned
  · simp only [aperPutAlign, Action.reading, if_neg aligned] at run
    have hafter := (Action.kept_of_ok valid run).1
    have hwritten := (asnPutFewBits_writes 0 (by omega : 8 - before.nboff % 8 ≤ 31)).written_eq
      valid run
    have hlength := congrArg List.length hwritten
    rw [List.length_append, bitsOf_length, written_length valid, written_length hafter] at hlength
    omega

theorem EndsAligned.bind {Value : Type} {first : Put Value} {second : Value → Put Unit}
    (aligned : EndsAligned first)
    (whole : ∀ value, ∃ bits : List Bool, bits.length % 8 = 0 ∧ Writes (second value) bits) :
    EndsAligned (first >>= second) := by
  intro before sent after valid run
  rcases Action.run_bind_ok_iff.mp run with ⟨value, middle, hfirst, hsecond⟩
  have hmiddle := (Action.kept_of_ok valid hfirst).1
  have hafter := (Action.kept_of_ok hmiddle hsecond).1
  have haligned := aligned before value middle valid hfirst
  rcases whole value with ⟨bits, hbits, hwrites⟩
  have hlength := congrArg List.length (hwrites.written_eq hmiddle hsecond)
  rw [List.length_append, written_length hmiddle, written_length hafter] at hlength
  omega

theorem EndsAligned.answering {Value Answer : Type} {put : Put Value} {answer : Value → Answer}
    (aligned : EndsAligned put) : EndsAligned (put >>= fun value => pure (answer value)) := by
  intro before sent after valid run
  rcases Action.run_bind_ok_iff.mp run with ⟨value, middle, hput, hpure⟩
  rcases Prod.mk.inj (Except.ok.inj hpure) with ⟨_, rfl⟩
  exact aligned before value middle valid hput

theorem run_align {Value Result : Type} {put : Put Value} {next : Value → Put Result}
    (aligned : EndsAligned put) {before : AsnBitOutp} (valid : before.Valid) :
    (put >>= fun value => aperPutAlign >>= fun _ => next value).run before =
      (put >>= next).run before := by
  cases hput : put.run before with
  | error stop => rw [Action.run_bind_of_error hput, Action.run_bind_of_error hput]
  | ok outcome =>
      rcases outcome with ⟨value, middle⟩
      have hnone : aperPutAlign.run middle = .ok ((), middle) := by
        simp only [aperPutAlign, Action.reading, if_pos (aligned before value middle valid hput)]
        rfl
      rw [Action.run_bind_of_ok hput, Action.run_bind_of_ok hput, Action.run_bind_of_ok hnone]

def numberWidth (range : Nat) : Nat :=
  if range ≤ 255 then rangeWidth range else 8 * if range = 256 then 1 else 2

theorem rangeWidth_spec {range : Nat} (small : range ≤ 255) :
    range ≤ 2 ^ rangeWidth range ∧ rangeWidth range ≤ 8 := by
  have all : ∀ range : Fin 256, range.val ≤ 2 ^ rangeWidth range.val ∧ rangeWidth range.val ≤ 8 := by
    decide +kernel
  exact all ⟨range, by omega⟩

theorem lt_numberWidth {range number : Nat} (small : range ≤ 65536) (inside : number < range) :
    number < 2 ^ numberWidth range := by
  unfold numberWidth
  split
  · next few => exact lt_of_lt_of_le inside (rangeWidth_spec few).1
  · split
    · omega
    · omega

theorem aperNsnnwn_conveys {range number : Nat} (small : range ≤ 65536)
    (fits : number < 2 ^ numberWidth range) :
    Conveys (aperPutNsnnwn range number) (aperGetNsnnwn range) fun _ got => got = number := by
  unfold numberWidth at fits
  unfold aperPutNsnnwn aperGetNsnnwn
  split
  · next few =>
      rw [if_pos few] at fits
      have hwidth := (rangeWidth_spec few).2
      apply (asnPutFewBits_conveys number (by omega)).mono
      intro _ got same
      rwa [Nat.mod_eq_of_lt fits] at same
  · next many =>
      rw [if_neg many] at fits
      refine aperAlign_conveys.bind fun _ _ _ => ?_
      apply (asnPutFewBits_conveys number (by split <;> omega)).mono
      intro _ got same
      rwa [Nat.mod_eq_of_lt fits] at same

theorem asnGetFewBits_word {width word : Nat} (small : width ≤ 31) (fits : word < 2 ^ width) :
    Reads (asnGetFewBits width) (bitsOf width word) word := by
  have hreads := asnGetFewBits_reads (bitsOf width word) (by rw [bitsOf_length]; exact small)
  rwa [bitsOf_length, wordOf_bitsOf, Nat.mod_eq_of_lt fits] at hreads

theorem putDeterminant_conveys (length : Nat) :
    Conveys (putDeterminant length) getDeterminant
      fun _ got => got = (mayEncode length, decide (16384 ≤ length)) := by
  unfold putDeterminant mayEncode
  split
  · next short =>
      have hamount : (if length < 16384 then length else min (length / 16384) 4 * 16384) = length :=
        if_pos (by omega)
      have hread : Reads getDeterminant (bitsOf 8 length ++ []) (length, false) := by
        apply (asnGetFewBits_word (by decide) (by omega)).bind
        rw [if_pos (by omega)]
        exact Reads.pure _
      have hlong : decide (16384 ≤ length) = false := decide_eq_false (by omega)
      rw [hamount, hlong]
      rw [List.append_nil] at hread
      exact (asnPutFewBits_writes length (by decide)).conveys hread
  · split
    · next short medium =>
        have hor : length ||| 0x8000 = 0x8000 + length := by
          rw [Nat.or_comm, ← Nat.two_pow_add_eq_or_of_lt (i := 15) (by omega) 1]
        have hread : Reads getDeterminant
            (bitsOf 8 (128 + length / 256) ++ (bitsOf 8 (length % 256) ++ [])) (length, false) := by
          apply (asnGetFewBits_word (by decide) (by omega)).bind
          rw [if_neg (by omega), if_pos (by omega)]
          apply (asnGetFewBits_word (by decide) (by omega)).bind
          have hhigh : (128 + length / 256) % 64 = length / 256 := by omega
          have hlow : length % 256 < 2 ^ 8 := by omega
          have hvalue : (length / 256) <<< 8 ||| length % 256 = length := by
            rw [← Nat.shiftLeft_add_eq_or_of_lt hlow, Nat.shiftLeft_eq]
            omega
          rw [hhigh, hvalue]
          exact Reads.pure _
        have hlong : decide (16384 ≤ length) = false := decide_eq_false (by omega)
        have hword : 0x8000 + length = (128 + length / 256) * 2 ^ 8 + length % 256 := by omega
        have hbits : bitsOf (8 + 8) (0x8000 + length) =
            bitsOf 8 (128 + length / 256) ++ bitsOf 8 (length % 256) := by
          rw [hword]
          exact bitsOf_high (by omega)
        rw [hlong, hor]
        rw [List.append_nil, ← hbits] at hread
        exact (asnPutFewBits_writes _ (by decide)).conveys hread
    · next short medium =>
        have hor : 0xC0 ||| min (length / 16384) 4 = 192 + min (length / 16384) 4 := by
          rw [← Nat.two_pow_add_eq_or_of_lt (i := 6) (by omega) 3]
        have hread : Reads getDeterminant (bitsOf 8 (192 + min (length / 16384) 4) ++ [])
            (min (length / 16384) 4 * 16384, true) := by
          apply (asnGetFewBits_word (by decide) (by omega)).bind
          have hlow : (192 + min (length / 16384) 4) % 64 = min (length / 16384) 4 := by omega
          rw [if_neg (by omega), if_neg (by omega), if_neg (by omega), hlow, Nat.mul_comm]
          exact Reads.pure _
        have hlong : decide (16384 ≤ length) = true := decide_eq_true (by omega)
        rw [hlong, hor]
        rw [List.append_nil] at hread
        exact (asnPutFewBits_writes _ (by decide)).conveys hread

theorem putDeterminant_writes (length : Nat) :
    ∃ bits, 8 ≤ bits.length ∧ Writes (putDeterminant length) bits := by
  unfold putDeterminant
  split
  · exact ⟨_, (bitsOf_length 8 _).ge, asnPutFewBits_writes _ (by decide)⟩
  · split
    · refine ⟨_, ?_, asnPutFewBits_writes _ (by decide)⟩
      rw [bitsOf_length]
      decide
    · exact ⟨_, (bitsOf_length 8 _).ge, asnPutFewBits_writes _ (by decide)⟩

theorem aperPutLength_grows {length : Nat} {before after : AsnBitOutp}
    {sent : { amount : Nat // amount ≤ length }} (valid : before.Valid)
    (run : (aperPutLength (-1) length).run before = .ok (sent, after)) :
    sent.val = mayEncode length ∧ before.written.length + 8 ≤ after.written.length := by
  rcases Action.run_bind_ok_iff.mp run with ⟨_, middle, halign, hrest⟩
  rcases Action.run_bind_ok_iff.mp hrest with ⟨_, last, hdeterminant, hpure⟩
  rcases Prod.mk.inj (Except.ok.inj hpure) with ⟨rfl, rfl⟩
  have hmiddle := Action.kept_of_ok valid halign
  rcases putDeterminant_writes length with ⟨bits, hbits, hwrites⟩
  have hgrown := hwrites.written_eq hmiddle.1 hdeterminant
  have hprefix := hmiddle.2.1.length_le
  refine ⟨rfl, ?_⟩
  rw [hgrown, List.length_append]
  omega

/-- What is read of a length is what its writer answers, and another one follows exactly where
the writer has to go on, or has come to the end of its last piece of 16K. -/
theorem aperLength_conveys (length : Nat) :
    Conveys (aperPutLength (-1) length) (aperGetLength (-1) (-1))
      fun sent got => sent.val = mayEncode length ∧
        got = (mayEncode length, decide (16384 ≤ length)) := by
  apply aperAlign_conveys.bind
  intro _ _ _
  apply (putDeterminant_conveys length).answering
  intro _ got same
  exact ⟨rfl, same⟩

theorem aperPutLength_aligned (length : Nat) : EndsAligned (aperPutLength (-1) length) := by
  intro before sent after valid run
  rcases Action.run_bind_ok_iff.mp run with ⟨_, middle, halign, hrest⟩
  rcases Action.run_bind_ok_iff.mp hrest with ⟨_, last, hdeterminant, hpure⟩
  rcases Prod.mk.inj (Except.ok.inj hpure) with ⟨_, rfl⟩
  have hwhole : EndsAligned (aperPutAlign >>= fun _ => putDeterminant length) :=
    aperPutAlign_aligned.bind fun _ => by
      unfold putDeterminant
      split
      · exact ⟨_, by rw [bitsOf_length], asnPutFewBits_writes _ (by decide)⟩
      · split
        · exact ⟨_, by rw [bitsOf_length], asnPutFewBits_writes _ (by decide)⟩
        · exact ⟨_, by rw [bitsOf_length], asnPutFewBits_writes _ (by decide)⟩
  apply hwhole before () last valid
  rw [Action.run_bind_of_ok halign, hdeterminant]

theorem aperPutNsnnwn_aligned {range number : Nat} (large : 256 ≤ range) (small : range ≤ 65536) :
    EndsAligned (aperPutNsnnwn range number) := by
  unfold aperPutNsnnwn
  rw [if_neg (by omega), if_pos small]
  apply aperPutAlign_aligned.bind
  intro _
  refine ⟨_, ?_, asnPutFewBits_writes _ (by split <;> decide)⟩
  rw [bitsOf_length]
  exact Nat.mul_mod_right _ _

/-- Of a length with a range so small the range decides the bits. -/
theorem aperLength_conveys_of_range {range ebits : Int} {length : Nat} (bounded : 0 ≤ ebits)
    (positive : 0 ≤ range) (small : range ≤ 65536) (fits : length < 2 ^ numberWidth range.toNat) :
    Conveys (aperPutLength range length) (aperGetLength range ebits)
      fun sent got => sent.val = 0 ∧ got = (length, false) := by
  unfold aperPutLength aperGetLength
  rw [if_pos ⟨positive, small⟩, if_pos ⟨bounded, positive, small⟩]
  apply Conveys.bind (aperNsnnwn_conveys (by omega) fits)
  intro _ got same
  exact Conveys.pure ⟨rfl, by rw [same]⟩

/-- `uper_get_nsnnwn`: 6 bits behind a zero bit, or a number of octets and so many octets. -/
def uperGetNsnnwn : Get Nat := do
  let value ← asnGetFewBits 7
  if value &&& 64 = 0 then pure value
  else do
    let low ← asnGetFewBits 2
    let bytes := (value &&& 63) <<< 2 ||| low
    if bytes &&& 128 ≠ 0 then Get.fail
    else if bytes = 0 then pure 0
    else if bytes ≥ 3 then Get.fail
    else asnGetFewBits (8 * bytes)

def uperPutNsnnwn (n : Int) : Put Unit :=
  if n ≤ 63 then
    if n < 0 then Put.fail else asnPutFewBits n.toNat 7
  else if n < 256 then do
    asnPutFewBits 1 8
    asnPutFewBits n.toNat 8
  else if n < 65536 then do
    asnPutFewBits 2 8
    asnPutFewBits n.toNat 16
  else if n < 256 * 65536 then do
    asnPutFewBits 3 8
    asnPutFewBits n.toNat 24
  else Put.fail

/-- From 64 on the number of octets stands in 8 bits, of which the reader takes 7 for a small
number. -/
theorem uperPutNsnnwn_of_large {n : Int} (large : 63 < n) (few : n < 256 * 65536) :
    ∃ bytes bits, bytes ≤ 3 ∧ Writes (uperPutNsnnwn n) (bitsOf 8 bytes ++ bits) := by
  unfold uperPutNsnnwn
  rw [if_neg (by omega)]
  split
  · exact ⟨1, _, by decide, (asnPutFewBits_writes 1 (by decide)).bind
      (asnPutFewBits_writes _ (by decide))⟩
  · split
    · exact ⟨2, _, by decide, (asnPutFewBits_writes 2 (by decide)).bind
        (asnPutFewBits_writes _ (by decide))⟩
    · exact ⟨3, _, by decide, (asnPutFewBits_writes 3 (by decide)).bind
        (asnPutFewBits_writes _ (by decide))⟩

theorem uperGetNsnnwn_reads {word : Nat} (small : word < 64) :
    Reads uperGetNsnnwn (bitsOf 7 word) word := by
  have hread : Reads uperGetNsnnwn (bitsOf 7 word ++ []) word := by
    apply (asnGetFewBits_word (by decide) (by omega)).bind
    have hand : word &&& 64 = 0 := by
      have all : ∀ number : Fin 64, number.val &&& 64 = 0 := by decide
      exact all ⟨word, small⟩
    rw [if_pos hand]
    exact Reads.pure word
  rwa [List.append_nil] at hread

/-- The reader gets the small number exactly where it is one of the 64 smallest. -/
theorem uperNsnnwn_conveys_iff (n : Int) :
    Conveys (uperPutNsnnwn n) uperGetNsnnwn (fun _ got => (got : Int) = n) ↔ 0 ≤ n ∧ n ≤ 63 := by
  constructor
  · intro conveys
    have hwrites := conveys.writes (.fresh none) (fresh_valid none) rfl
    by_cases negative : n < 0
    · rw [uperPutNsnnwn, if_pos (by omega), if_pos negative] at hwrites
      rcases hwrites with ⟨_, _, impossible, _⟩
      cases impossible
    · refine ⟨by omega, ?_⟩
      by_contra large
      by_cases few : n < 256 * 65536
      · rcases uperPutNsnnwn_of_large (by omega) few with ⟨bytes, bits, hbytes, hwrite⟩
        have hsplit : bitsOf 8 bytes = bitsOf 7 (bytes / 2) ++ bitsOf 1 bytes := bitsOf_add 7 1 bytes
        rw [hsplit, List.append_assoc] at hwrite
        have hpost := post_of_reads conveys hwrite (uperGetNsnnwn_reads (by omega))
        omega
      · rw [uperPutNsnnwn, if_neg (by omega), if_neg (by omega), if_neg (by omega),
          if_neg few] at hwrites
        rcases hwrites with ⟨_, _, impossible, _⟩
        cases impossible
  · intro ⟨positive, small⟩
    have hput : uperPutNsnnwn n = asnPutFewBits n.toNat 7 := by
      rw [uperPutNsnnwn, if_pos small, if_neg (by omega)]
    rw [hput]
    have hconveys := (asnPutFewBits_writes n.toNat (by decide : 7 ≤ 31)).conveys
      (uperGetNsnnwn_reads (by omega))
    exact hconveys.mono fun _ got same => by rw [same]; omega

end NearRtRic.Asn1
