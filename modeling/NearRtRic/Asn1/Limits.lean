import Mathlib.Tactic
import NearRtRic.Asn1.Descriptor

/-! Encoders whose callback takes few octets, beside the same encoders where it takes any. -/

namespace NearRtRic.Asn1

open Bits Transmission

/-- The callback has taken the same octets, and takes so many in all. -/
def Output.within (output : Output) (size : Nat) : Output :=
  ⟨output.pieces, some (size - output.stored.length)⟩

theorem Output.take_within {output : Output} {size : Nat} (inside : output.stored.length ≤ size)
    (octets : List UInt8) :
    (output.within size).take octets =
      if (Output.stored ⟨output.pieces ++ [octets], none⟩).length ≤ size then
        .ok (Output.within ⟨output.pieces ++ [octets], none⟩ size)
      else .error .failed := by
  have hlength : (output.stored ++ octets).length = output.stored.length + octets.length :=
    List.length_append
  simp only [take, within, stored_concat]
  by_cases enough : (output.stored ++ octets).length ≤ size
  · have hleft : size - output.stored.length - octets.length =
        size - (output.stored ++ octets).length := by omega
    rw [if_neg (by omega), if_pos enough, hleft]
  · rw [if_pos (by omega), if_neg enough]

namespace AsnBitOutp

def within (po : AsnBitOutp) (size : Nat) : AsnBitOutp :=
  { po with op_key := po.op_key.within size }

/-- Where this takes more octets than so many, an earlier one was refused. -/
def clipped (size : Nat) (po : AsnBitOutp) : Except Stop AsnBitOutp :=
  if po.op_key.stored.length ≤ size then .ok (po.within size) else .error .failed

/-- The step does the same with few octets, as long as they are enough for it. -/
def Clips (po : AsnBitOutp) (step : AsnBitOutp → Except Stop AsnBitOutp) : Prop :=
  (∀ size, po.op_key.stored.length ≤ size → step (po.within size) = step po >>= clipped size) ∧
    (step po = .error .failed ∨ ∃ after, step po = .ok after ∧ after.op_key.left = none ∧
      po.op_key.stored.length ≤ after.op_key.stored.length)

variable {po : AsnBitOutp} {bits obits : Nat}

theorem Clips.bind {first second : AsnBitOutp → Except Stop AsnBitOutp} (clips : po.Clips first)
    (rest : ∀ middle, first po = .ok middle → middle.op_key.left = none → middle.Clips second) :
    po.Clips fun po => first po >>= second := by
  rcases clips with ⟨hwithin, hfailed | ⟨middle, hfirst, hleft, hstored⟩⟩
  · have hrun : (first po >>= second) = .error .failed := by
      rw [hfailed]
      rfl
    refine ⟨fun size inside => ?_, .inl hrun⟩
    beta_reduce
    rw [hwithin size inside, hrun, hfailed]
    rfl
  · rcases rest middle hfirst hleft with ⟨hsecond, hresult⟩
    have hrun : (first po >>= second) = second middle := by
      rw [hfirst]
      rfl
    refine ⟨fun size inside => ?_, ?_⟩
    · beta_reduce
      rw [hwithin size inside, hrun, hfirst]
      by_cases enough : middle.op_key.stored.length ≤ size
      · have hclipped : middle.clipped size = .ok (middle.within size) := if_pos enough
        rw [← hsecond size enough]
        change (middle.clipped size >>= second) = _
        rw [hclipped]
        rfl
      · have hclipped : middle.clipped size = .error .failed := if_neg enough
        change (middle.clipped size >>= second) = _
        rw [hclipped]
        rcases hresult with hfailed | ⟨after, hafter, _, hmore⟩
        · rw [hfailed]
          rfl
        · rw [hafter]
          exact (if_neg (by omega)).symm
    · beta_reduce
      rw [hrun]
      rcases hresult with hfailed | ⟨after, hafter, hroomy, hmore⟩
      · exact .inl hfailed
      · exact .inr ⟨after, hafter, hroomy, by omega⟩

theorem Clips.congr {step other : AsnBitOutp → Except Stop AsnBitOutp} (clips : po.Clips other)
    (same : step po = other po) (within : ∀ size, step (po.within size) = other (po.within size)) :
    po.Clips step := by
  refine ⟨fun size inside => ?_, ?_⟩
  · rw [same, within size]
    exact clips.1 size inside
  · rw [same]
    exact clips.2

theorem clips_of_ok {step : AsnBitOutp → Except Stop AsnBitOutp} {after : AsnBitOutp}
    (ran : step po = .ok after) (same : after.op_key = po.op_key) (roomy : po.op_key.left = none)
    (within : ∀ size, step (po.within size) = .ok (after.within size)) : po.Clips step := by
  refine ⟨fun size inside => ?_, .inr ⟨after, ran, by rw [same]; exact roomy, by rw [same]⟩⟩
  rw [ran, within size]
  exact (if_pos (by rw [same]; exact inside)).symm

theorem flushed_clips (valid : po.Valid) (aligned : po.nboff < 8) (roomy : po.op_key.left = none)
    (obits : Nat) : po.Clips fun po => po.flushed obits := by
  by_cases full : po.nboff + obits > po.nbits
  · rcases begun_spec valid aligned with ⟨tmpspace, hbegun, _⟩
    have htake : po.op_key.take (po.tmpspace.take po.buffer) =
        .ok ⟨po.op_key.pieces ++ [po.tmpspace.take po.buffer], none⟩ := by
      rw [Output.take, roomy]
    have hflushed : po.flushed obits = .ok { po with
        tmpspace
        buffer := 0
        nbits := 8 * TMPSPACE_SIZE
        op_key := ⟨po.op_key.pieces ++ [po.tmpspace.take po.buffer], none⟩
        flushed_bytes := po.flushed_bytes + po.buffer } := by
      rw [flushed, if_pos full, htake, hbegun]
      rfl
    refine ⟨fun size inside => ?_, .inr ⟨_, hflushed, rfl, ?_⟩⟩
    · have hbegun' : (po.within size).begun = .ok tmpspace := hbegun
      have hfull : (po.within size).nboff + obits > (po.within size).nbits := full
      have htake' := Output.take_within inside (po.tmpspace.take po.buffer)
      beta_reduce
      rw [hflushed]
      change _ = clipped size _
      rw [flushed, if_pos hfull, hbegun', clipped]
      change ((po.op_key.within size).take (po.tmpspace.take po.buffer) >>= _) = _
      rw [htake']
      split
      · rfl
      · rfl
    · rw [Output.stored_concat]
      exact (List.prefix_append _ _).length_le
  · exact clips_of_ok (if_neg full) rfl roomy fun size => if_neg full

theorem storeIn_within (off count size : Nat) :
    (po.within size).storeIn bits off count =
      (fun after => after.within size) <$> po.storeIn bits off count := by
  unfold storeIn
  have hfirst : (po.within size).octetAt (po.within size).buffer = po.octetAt po.buffer := rfl
  rw [hfirst]
  cases po.octetAt po.buffer with
  | error stop => rfl
  | ok first =>
      by_cases room : po.buffer + count ≤ po.tmpspace.length
      · simp only [within, bind, Except.bind, if_pos room]
        exact if_pos room
      · simp only [within, bind, Except.bind, if_neg room]
        exact if_neg room

theorem store_within (size : Nat) :
    (po.within size).store bits obits = (fun after => after.within size) <$> po.store bits obits := by
  have hoffset : (po.within size).nboff = po.nboff := rfl
  unfold store
  simp only [hoffset, storeIn_within]
  split
  · rfl
  · split
    · rfl
    · split
      · rfl
      · rfl

theorem storeIn_same {off count : Nat} {after : AsnBitOutp}
    (ran : po.storeIn bits off count = .ok after) : after.op_key = po.op_key := by
  unfold storeIn at ran
  cases hfirst : po.octetAt po.buffer with
  | error stop =>
      rw [hfirst] at ran
      cases ran
  | ok first =>
      rw [hfirst] at ran
      simp only [bind, Except.bind] at ran
      split at ran
      · rw [← Except.ok.inj ran]
      · cases ran

theorem store_same {after : AsnBitOutp} (ran : po.store bits obits = .ok after) :
    after.op_key = po.op_key := by
  unfold store at ran
  simp only at ran
  split at ran
  · exact storeIn_same ran
  · split at ran
    · exact storeIn_same ran
    · split at ran
      · exact storeIn_same ran
      · exact storeIn_same ran

theorem store_clips (valid : po.Valid) (aligned : po.nboff < 8) (positive : 0 < obits)
    (inside : po.nboff + obits ≤ po.nbits) (small : po.nboff + obits ≤ 31)
    (roomy : po.op_key.left = none) : po.Clips fun po => po.store bits obits := by
  have grows : po.Grows (bitsOf obits bits) (po.store bits obits) :=
    store_grows valid aligned positive inside small
  cases hstore : po.store bits obits with
  | error stop =>
      rw [hstore] at grows
      have refused := grows.2
      rw [room_eq_none.mpr roomy] at refused
      cases refused
  | ok after =>
      refine clips_of_ok hstore (store_same hstore) roomy fun size => ?_
      rw [store_within, hstore]
      rfl

theorem flushed_bind_clips (valid : po.Valid) (small : obits ≤ 31) (roomy : po.op_key.left = none)
    {next : AsnBitOutp → Except Stop AsnBitOutp}
    (rest : ∀ middle : AsnBitOutp, middle.Valid → middle.nboff = po.nboff % 8 →
      middle.nboff + obits ≤ middle.nbits → middle.op_key.left = none → middle.Clips next) :
    po.Clips fun po => po.normalized.flushed obits >>= next := by
  have hflushed := flushed_clips valid.normalized (normalized_nboff_lt po) roomy obits
  refine hflushed.bind fun middle ran hleft => ?_
  rcases flushed_spec valid.normalized (normalized_nboff_lt po) small with
    ⟨hfailed, _⟩ | ⟨middle', hmiddle, hvalid, _, _, hnboff, hroom⟩
  · rw [ran] at hfailed
    cases hfailed
  · rw [ran] at hmiddle
    rw [← Except.ok.inj hmiddle] at hvalid hnboff hroom
    exact rest middle hvalid hnboff hroom hleft

theorem putWithin_clips (valid : po.Valid) (positive : 0 < obits)
    (small : po.nboff % 8 + obits ≤ 31) (roomy : po.op_key.left = none) :
    po.Clips fun po => po.putWithin bits obits := by
  apply flushed_bind_clips valid (by omega) roomy
  intro middle hvalid hnboff hroom hleft
  exact store_clips hvalid (by omega) positive hroom (by omega) hleft

end AsnBitOutp

open AsnBitOutp

theorem putFewBits_clips {po : AsnBitOutp} (valid : po.Valid) (roomy : po.op_key.left = none)
    (bits obits : Nat) : po.Clips fun po => putFewBits po bits obits := by
  unfold putFewBits
  by_cases empty : obits = 0
  · simp only [if_pos empty]
    exact clips_of_ok rfl rfl roomy fun size => rfl
  · by_cases many : obits ≥ 32
    · simp only [if_neg empty, if_pos many]
      exact ⟨fun size inside => rfl, .inl rfl⟩
    · simp only [if_neg empty, if_neg many]
      apply flushed_bind_clips valid (by omega) roomy
      intro middle hvalid hnboff hroom hleft
      by_cases within : middle.nboff + obits ≤ 31
      · have hstore : middle.Clips fun po => po.store bits obits :=
          store_clips hvalid (by omega) (by omega) hroom within hleft
        exact hstore.congr (if_pos within) fun size => if_pos within
      · have htwice : middle.Clips fun po => po.putWithin ((bits % 2 ^ obits) >>> (obits - 24)) 24 >>=
            fun po => po.putWithin (bits % 2 ^ obits) (obits - 24) := by
          refine Clips.bind (putWithin_clips hvalid (by decide) (by omega) hleft) ?_
          intro after ran hafter
          have hgrown : middle.Grows (bitsOf 24 ((bits % 2 ^ obits) >>> (obits - 24)))
              (middle.putWithin ((bits % 2 ^ obits) >>> (obits - 24)) 24) :=
            putWithin_grows hvalid (by decide) (by omega)
          rw [ran] at hgrown
          exact putWithin_clips hgrown.1 (by omega) (by omega) hafter
        exact htwice.congr (if_neg within) fun size => if_neg within

section

variable {Sent Result : Type}

def clip (size : Nat) (outcome : Sent × AsnBitOutp) : Except Stop (Sent × AsnBitOutp) :=
  (fun after => (outcome.1, after)) <$> outcome.2.clipped size

/-- The writer puts so many bits at most, and does the same with few octets, as long as they are
enough for it. -/
structure Bounded (put : Put Sent) (bits : Nat) : Prop where
  written : ∀ {before sent after}, before.Valid → put.run before = .ok (sent, after) →
    after.written.length ≤ before.written.length + bits
  within : ∀ {before size}, before.Valid → before.op_key.left = none →
    before.op_key.stored.length ≤ size → put.run (before.within size) = put.run before >>= clip size
  stores : ∀ {before sent after}, before.Valid → before.op_key.left = none →
    put.run before = .ok (sent, after) → before.op_key.stored.length ≤ after.op_key.stored.length

/-- What a writer may answer. -/
def Answers (put : Put Sent) (sent : Sent) : Prop :=
  ∃ before after, before.Valid ∧ put.run before = .ok (sent, after)

theorem run_failed {put : Put Sent} {before : AsnBitOutp} (valid : before.Valid) {stop : Stop}
    (ran : put.run before = .error stop) : stop = .failed := by
  cases stop with
  | failed => rfl
  | outside => exact absurd ran (put.never_fault valid)

theorem left_of_ran {put : Put Sent} {before after : AsnBitOutp} {sent : Sent}
    (valid : before.Valid) (roomy : before.op_key.left = none)
    (ran : put.run before = .ok (sent, after)) : after.op_key.left = none := by
  have hroom := (Action.kept_of_ok valid ran).2.2
  rw [room_eq_none.mpr roomy] at hroom
  exact room_eq_none.mp hroom

namespace Bounded

variable {put : Put Sent} {m n : Nat}

theorem mono (bounded : Bounded put m) (more : m ≤ n) : Bounded put n := by
  refine ⟨fun valid ran => ?_, bounded.within, bounded.stores⟩
  have hwritten := bounded.written valid ran
  omega

theorem pure (value : Sent) : Bounded (Pure.pure value) 0 := by
  refine ⟨fun _ ran => ?_, fun valid roomy inside => ?_, fun _ _ ran => ?_⟩
  · rcases Prod.mk.inj (Except.ok.inj ran) with ⟨_, rfl⟩
    exact le_rfl
  · change _ = (fun after => (value, after)) <$> clipped _ _
    rw [clipped, if_pos inside]
    rfl
  · rcases Prod.mk.inj (Except.ok.inj ran) with ⟨_, rfl⟩
    exact le_rfl

theorem fail (bits : Nat) : Bounded (Put.fail : Put Sent) bits :=
  ⟨fun _ ran => (by cases ran), fun _ _ _ => rfl, fun _ _ ran => (by cases ran)⟩

theorem bind_of {next : Sent → Put Result} (bounded : Bounded put m)
    (rest : ∀ sent, Answers put sent → Bounded (next sent) n) : Bounded (put >>= next) (m + n) := by
  constructor
  · intro before sent after valid ran
    rcases Action.run_bind_ok_iff.mp ran with ⟨value, middle, hput, hnext⟩
    have hmiddle := (Action.kept_of_ok valid hput).1
    have hfirst := bounded.written valid hput
    have hsecond := (rest value ⟨before, middle, valid, hput⟩).written hmiddle hnext
    omega
  · intro before size valid roomy inside
    have hwithin := bounded.within valid roomy inside
    cases hput : put.run before with
    | error stop =>
        rw [hput] at hwithin
        rw [Action.run_bind_of_error hput, Action.run_bind_of_error hwithin]
        rfl
    | ok outcome =>
        rcases outcome with ⟨value, middle⟩
        have hmiddle := (Action.kept_of_ok valid hput).1
        have hleft := left_of_ran valid roomy hput
        have hrest := rest value ⟨before, middle, valid, hput⟩
        rw [hput] at hwithin
        rw [Action.run_bind_of_ok hput]
        by_cases enough : middle.op_key.stored.length ≤ size
        · have hclip : put.run (before.within size) = .ok (value, middle.within size) := by
            rw [hwithin]
            change (fun after => (value, after)) <$> middle.clipped size = _
            rw [clipped, if_pos enough]
            rfl
          rw [Action.run_bind_of_ok hclip]
          exact hrest.within hmiddle hleft enough
        · have hclip : put.run (before.within size) = .error .failed := by
            rw [hwithin]
            change (fun after => (value, after)) <$> middle.clipped size = _
            rw [clipped, if_neg enough]
            rfl
          rw [Action.run_bind_of_error hclip]
          cases hnext : (next value).run middle with
          | error stop =>
              rw [run_failed hmiddle hnext]
              rfl
          | ok answer =>
              have hmore := hrest.stores hmiddle hleft hnext
              change _ = (fun after => (answer.1, after)) <$> answer.2.clipped size
              rw [clipped, if_neg (by omega)]
              rfl
  · intro before sent after valid roomy ran
    rcases Action.run_bind_ok_iff.mp ran with ⟨value, middle, hput, hnext⟩
    have hmiddle := (Action.kept_of_ok valid hput).1
    have hleft := left_of_ran valid roomy hput
    have hfirst := bounded.stores valid roomy hput
    exact hfirst.trans ((rest value ⟨before, middle, valid, hput⟩).stores hmiddle hleft hnext)

theorem bind {next : Sent → Put Result} (bounded : Bounded put m)
    (rest : ∀ sent, Bounded (next sent) n) : Bounded (put >>= next) (m + n) :=
  bounded.bind_of fun sent _ => rest sent

theorem outcome (result : Except Stop Sent) (other : result ≠ .error .outside) :
    Bounded (Action.outcome result other) 0 := by
  cases result with
  | ok value => exact Bounded.pure value
  | error stop =>
      have hfailed : stop = .failed := by
        cases stop with
        | failed => rfl
        | outside => exact absurd rfl other
      subst hfailed
      exact Bounded.fail 0

theorem reading {next : AsnBitOutp → Put Sent}
    (same : ∀ po size, next (AsnBitOutp.within po size) = next po)
    (each : ∀ po : AsnBitOutp, po.Valid → Bounded (next po) n) : Bounded (Action.reading next) n := by
  refine ⟨fun valid ran => (each _ valid).written valid ran, fun valid roomy inside => ?_,
    fun valid roomy ran => (each _ valid).stores valid roomy ran⟩
  have hwithin := (each _ valid).within valid roomy inside
  simp only [Action.reading, same]
  exact hwithin

end Bounded

theorem asnPutFewBits_bounded (bits obits : Nat) : Bounded (asnPutFewBits bits obits) obits := by
  constructor
  · intro before sent after valid ran
    by_cases small : obits ≤ 31
    · rw [(asnPutFewBits_writes bits small).written_eq valid ran, List.length_append, bitsOf_length]
    · have hfailed : (asnPutFewBits bits obits).run before = .error .failed := by
        change (fun after => ((), after)) <$> putFewBits before bits obits = _
        rw [putFewBits, if_neg (by omega), if_pos (by omega)]
        rfl
      rw [hfailed] at ran
      cases ran
  · intro before size valid roomy inside
    have hclips := (putFewBits_clips valid roomy bits obits).1 size inside
    change (fun after => ((), after)) <$> putFewBits _ bits obits =
      ((fun after => ((), after)) <$> putFewBits before bits obits) >>= clip size
    beta_reduce at hclips
    rw [hclips]
    cases putFewBits before bits obits with
    | error stop => rfl
    | ok after => rfl
  · intro before sent after valid roomy ran
    rcases (putFewBits_clips valid roomy bits obits).2 with hfailed | ⟨after', hput, _, hstored⟩
    · change (fun after => ((), after)) <$> putFewBits before bits obits = _ at ran
      beta_reduce at hfailed
      rw [hfailed] at ran
      cases ran
    · change (fun after => ((), after)) <$> putFewBits before bits obits = _ at ran
      beta_reduce at hput
      rw [hput] at ran
      rcases Prod.mk.inj (Except.ok.inj ran) with ⟨_, rfl⟩
      exact hstored

end

namespace AsnBitOutp

variable {po : AsnBitOutp}

theorem flushOutp_within {size : Nat} (valid : po.Valid) (roomy : po.op_key.left = none)
    (inside : po.op_key.stored.length ≤ size) :
    ∃ op_key, po.flushOutp = .ok op_key ∧ po.op_key.stored.length ≤ op_key.stored.length ∧
      (po.within size).flushOutp =
        if op_key.stored.length ≤ size then .ok (op_key.within size) else .error .failed := by
  unfold flushOutp
  by_cases nothing : po.nboff = 0 ∧ po.buffer = 0
  · rw [if_pos nothing]
    refine ⟨po.op_key, rfl, le_rfl, ?_⟩
    rw [if_pos inside]
    exact if_pos nothing
  · rcases pending_spec valid with ⟨buf, hbuf, _⟩
    have htake : po.op_key.take buf = .ok ⟨po.op_key.pieces ++ [buf], none⟩ := by
      rw [Output.take, roomy]
    rw [if_neg nothing, hbuf]
    refine ⟨_, htake, ?_, ?_⟩
    · rw [Output.stored_concat]
      exact (List.prefix_append _ _).length_le
    rw [← Output.take_within inside]
    exact (if_neg nothing).trans (congrArg (· >>= (po.op_key.within size).take) hbuf)

end AsnBitOutp

/-- A buffer that is given takes what another callback takes, where there is room for all of it. -/
theorem Bounded.aperEncodeToBuffer_eq {encode : Put Unit} {bits : Nat} (bounded : Bounded encode bits)
    (buffer_size : Nat) :
    aperEncodeToBuffer encode buffer_size = aperEncode encode none >>= fun outcome =>
      if outcome.1.stored.length ≤ buffer_size then .ok (outcome.1.stored, outcome.2)
      else .error .failed := by
  have hwithin : encode.run (.fresh (some buffer_size)) =
      encode.run (.fresh none) >>= clip buffer_size :=
    bounded.within (fresh_valid none) rfl (Nat.zero_le buffer_size)
  unfold aperEncodeToBuffer aperEncode
  rw [hwithin]
  cases hencode : encode.run (.fresh none) with
  | error stop => rfl
  | ok outcome =>
      rcases outcome with ⟨sent, after⟩
      have hvalid := (Action.kept_of_ok (fresh_valid none) hencode).1
      have hleft := left_of_ran (fresh_valid none) rfl hencode
      simp only [Bind.bind, Except.bind, Pure.pure, Except.pure, clip, clipped]
      by_cases enough : after.op_key.stored.length ≤ buffer_size
      · rcases flushOutp_within hvalid hleft enough with ⟨op_key, hflush, hstored, hflush'⟩
        simp only [if_pos enough, Functor.map, Except.map, hflush, hflush']
        by_cases fits : op_key.stored.length ≤ buffer_size
        · simp only [if_pos fits]
          rfl
        · simp only [if_neg fits]
      · rcases flushOutp_within hvalid hleft le_rfl with ⟨op_key, hflush, hstored, _⟩
        simp only [if_neg enough, Functor.map, Except.map, hflush]
        exact (if_neg (by omega)).symm

/-- Both ways to encode into a buffer that is given put the same octets into it, and want the same
room, of any value that takes bits. -/
theorem Bounded.agree {encode : Put Unit} {bits : Nat} (bounded : Bounded encode bits)
    (buffer_size : Nat) (stored : List UInt8) :
    (∃ encoded, 0 < encoded ∧ aperEncodeToBuffer encode buffer_size = .ok (stored, encoded)) ↔
      asnEncodeToBuffer encode buffer_size = .ok (some stored, stored.length) ∧
        aperEncodeToBuffer encode buffer_size ≠ .ok ([], 0) := by
  rw [bounded.aperEncodeToBuffer_eq, asnEncodeToBuffer_eq]
  cases hencode : aperEncode encode none with
  | error stop =>
      have hnone : aperEncodeToNewBuffer encode = .error stop := by
        rw [aperEncodeToNewBuffer, hencode]
        rfl
      rw [hnone]
      constructor
      · rintro ⟨_, _, impossible⟩
        cases impossible
      · rintro ⟨impossible, _⟩
        cases impossible
  | ok outcome =>
      rcases outcome with ⟨op_key, encoded⟩
      rcases stored_of_aperEncode hencode with ⟨hnew, hlength⟩
      rw [hnew]
      simp only [Bind.bind, Except.bind, Pure.pure, Except.pure]
      by_cases nothing : encoded = 0
      · have hempty : op_key.stored = [] := List.length_eq_zero_iff.mp (by omega)
        have hroom : ([] : List UInt8).length ≤ buffer_size := Nat.zero_le buffer_size
        rw [hempty, nothing, if_pos hroom]
        constructor
        · rintro ⟨count, positive, same⟩
          rcases Prod.mk.inj (Except.ok.inj same) with ⟨_, rfl⟩
          exact absurd positive (lt_irrefl 0)
        · rintro ⟨_, other⟩
          exact absurd rfl other
      · rw [if_neg nothing]
        by_cases enough : op_key.stored.length ≤ buffer_size
        · rw [if_pos enough, if_pos enough]
          constructor
          · rintro ⟨count, positive, same⟩
            rcases Prod.mk.inj (Except.ok.inj same) with ⟨rfl, rfl⟩
            exact ⟨rfl, fun none => nothing (Prod.mk.inj (Except.ok.inj none)).2⟩
          · rintro ⟨same, _⟩
            rw [Option.some.inj (Prod.mk.inj (Except.ok.inj same)).1]
            exact ⟨encoded, Nat.pos_of_ne_zero nothing, rfl⟩
        · rw [if_neg enough, if_neg enough]
          constructor
          · rintro ⟨_, _, impossible⟩
            cases impossible
          · rintro ⟨impossible, _⟩
            cases (Prod.mk.inj (Except.ok.inj impossible)).1

end NearRtRic.Asn1
