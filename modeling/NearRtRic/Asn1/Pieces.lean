import Mathlib.Tactic
import NearRtRic.Asn1.PerSupport

/-! What is longer than a length determinant can tell goes out in pieces, each with its own. -/

namespace NearRtRic.Asn1

open Bits Transmission

variable {Item : Type}

/-- The loops that encode what a length is left of; each round leaves less. -/
def putPieces (putPiece : List Item → Put Unit) : Nat → List Item → Put Unit
  | 0, _ => pure ()
  | rounds + 1, items =>
      if items.isEmpty then pure ()
      else do
        let amount ← aperPutLength (-1) items.length
        putPiece (items.take amount)
        putPieces putPiece rounds (items.drop amount)

/-- The loops `do ... while(repeat)`; each round takes a length, of at least one bit. -/
def getPieces (getLength : Get (Nat × Bool)) (getPiece : Nat → Get (List Item)) :
    Nat → Get (List Item)
  | 0 => Get.fail
  | rounds + 1 => do
      let (length, again) ← getLength
      let items ← getPiece length
      if again then do
        let rest ← getPieces getLength getPiece rounds
        pure (items ++ rest)
      else pure items

/-- The last piece is not a multiple of 16K, so that the reader does not wait for another one. -/
def Ends (length : Nat) : Prop :=
  length % 16384 ≠ 0

instance (length : Nat) : Decidable (Ends length) :=
  inferInstanceAs (Decidable (_ ≠ _))

variable {putPiece : List Item → Put Unit} {getPiece : Nat → Get (List Item)} {Fits : Item → Prop}

theorem mayEncode_pos {length : Nat} (positive : 0 < length) : 0 < mayEncode length := by
  unfold mayEncode
  split
  · exact positive
  · omega

theorem putPieces_nil (rounds : Nat) : putPieces putPiece rounds [] = pure () := by
  cases rounds with
  | zero => rfl
  | succ rounds => rfl

theorem pieces_convey
    (each : ∀ items : List Item, (∀ item ∈ items, Fits item) →
      Conveys (putPiece items) (getPiece items.length) fun _ got => got = items)
    {items : List Item} (fit : ∀ item ∈ items, Fits item) (ends : Ends items.length) :
    ∀ rounds fuel, items.length ≤ rounds → items.length / 16384 < fuel →
      Conveys (putPieces putPiece rounds items) (getPieces (aperGetLength (-1) (-1)) getPiece fuel)
        fun _ got => got = items := by
  intro rounds
  induction rounds generalizing items with
  | zero =>
      intro fuel short _
      have hlength : items.length = 0 := by omega
      rw [Ends, hlength] at ends
      exact absurd rfl ends
  | succ rounds ih =>
      intro fuel short enough
      have hlength : items.length ≠ 0 := by
        intro empty
        rw [Ends, empty] at ends
        exact ends rfl
      have hsome : items.isEmpty = false := by
        rw [List.isEmpty_eq_false_iff]
        exact fun empty => hlength (by rw [empty]; rfl)
      rcases fuel with _ | fuel
      · omega
      unfold putPieces getPieces
      rw [if_neg (by rw [hsome]; decide)]
      apply (aperLength_conveys items.length).bind
      intro sent got same
      rcases same with ⟨hsent, rfl⟩
      have hamount := mayEncode_le items.length
      have htake : (items.take sent).length = mayEncode items.length := by
        rw [List.length_take, hsent, Nat.min_eq_left hamount]
      have hpiece := each (items.take sent) fun item taken => fit item (List.mem_of_mem_take taken)
      rw [htake] at hpiece
      apply hpiece.bind
      intro _ piece taken
      by_cases again : 16384 ≤ items.length
      · have hrest : (items.drop sent).length = items.length - mayEncode items.length := by
          rw [List.length_drop, hsent]
        have hpieces : mayEncode items.length = min (items.length / 16384) 4 * 16384 :=
          if_neg (by omega)
        have hends : Ends (items.drop sent).length := by
          unfold Ends at ends ⊢
          omega
        have hagain : decide (16384 ≤ items.length) = true := decide_eq_true again
        rw [hagain]
        have hfit : ∀ item ∈ items.drop sent, Fits item :=
          fun item left => fit item (List.mem_of_mem_drop left)
        refine (ih hfit hends fuel (by omega) (by omega)).mapping ?_
        intro _ rest hrest
        rw [taken, hrest, List.take_append_drop]
      · have hwhole : mayEncode items.length = items.length := if_pos (by omega)
        have hagain : decide (16384 ≤ items.length) = false := decide_eq_false again
        have hnone : items.drop sent = [] := by
          rw [hsent, hwhole, List.drop_length]
        rw [hagain, hnone, putPieces_nil]
        apply Conveys.pure
        rw [taken, hsent, hwhole, List.take_length]

theorem putPieces_grows {rounds : Nat} {items : List Item} {before after : AsnBitOutp} {sent : Unit}
    (positive : items ≠ []) (enough : items.length ≤ rounds) (valid : before.Valid)
    (run : (putPieces putPiece rounds items).run before = .ok (sent, after)) :
    before.written.length + (items.length / 16384 + 1) ≤ after.written.length := by
  induction rounds generalizing items before with
  | zero => exact absurd (List.length_eq_zero_iff.mp (by omega)) positive
  | succ rounds ih =>
      unfold putPieces at run
      rw [if_neg (by simpa using positive)] at run
      rcases Action.run_bind_ok_iff.mp run with ⟨amount, first, hlength, hrest⟩
      rcases Action.run_bind_ok_iff.mp hrest with ⟨_, second, hpiece, hpieces⟩
      have hfirst := Action.kept_of_ok valid hlength
      have hsecond := Action.kept_of_ok hfirst.1 hpiece
      rcases aperPutLength_grows valid hlength with ⟨hamount, hgrown⟩
      have hprefix := hsecond.2.1.length_le
      have hlonger := (Action.kept_of_ok hsecond.1 hpieces).2.1.length_le
      change first.written.length ≤ second.written.length at hprefix
      change second.written.length ≤ after.written.length at hlonger
      by_cases last : items.drop amount.val = []
      · have hlast : items.length ≤ amount.val := List.drop_eq_nil_iff.mp last
        rw [hamount] at hlast
        unfold mayEncode at hlast
        split at hlast
        · omega
        · omega
      · have hlengths : items.length ≠ 0 := fun empty => positive (List.length_eq_zero_iff.mp empty)
        have hpositive := mayEncode_pos (Nat.pos_of_ne_zero hlengths)
        have hdrop : (items.drop amount.val).length = items.length - amount.val := List.length_drop
        have hmore := ih last (by omega) hsecond.1 hpieces
        rw [hdrop] at hmore
        unfold mayEncode at hamount
        split at hamount
        · omega
        · omega

def putAll (putPiece : List Item → Put Unit) (items : List Item) : Put Unit :=
  putPieces putPiece items.length items

/-- A round takes bits, so there are not more rounds than bits. -/
def getAll (getLength : Get (Nat × Bool)) (getPiece : Nat → Get (List Item)) : Get (List Item) :=
  Action.reading fun pd => getPieces getLength getPiece pd.nbits

theorem left_length_le {pd : AsnBitData} (valid : pd.Valid) : pd.left.length ≤ pd.nbits := by
  rw [AsnBitData.left_length valid]
  exact Nat.sub_le _ _

theorem all_convey
    (each : ∀ items : List Item, (∀ item ∈ items, Fits item) →
      Conveys (putPiece items) (getPiece items.length) fun _ got => got = items)
    {items : List Item} (fit : ∀ item ∈ items, Fits item) (ends : Ends items.length) :
    Conveys (putAll putPiece items) (getAll (aperGetLength (-1) (-1)) getPiece) fun _ got => got = items := by
  have hsome : items ≠ [] := by
    intro empty
    rw [empty] at ends
    exact ends rfl
  refine Conveys.looping (fun _ valid => left_length_le valid)
    (fun fuel enough => pieces_convey each fit ends items.length fuel le_rfl enough) ?_
  intro before sent after valid run
  exact putPieces_grows hsome le_rfl valid run

theorem aperGetLength_exhausted {pd : AsnBitData} (valid : pd.Valid) (exhausted : pd.left = []) :
    (aperGetLength (-1) (-1)).run pd = .error .failed := by
  have hfew : ∀ nbits, 0 < nbits → getFewBits pd nbits = .error .failed := by
    intro nbits positive
    exact getFewBits_failed (by rw [exhausted]; exact positive) valid
  by_cases aligned : pd.nboff % 8 = 0
  · have halign : aperGetAlign.run pd = .ok (0, pd) := by
      simp only [aperGetAlign, Action.reading, if_pos aligned]
      rfl
    have hlength : (aperGetLength (-1) (-1)).run pd = getDeterminant.run pd :=
      Action.run_bind_of_ok halign
    rw [hlength]
    exact Action.run_bind_of_error (hfew 8 (by decide))
  · apply Action.run_bind_of_error
    simp only [aperGetAlign, Action.reading, if_neg aligned]
    exact hfew _ (by omega)

theorem getPieces_exhausted {pd : AsnBitData} (valid : pd.Valid) (exhausted : pd.left = [])
    (fuel : Nat) : (getPieces (aperGetLength (-1) (-1)) getPiece fuel).run pd = .error .failed := by
  cases fuel with
  | zero => rfl
  | succ fuel => exact Action.run_bind_of_error (aperGetLength_exhausted valid exhausted)

/-- Behind pieces that are all multiples of 16K the reader wants another one. -/
theorem getPieces_lost
    (each : ∀ items : List Item, (∀ item ∈ items, Fits item) →
      Conveys (putPiece items) (getPiece items.length) fun _ got => got = items)
    {rounds : Nat} {items : List Item} (fit : ∀ item ∈ items, Fits item) (lost : ¬Ends items.length)
    (enough : items.length ≤ rounds) {fuel : Nat} {before after : AsnBitOutp} {sent : Unit}
    {pd : AsnBitData} (valid : before.Valid)
    (run : (putPieces putPiece rounds items).run before = .ok (sent, after))
    (faces : Faces before after pd []) :
    (getPieces (aperGetLength (-1) (-1)) getPiece fuel).run pd = .error .failed := by
  induction rounds generalizing items before pd fuel with
  | zero =>
      rcases Prod.mk.inj (Except.ok.inj run) with ⟨_, rfl⟩
      exact getPieces_exhausted faces.valid (List.append_cancel_left faces.left) fuel
  | succ rounds ih =>
      by_cases empty : items = []
      · rw [empty, putPieces_nil] at run
        rcases Prod.mk.inj (Except.ok.inj run) with ⟨_, rfl⟩
        exact getPieces_exhausted faces.valid (List.append_cancel_left faces.left) fuel
      have hlengths : items.length ≠ 0 := fun none => empty (List.length_eq_zero_iff.mp none)
      have hmany : 16384 ≤ items.length := by
        unfold Ends at lost
        omega
      rcases fuel with _ | fuel
      · rfl
      unfold putPieces at run
      rw [if_neg (by simpa using empty)] at run
      rcases Action.run_bind_ok_iff.mp run with ⟨amount, first, hlength, hrest⟩
      rcases Action.run_bind_ok_iff.mp hrest with ⟨_, second, hpiece, hpieces⟩
      have hfirst := Action.kept_of_ok valid hlength
      have hsecond := Action.kept_of_ok hfirst.1 hpiece
      have hlast := Action.kept_of_ok hsecond.1 hpieces
      rcases (aperLength_conveys items.length).step valid hlength
        (Device.trans hsecond.2 hlast.2) faces with ⟨got, pd', hget, hfaces, hamount, rfl⟩
      have hle := amount.property
      have htake : (items.take amount).length = mayEncode items.length := by
        rw [List.length_take, Nat.min_eq_left hle, hamount]
      have heach := each (items.take amount) fun item taken => fit item (List.mem_of_mem_take taken)
      rw [htake] at heach
      rcases heach.step hfirst.1 hpiece hlast.2 hfaces with ⟨piece, pd'', hgot, hfaces', htaken⟩
      have hpieces' : mayEncode items.length = min (items.length / 16384) 4 * 16384 :=
        if_neg (by omega)
      have hdrop : (items.drop amount).length = items.length - amount := List.length_drop
      have hlost : ¬Ends (items.drop amount).length := by
        unfold Ends at lost ⊢
        omega
      have hagain : decide (16384 ≤ items.length) = true := decide_eq_true hmany
      have hmore : (getPieces (aperGetLength (-1) (-1)) getPiece fuel).run pd'' = .error .failed :=
        ih (fun item left => fit item (List.mem_of_mem_drop left)) hlost (by omega) hsecond.1 hpieces
          hfaces'
      rw [getPieces, Action.run_bind_of_ok hget, hagain]
      change (getPiece (mayEncode items.length) >>= _).run pd' = _
      rw [Action.run_bind_of_ok hgot]
      exact Action.run_bind_of_error hmore

theorem all_lost
    (each : ∀ items : List Item, (∀ item ∈ items, Fits item) →
      Conveys (putPiece items) (getPiece items.length) fun _ got => got = items)
    {items : List Item} (fit : ∀ item ∈ items, Fits item) (lost : ¬Ends items.length) {Got : Type}
    {next : List Item → Get Got} {Post : Unit → Got → Prop} :
    ¬Conveys (putAll putPiece items) (getAll (aperGetLength (-1) (-1)) getPiece >>= next) Post := by
  intro conveys
  rcases conveys.writes (.fresh none) (fresh_valid none) rfl with ⟨sent, after, hput, _⟩
  rcases (Conveys.faced (fresh_valid none) hput : ∃ reader : AsnBitData, _) with ⟨pd, faces⟩
  rcases conveys.reads _ sent after (fresh_valid none) hput pd [] faces with ⟨got, pd', hget, _⟩
  have hlost : (getAll (aperGetLength (-1) (-1)) getPiece).run pd = .error .failed :=
    getPieces_lost each fit lost le_rfl (fresh_valid none) hput faces
  rw [Action.run_bind_of_error hlost] at hget
  cases hget

end NearRtRic.Asn1
