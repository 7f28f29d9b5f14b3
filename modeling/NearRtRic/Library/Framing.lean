import Mathlib.Tactic

/-! A stream that is received in chunks, and the buffers of at least a given size that are filled
from it. After the last chunk nothing more is received. -/

namespace NearRtRic.Framing

variable {Byte : Type} {size fuel : ℕ} {data buffer : List Byte}
variable {chunks later : List (List Byte)}

/-- The next chunk, and nothing for ever at the end of the stream. -/
def recv : List (List Byte) → List Byte × List (List Byte)
  | [] => ([], [])
  | chunk :: rest => (chunk, rest)

/-- The loop that receives until the data has the size. -/
def fill (size : ℕ) : ℕ → List Byte → List (List Byte) → Option (List Byte × List (List Byte))
  | 0, _, _ => none
  | fuel + 1, data, chunks =>
      if size ≤ data.length then some (data, chunks)
      else fill size fuel (data ++ (recv chunks).1) (recv chunks).2

/-- The buffer that the loop fills, where the stream has enough for it. -/
def frame (size : ℕ) : List Byte → List (List Byte) → Option (List Byte × List (List Byte))
  | data, [] => if size ≤ data.length then some (data, []) else none
  | data, chunk :: rest =>
      if size ≤ data.length then some (data, chunk :: rest) else frame size (data ++ chunk) rest

theorem frame_of_le (enough : size ≤ data.length) (chunks : List (List Byte)) :
    frame size data chunks = some (data, chunks) := by
  cases chunks with
  | nil => exact if_pos enough
  | cons chunk rest => exact if_pos enough

theorem frame_of_lt (short : ¬ size ≤ data.length) (chunk : List Byte) (rest : List (List Byte)) :
    frame size data (chunk :: rest) = frame size (data ++ chunk) rest :=
  if_neg short

theorem fill_sound {answer : List Byte × List (List Byte)}
    (run : fill size fuel data chunks = some answer) : frame size data chunks = some answer := by
  induction fuel generalizing data chunks with
  | zero => cases run
  | succ fuel ih =>
      rw [fill] at run
      by_cases enough : size ≤ data.length
      · rw [if_pos enough] at run
        rw [frame_of_le enough, run]
      · rw [if_neg enough] at run
        cases chunks with
        | nil =>
            have again := ih run
            rwa [recv, List.append_nil] at again
        | cons chunk rest =>
            rw [frame_of_lt enough]
            exact ih run

theorem fill_complete {answer : List Byte × List (List Byte)}
    (framed : frame size data chunks = some answer) (enough : chunks.length < fuel) :
    fill size fuel data chunks = some answer := by
  induction fuel generalizing data chunks with
  | zero => cases enough
  | succ fuel ih =>
      rw [fill]
      by_cases filled : size ≤ data.length
      · rw [if_pos filled, ← framed, frame_of_le filled]
      · rw [if_neg filled]
        cases chunks with
        | nil =>
            rw [frame, if_neg filled] at framed
            cases framed
        | cons chunk rest =>
            rw [frame_of_lt filled] at framed
            rw [List.length_cons] at enough
            exact ih framed (Nat.lt_of_succ_lt_succ enough)

/-- The buffers that a stream fills behind what is pending. -/
def frames (size : ℕ) : List Byte → List (List Byte) → List (List Byte)
  | _, [] => []
  | pending, chunk :: rest =>
      if size ≤ (pending ++ chunk).length then (pending ++ chunk) :: frames size [] rest
      else frames size (pending ++ chunk) rest

/-- What is pending at its end. -/
def leftover (size : ℕ) : List Byte → List (List Byte) → List Byte
  | pending, [] => pending
  | pending, chunk :: rest =>
      if size ≤ (pending ++ chunk).length then leftover size [] rest
      else leftover size (pending ++ chunk) rest

theorem frame_suffix (framed : frame size data chunks = some (buffer, later)) :
    later <:+ chunks := by
  induction chunks generalizing data with
  | nil =>
      rw [frame] at framed
      split at framed
      · cases framed
        exact List.suffix_refl []
      · cases framed
  | cons chunk rest ih =>
      by_cases enough : size ≤ data.length
      · rw [frame_of_le enough, Option.some.injEq, Prod.mk.injEq] at framed
        rw [framed.2]
      · rw [frame_of_lt enough] at framed
        exact (ih framed).trans (List.suffix_cons chunk rest)

theorem frames_of_frame {pending chunk : List Byte} {rest : List (List Byte)}
    (framed : frame size (pending ++ chunk) rest = some (buffer, later)) :
    frames size pending (chunk :: rest) = buffer :: frames size [] later ∧
      leftover size pending (chunk :: rest) = leftover size [] later := by
  induction rest generalizing pending chunk with
  | nil =>
      rw [frame] at framed
      split at framed
      · next enough =>
          cases framed
          exact ⟨if_pos enough, if_pos enough⟩
      · cases framed
  | cons next rest ih =>
      by_cases enough : size ≤ (pending ++ chunk).length
      · rw [frame_of_le enough, Option.some.injEq, Prod.mk.injEq] at framed
        rcases framed with ⟨rfl, rfl⟩
        exact ⟨if_pos enough, if_pos enough⟩
      · rw [frame_of_lt enough] at framed
        have fewer := ih framed
        rw [frames, leftover, if_neg enough, if_neg enough]
        exact fewer

theorem frames_of_none {pending chunk : List Byte} {rest : List (List Byte)}
    (framed : frame size (pending ++ chunk) rest = none) :
    frames size pending (chunk :: rest) = [] ∧
      leftover size pending (chunk :: rest) = pending ++ chunk ++ rest.flatten := by
  induction rest generalizing pending chunk with
  | nil =>
      rw [frame] at framed
      split at framed
      · cases framed
      · next short =>
          rw [frames, leftover, if_neg short, if_neg short, List.flatten_nil, List.append_nil]
          exact ⟨rfl, rfl⟩
  | cons next rest ih =>
      by_cases enough : size ≤ (pending ++ chunk).length
      · rw [frame_of_le enough] at framed
        cases framed
      · rw [frame_of_lt enough] at framed
        rw [frames, leftover, if_neg enough, if_neg enough, List.flatten_cons, ← List.append_assoc]
        exact ih framed

end NearRtRic.Framing
