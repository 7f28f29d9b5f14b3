import Mathlib.Tactic
import NearRtRic.Library.Framing

/-! The loops of the two E2-like xApps: a connection from its acceptance to the next one. -/

namespace NearRtRic.E2like

open Framing

inductive XApp where
  | ic
  | ml
  deriving DecidableEq

inductive IcResult where
  | soi
  | soiCwi
  | soiCi

inductive MlResult where
  | fiveG
  | lte
  | interference

namespace XApp

/-- `SPEC_SIZE` and `spectrogram_size`: the sampling rate, the time and 8 bytes for a sample. -/
def spectrogramSize : XApp → ℕ
  | .ic => 7680000 * 10 / 1000 * 8
  | .ml => 15360000 * 5 / 1000 * 8

/-- What the prediction returns; for `app.py` it may be `None`. -/
abbrev Result : XApp → Type
  | .ic => IcResult
  | .ml => Option MlResult

def command : (app : XApp) → app.Result → Option Char
  | .ic, .soiCi => some '1'
  | .ic, .soiCwi => some '1'
  | .ic, .soi => some '0'
  | .ml, some .interference => some 'm'
  | .ml, some .fiveG => some 'z'
  | .ml, some .lte => some 'z'
  | .ml, none => none

end XApp

def find (marker : List UInt8) : List UInt8 → Option ℕ
  | [] => none
  | byte :: rest =>
      if marker.isPrefixOf (byte :: rest) then some 0 else (find marker rest).map (· + 1)

def marker : List UInt8 := List.replicate 6 0x5f

def decodes (bytes : List UInt8) : Bool := (ByteArray.mk bytes.toArray).validateUTF8

/-- The line that is logged of a buffer: `ic.py` decodes what is before the marker. -/
def XApp.logs : XApp → List UInt8 → Bool
  | .ic, data => (find marker data).all fun index => decodes (data.take index)
  | .ml, _ => true

def wholeSamples (data : List UInt8) : Bool := data.length % 8 == 0

abbrev Chunk := { chunk : List UInt8 // chunk ≠ [] ∧ chunk.length ≤ 16384 }

/-- A connection: the chunks before the peer closes it, the sends that raise `OSError`, the
iterations in its first second, and the result of the prediction in an iteration. -/
structure Connection (app : XApp) where
  chunks : List Chunk
  sendFails : ℕ → Bool
  early : ℕ → Bool
  result : ℕ → app.Result

namespace Connection

variable {app : XApp} (connection : Connection app)

def stream : List (List UInt8) := connection.chunks.map Subtype.val

/-- Whether an iteration starts with a request: in `ic.py` in the first second only. -/
def requests : {app : XApp} → Connection app → ℕ → Bool
  | .ic, connection, iteration => connection.early iteration
  | .ml, _, _ => true

def commands (iteration : ℕ) : Bool := (app.command (connection.result iteration)).isSome

end Connection

/-- The variables of the inner loop; `handed` are the buffers for `iq_to_spectrogram`. -/
structure Session where
  iteration : ℕ := 0
  sends : ℕ := 0
  chunks : List (List UInt8)
  handed : List (List UInt8) := []

/-- The `OSError` that leads back to `accept`, or an exception that nothing catches. -/
inductive Outcome where
  | accepts (handed : List (List UInt8))
  | raises (handed : List (List UInt8))

/-- A turn of the loop, which waits where its own loop has not ended. -/
inductive Turn where
  | next (session : Session)
  | ends (outcome : Outcome)
  | waits

section Loops

variable {app : XApp} (connection : Connection app)

def handle (session : Session) (data : List UInt8) (chunks : List (List UInt8)) : Turn :=
  if !app.logs data then .ends (.raises session.handed)
  else if !wholeSamples data then .ends (.raises (session.handed ++ [data]))
  else if connection.commands session.iteration && connection.sendFails session.sends then
    .ends (.accepts (session.handed ++ [data]))
  else
    .next
      { iteration := session.iteration + 1
        sends := session.sends + (connection.commands session.iteration).toNat
        chunks := chunks
        handed := session.handed ++ [data] }

def receive (fuel : ℕ) (session : Session) : Turn :=
  let data := (recv session.chunks).1
  let chunks := (recv session.chunks).2
  if data = [] then .next { session with iteration := session.iteration + 1, chunks := chunks }
  else
    match fill app.spectrogramSize fuel data chunks with
    | none => .waits
    | some filled => handle connection session filled.1 filled.2

def requestRaises (session : Session) : Bool :=
  connection.requests session.iteration && connection.sendFails session.sends

def afterRequest (session : Session) : Session :=
  { session with sends := session.sends + (connection.requests session.iteration).toNat }

def turn (fuel : ℕ) (session : Session) : Turn :=
  if requestRaises connection session then .ends (.accepts session.handed)
  else receive connection fuel (afterRequest connection session)

def serve : ℕ → Session → Option Outcome
  | 0, _ => none
  | fuel + 1, session =>
      match turn connection fuel session with
      | .next session => serve fuel session
      | .ends outcome => some outcome
      | .waits => none

end Loops

end NearRtRic.E2like
