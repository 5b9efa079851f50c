import PlainTerminal.Text.Utf8

/-!
# Captured output

What a command prints on one stream is read piece by piece and kept up to a limit. Pieces that fit
are kept whole; the first one that does not fit is cut at the limit, and nothing is read after it. A
stream that prints exactly as much as the limit allows has not gone beyond it. Reading also stops
where the stream ends or cannot be read.
-/

namespace PlainTerminal

/-- What has been read of a stream: how much more may be kept, the pieces kept, last one first, and
whether there was more than the limit allows. -/
structure Capture where
  room : Nat
  pieces : List (List UInt8) := []
  isOverfull : Bool := false
deriving DecidableEq, Repr

namespace Capture

/-- What one attempt to read a stream gives: bytes, none of them when the stream has ended, or a
failure. -/
inductive Reading where
  | bytes (piece : List UInt8)
  | failed
deriving DecidableEq, Repr

/-- The most bytes that one attempt gives. -/
def readSize : Nat := 8192

/-- The readings that come of bytes written to a stream. -/
def readings (written : List UInt8) : List Reading :=
  if written = [] then []
  else .bytes (written.take readSize) :: readings (written.drop readSize)
termination_by written.length
decreasing_by
  rename_i hne
  have hpos := List.length_pos_iff.mpr hne
  rw [List.length_drop, readSize]
  omega

/-- Nothing has been read. -/
def start (limit : Nat) : Capture := { room := limit }

/-- Reads one more piece. -/
def absorb (c : Capture) (piece : List UInt8) : Capture :=
  if c.isOverfull then c
  else
    { room := c.room - piece.length
      pieces := piece.take c.room :: c.pieces
      isOverfull := decide (c.room < piece.length) }

/-- Reads until the stream ends, cannot be read or goes beyond the limit. -/
def drain (c : Capture) : List Reading → Capture
  | [] | .failed :: _ | .bytes [] :: _ => c
  | .bytes (byte :: piece) :: rest =>
    let c := c.absorb (byte :: piece)
    if c.isOverfull then c else c.drain rest

/-- The bytes that were kept. -/
def bytes (c : Capture) : List UInt8 := c.pieces.reverse.flatten

/-- What was kept, as text. -/
def text (c : Capture) : String := Text.Utf8.decodeLossy c.bytes

end Capture

end PlainTerminal
