import Mathlib.Data.List.Basic
import PlainTerminal.Capture

/-!
# What is captured of a stream

A capture stops reading at the first piece that does not fit, so of a stream that delivers too much
it never sees the end. It need not: what it keeps by then is the beginning of all that the stream
would have delivered, and that there is more than the limit allows was told by that one piece.

The invariant is `Holds`, which compares a capture with everything that it was given. A piece keeps
it, and when the capture is full it holds of anything more as well, which is why reading may stop
early. So it does not matter how a stream is cut into pieces, and a stream that delivers exactly as
much as the limit allows is no exception.
-/

namespace PlainTerminal.Capture

variable {c : Capture} {limit : Nat} {data : List UInt8}

/-- The capture was given `data`: it has kept as much of it as the limit allows, and tells whether
there was more. -/
structure Holds (c : Capture) (limit : Nat) (data : List UInt8) : Prop where
  bytes : c.bytes = data.take limit
  room : c.room = limit - data.length
  isOverfull : c.isOverfull = true ↔ limit < data.length

theorem holds_start (limit : Nat) : (start limit).Holds limit [] where
  bytes := List.take_nil.symm
  room := rfl
  isOverfull := iff_of_false nofun (Nat.not_lt_zero limit)

/-! ## One piece -/

theorem Holds.length_le (h : c.Holds limit data) (hroom : c.isOverfull = false) :
    data.length ≤ limit := by
  by_contra hlong
  rw [h.isOverfull.mpr (Nat.lt_of_not_le hlong)] at hroom
  cases hroom

/-- Beyond the limit nothing counts any more. -/
theorem Holds.append_of_isOverfull (h : c.Holds limit data) (hfull : c.isOverfull = true)
    (more : List UInt8) : c.Holds limit (data ++ more) := by
  have hlong : limit < data.length := h.isOverfull.mp hfull
  have hlonger : data.length ≤ (data ++ more).length := by
    rw [List.length_append]
    exact Nat.le_add_right _ _
  refine ⟨?_, ?_, iff_of_true hfull (Nat.lt_of_lt_of_le hlong hlonger)⟩
  · rw [h.bytes, List.take_append_of_le_length (Nat.le_of_lt hlong)]
  · rw [h.room]
    omega

theorem absorb_of_isOverfull (hfull : c.isOverfull = true) (piece : List UInt8) :
    c.absorb piece = c := by
  rw [absorb, hfull, if_pos rfl]

theorem absorb_of_room (hroom : c.isOverfull = false) (piece : List UInt8) :
    c.absorb piece =
      { room := c.room - piece.length
        pieces := piece.take c.room :: c.pieces
        isOverfull := decide (c.room < piece.length) } := by
  rw [absorb, hroom, if_neg Bool.false_ne_true]

theorem bytes_absorb (hroom : c.isOverfull = false) (piece : List UInt8) :
    (c.absorb piece).bytes = c.bytes ++ piece.take c.room := by
  rw [absorb_of_room hroom, bytes, bytes, List.reverse_cons, List.flatten_append,
    List.flatten_singleton]

/-- A piece is kept as far as there is room, and there is too much of it if it does not fit. -/
theorem Holds.absorb (h : c.Holds limit data) (piece : List UInt8) :
    (c.absorb piece).Holds limit (data ++ piece) := by
  cases hfull : c.isOverfull with
  | true =>
      rw [absorb_of_isOverfull hfull]
      exact h.append_of_isOverfull hfull piece
  | false =>
      -- All was kept so far, so the room is exactly what the limit leaves after it.
      have hfits : data.length ≤ limit := h.length_le hfull
      refine ⟨?_, ?_, ?_⟩
      · rw [bytes_absorb hfull, h.bytes, h.room, List.take_append]
      · rw [absorb_of_room hfull, h.room, List.length_append, Nat.sub_sub]
      · rw [absorb_of_room hfull, decide_eq_true_iff, h.room, List.length_append]
        omega

/-! ## A whole stream -/

/-- The bytes of a reading; a failure has none. -/
def Reading.piece : Reading → List UInt8
  | .bytes piece => piece
  | .failed => []

/-- There is something in the reading; otherwise the stream has ended or cannot be read. -/
def Reading.goesOn (reading : Reading) : Bool := !reading.piece.isEmpty

/-- What a stream delivers before it ends or cannot be read. -/
def delivered (readings : List Reading) : List UInt8 :=
  (readings.takeWhile Reading.goesOn).flatMap Reading.piece

theorem delivered_of_end {reading : Reading} (h : reading.goesOn = false) (rest : List Reading) :
    delivered (reading :: rest) = [] := by
  rw [delivered, List.takeWhile_cons_of_neg (Bool.eq_false_iff.mp h), List.flatMap_nil]

theorem delivered_cons {reading : Reading} (h : reading.goesOn = true) (rest : List Reading) :
    delivered (reading :: rest) = reading.piece ++ delivered rest := by
  rw [delivered, List.takeWhile_cons_of_pos h, List.flatMap_cons, delivered]

/-- Reading a stream comes to having been given all that it delivers. -/
theorem Holds.drain (h : c.Holds limit data) (readings : List Reading) :
    (c.drain readings).Holds limit (data ++ delivered readings) := by
  induction readings generalizing c data with
  | nil => rwa [delivered, List.takeWhile_nil, List.flatMap_nil, List.append_nil]
  | cons reading rest ih =>
      cases reading with
      | failed => rwa [delivered_of_end rfl, List.append_nil]
      | bytes piece =>
          cases piece with
          | nil => rwa [delivered_of_end rfl, List.append_nil]
          | cons byte piece =>
              have hpiece := h.absorb (byte :: piece)
              rw [delivered_cons rfl, ← List.append_assoc, Capture.drain]
              split
              · -- What is not read any more would change nothing.
                exact hpiece.append_of_isOverfull ‹_› _
              · exact ih hpiece

/-- **A capture is exact at its limit.** However a stream is cut into pieces, and whether it ends or
fails, what is kept is the beginning of what it delivers, up to the limit; and it has gone beyond the
limit exactly if it delivers more. -/
theorem drain_captures_exactly (limit : Nat) (readings : List Reading) :
    ((start limit).drain readings).bytes
        = (delivered readings).take (min limit (delivered readings).length) ∧
      (((start limit).drain readings).isOverfull = true ↔ limit < (delivered readings).length) := by
  have hholds := (holds_start limit).drain readings
  rw [List.nil_append] at hholds
  refine ⟨?_, hholds.isOverfull⟩
  rw [hholds.bytes]
  exact List.take_eq_take_min

end PlainTerminal.Capture
