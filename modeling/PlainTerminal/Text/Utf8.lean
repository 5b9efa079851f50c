/-!
# Bytes as text

Output of a program is a string of bytes that need not be text. `decodeLossy` reads it as UTF-8
and puts U+FFFD for every maximal piece that no character begins with: a stray byte on its own, or
the bytes of a character that breaks off. Reading is one pass over the bytes with the character
under construction as its state.
-/

namespace PlainTerminal.Text.Utf8

/-- A character of which some bytes are still to come: the bits read so far, the number of bytes
missing, and the closed range in which the next byte has to lie. -/
structure Partial where
  bits : Nat
  missing : Nat
  lo : Nat
  hi : Nat

/-- The state of the reader: an unfinished character, and the characters read, last one first. -/
structure Reader where
  pending : Option Partial
  read : List Char

/-- Stands for bytes that are no character. -/
def replacement : Char := Char.ofNat 0xfffd

/-- Reads a byte at which a character has to begin. -/
def Reader.start (r : List Char) (b : Nat) : Reader :=
  if b < 0x80 then ⟨none, Char.ofNat b :: r⟩
  else if 0xc2 ≤ b && b ≤ 0xdf then ⟨some ⟨b - 0xc0, 1, 0x80, 0xbf⟩, r⟩
  else if b = 0xe0 then ⟨some ⟨0, 2, 0xa0, 0xbf⟩, r⟩
  else if b = 0xed then ⟨some ⟨0xd, 2, 0x80, 0x9f⟩, r⟩
  else if 0xe1 ≤ b && b ≤ 0xef then ⟨some ⟨b - 0xe0, 2, 0x80, 0xbf⟩, r⟩
  else if b = 0xf0 then ⟨some ⟨0, 3, 0x90, 0xbf⟩, r⟩
  else if 0xf1 ≤ b && b ≤ 0xf3 then ⟨some ⟨b - 0xf0, 3, 0x80, 0xbf⟩, r⟩
  else if b = 0xf4 then ⟨some ⟨4, 3, 0x80, 0x8f⟩, r⟩
  else ⟨none, replacement :: r⟩

/-- Reads one byte. A byte that does not continue the unfinished character ends it and begins
anew. -/
def Reader.step (r : Reader) (byte : UInt8) : Reader :=
  let b := byte.toNat
  match r.pending with
  | none => Reader.start r.read b
  | some p =>
    if p.lo ≤ b && b ≤ p.hi then
      let bits := p.bits * 64 + (b - 0x80)
      if p.missing ≤ 1 then ⟨none, Char.ofNat bits :: r.read⟩
      else ⟨some ⟨bits, p.missing - 1, 0x80, 0xbf⟩, r.read⟩
    else Reader.start (replacement :: r.read) b

/-- The characters of a byte string, U+FFFD standing for what is no character. -/
def decodeLossy (bytes : List UInt8) : String :=
  let r := bytes.foldl Reader.step ⟨none, []⟩
  String.ofList (if r.pending.isSome then replacement :: r.read else r.read).reverse

end PlainTerminal.Text.Utf8
