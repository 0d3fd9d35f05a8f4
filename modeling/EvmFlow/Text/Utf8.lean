/-!
# Decoding UTF-8

A scan over the bytes that either yields the characters or says where the bytes stop being
well-formed: the offending range is the longest beginning of a valid sequence.
-/

namespace EvmFlow
namespace Utf8

/-- Why a sequence is not well-formed. -/
inductive Fault
  | invalidStart
  | invalidContinuation
  | unexpectedEnd
deriving DecidableEq

/-- A malformed sequence: where it starts, its well-formed beginning, and what is wrong after it. -/
structure Malformed where
  position : Nat
  bytes : List UInt8
  fault : Fault
deriving DecidableEq

/-- What a leading byte announces: the number of bytes to follow, the bounds of the next one, and the
bits read so far. -/
structure Sequence where
  remaining : Nat
  low : Nat
  high : Nat
  value : Nat

/-- The sequence a leading byte above 127 opens. -/
def Sequence.ofLead? (b : Nat) : Option Sequence :=
  if 0xC2 ≤ b ∧ b ≤ 0xDF then some ⟨1, 0x80, 0xBF, b - 0xC0⟩
  else if b = 0xE0 then some ⟨2, 0xA0, 0xBF, 0⟩
  else if b = 0xED then some ⟨2, 0x80, 0x9F, 0xD⟩
  else if 0xE1 ≤ b ∧ b ≤ 0xEF then some ⟨2, 0x80, 0xBF, b - 0xE0⟩
  else if b = 0xF0 then some ⟨3, 0x90, 0xBF, 0⟩
  else if 0xF1 ≤ b ∧ b ≤ 0xF3 then some ⟨3, 0x80, 0xBF, b - 0xF0⟩
  else if b = 0xF4 then some ⟨3, 0x80, 0x8F, 4⟩
  else none

/-- The place of a scan: between two characters, or inside a sequence whose bytes so far are kept in
reverse. -/
inductive Place
  | between
  | inside (start : Nat) (seen : List UInt8) (sequence : Sequence)

/-- Scans the bytes from a place on; the position is that of the next byte. -/
def scan : Place → Nat → List UInt8 → Except Malformed (List Char)
  | .between, _, [] => .ok []
  | .inside start seen _, _, [] => .error ⟨start, seen.reverse, .unexpectedEnd⟩
  | .between, position, b :: rest =>
    if b.toNat < 0x80 then (scan .between (position + 1) rest).map (Char.ofNat b.toNat :: ·)
    else
      match Sequence.ofLead? b.toNat with
      | none => .error ⟨position, [b], .invalidStart⟩
      | some sequence => scan (.inside position [b] sequence) (position + 1) rest
  | .inside start seen sequence, position, b :: rest =>
    if b.toNat < sequence.low ∨ sequence.high < b.toNat then
      .error ⟨start, seen.reverse, .invalidContinuation⟩
    else
      let value := sequence.value * 64 + (b.toNat - 0x80)
      if sequence.remaining ≤ 1 then
        (scan .between (position + 1) rest).map (Char.ofNat value :: ·)
      else
        scan (.inside start (b :: seen) ⟨sequence.remaining - 1, 0x80, 0xBF, value⟩)
          (position + 1) rest

/-- The characters that the bytes encode. -/
def decode (bytes : List UInt8) : Except Malformed (List Char) :=
  scan .between 0 bytes

/-- A fault in words. -/
def Fault.message : Fault → String
  | .invalidStart => "invalid start byte"
  | .invalidContinuation => "invalid continuation byte"
  | .unexpectedEnd => "unexpected end of data"

end Utf8
end EvmFlow
