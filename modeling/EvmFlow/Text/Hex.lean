/-!
# Hexadecimal text

Digits of either case are read, lower-case digits are written.  Bytes are read in pairs of digits,
with blanks allowed before each pair; a text that is not made of such pairs is refused at the
position of the first character that does not fit.
-/

namespace EvmFlow
namespace Hex

/-- The value of one hexadecimal digit of either case. -/
def digitValue? (c : Char) : Option Nat :=
  let n := c.toNat
  if 48 ≤ n ∧ n ≤ 57 then some (n - 48)
  else if 97 ≤ n ∧ n ≤ 102 then some (n - 87)
  else if 65 ≤ n ∧ n ≤ 70 then some (n - 55)
  else none

/-- The blanks that may stand before a pair of digits. -/
def isBlank (c : Char) : Bool :=
  c.toNat = 32 || (9 ≤ c.toNat && c.toNat ≤ 13)

/-- The lower-case digits of a number, without a leading zero. -/
def digits (n : Nat) : String :=
  String.ofList (Nat.toDigits 16 n)

/-- The digits of an integer, with a minus sign in front of a negative one. -/
def signedDigits : Int → String
  | .ofNat n => digits n
  | .negSucc n => "-" ++ digits (n + 1)

/-- An integer as a literal: `0x1f`, `-0x1`. -/
def literal : Int → String
  | .ofNat n => "0x" ++ digits n
  | .negSucc n => "-0x" ++ digits (n + 1)

/-- The two lower-case digits of a byte. -/
def byteDigits (b : UInt8) : List Char :=
  [Nat.digitChar (b.toNat / 16), Nat.digitChar (b.toNat % 16)]

/-- Bytes as pairs of lower-case digits. -/
def encode (bytes : List UInt8) : String :=
  String.ofList (bytes.flatMap byteDigits)

/-- Reads pairs of digits; the position is that of the first character still to be read. -/
def readPairs : Nat → List Char → Except Nat (List UInt8)
  | _, [] => .ok []
  | position, high :: rest =>
    if isBlank high then readPairs (position + 1) rest
    else
      match digitValue? high with
      | none => .error position
      | some h =>
        match rest with
        | [] => .error (position + 1)
        | low :: rest =>
          match digitValue? low with
          | none => .error (position + 1)
          | some l => (readPairs (position + 2) rest).map (UInt8.ofNat (16 * h + l) :: ·)

/-- The bytes that a text spells, or the position at which it stops being hexadecimal.  A text with
a character outside ASCII is refused at the first such character. -/
def decode (text : List Char) : Except Nat (List UInt8) :=
  match text.findIdx? (fun c => 128 ≤ c.toNat) with
  | some position => .error position
  | none => readPairs 0 text

end Hex
end EvmFlow
