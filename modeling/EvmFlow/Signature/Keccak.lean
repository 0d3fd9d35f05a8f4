/-!
# Keccak-256

The hash whose first four bytes, taken of a function's signature, select the function in a call.  The
state is five rows of five 64-bit lanes; a round is the composition of the five step mappings.
-/

namespace EvmFlow
namespace Keccak

/-- Five lanes of the state. -/
structure Row where
  a : UInt64
  b : UInt64
  c : UInt64
  d : UInt64
  e : UInt64

/-- The lane-wise sum of two rows. -/
def Row.xor (r s : Row) : Row :=
  ⟨r.a ^^^ s.a, r.b ^^^ s.b, r.c ^^^ s.c, r.d ^^^ s.d, r.e ^^^ s.e⟩

/-- The 25 lanes of the state, row by row. -/
structure Lanes where
  r0 : Row
  r1 : Row
  r2 : Row
  r3 : Row
  r4 : Row

/-- Rotates a lane towards its high end. -/
def rotate (lane amount : UInt64) : UInt64 :=
  (lane <<< amount) ||| (lane >>> (64 - amount))

/-- Adds to each lane the parities of two neighbouring columns. -/
def theta (s : Lanes) : Lanes :=
  let p := (((s.r0.xor s.r1).xor s.r2).xor s.r3).xor s.r4
  let d : Row :=
    ⟨p.e ^^^ rotate p.b 1, p.a ^^^ rotate p.c 1, p.b ^^^ rotate p.d 1, p.c ^^^ rotate p.e 1,
      p.d ^^^ rotate p.a 1⟩
  ⟨s.r0.xor d, s.r1.xor d, s.r2.xor d, s.r3.xor d, s.r4.xor d⟩

/-- Rotates each lane by its own amount and moves it to its new place. -/
def rhoPi (s : Lanes) : Lanes :=
  { r0 := ⟨s.r0.a, rotate s.r1.b 44, rotate s.r2.c 43, rotate s.r3.d 21, rotate s.r4.e 14⟩
    r1 := ⟨rotate s.r0.d 28, rotate s.r1.e 20, rotate s.r2.a 3, rotate s.r3.b 45, rotate s.r4.c 61⟩
    r2 := ⟨rotate s.r0.b 1, rotate s.r1.c 6, rotate s.r2.d 25, rotate s.r3.e 8, rotate s.r4.a 18⟩
    r3 := ⟨rotate s.r0.e 27, rotate s.r1.a 36, rotate s.r2.b 10, rotate s.r3.c 15, rotate s.r4.d 56⟩
    r4 := ⟨rotate s.r0.c 62, rotate s.r1.d 55, rotate s.r2.e 39, rotate s.r3.a 41, rotate s.r4.b 2⟩ }

/-- Combines each lane of a row with the next two. -/
def chiRow (r : Row) : Row :=
  ⟨r.a ^^^ (~~~r.b &&& r.c), r.b ^^^ (~~~r.c &&& r.d), r.c ^^^ (~~~r.d &&& r.e),
    r.d ^^^ (~~~r.e &&& r.a), r.e ^^^ (~~~r.a &&& r.b)⟩

/-- Combines the lanes of each row. -/
def chi (s : Lanes) : Lanes :=
  ⟨chiRow s.r0, chiRow s.r1, chiRow s.r2, chiRow s.r3, chiRow s.r4⟩

/-- Adds a constant to the first lane. -/
def iota (constant : UInt64) (s : Lanes) : Lanes :=
  { s with r0 := { s.r0 with a := s.r0.a ^^^ constant } }

/-- The constants of the 24 rounds. -/
def roundConstants : List UInt64 :=
  [0x0000000000000001, 0x0000000000008082, 0x800000000000808a, 0x8000000080008000,
    0x000000000000808b, 0x0000000080000001, 0x8000000080008081, 0x8000000000008009,
    0x000000000000008a, 0x0000000000000088, 0x0000000080008009, 0x000000008000000a,
    0x000000008000808b, 0x800000000000008b, 0x8000000000008089, 0x8000000000008003,
    0x8000000000008002, 0x8000000000000080, 0x000000000000800a, 0x800000008000000a,
    0x8000000080008081, 0x8000000000008080, 0x0000000080000001, 0x8000000080008008]

/-- The permutation of the state. -/
def permute (s : Lanes) : Lanes :=
  roundConstants.foldl (fun s constant => iota constant (chi (rhoPi (theta s)))) s

/-- The number of bytes taken in before each permutation. -/
def rate : Nat := 136

/-- The lane made of the next eight bytes, the lowest first. -/
def lane (bytes : List UInt8) : UInt64 :=
  (bytes.take 8).foldr (fun b lane => (lane <<< 8) ||| b.toUInt64) 0

/-- The row made of the next forty bytes. -/
def row (bytes : List UInt8) : Row :=
  ⟨lane bytes, lane (bytes.drop 8), lane (bytes.drop 16), lane (bytes.drop 24), lane (bytes.drop 32)⟩

/-- Takes in the next 136 bytes. -/
def absorb (s : Lanes) (bytes : List UInt8) : Lanes :=
  let second := bytes.drop 40
  let third := second.drop 40
  permute
    { s with
      r0 := s.r0.xor (row bytes)
      r1 := s.r1.xor (row second)
      r2 := s.r2.xor (row third)
      r3 := s.r3.xor (row (third.drop 40)) }

/-- The message with its padding, a multiple of the rate long. -/
def pad (message : List UInt8) : List UInt8 :=
  let missing := rate - message.length % rate
  if missing = 1 then message ++ [0x81]
  else message ++ 0x01 :: List.replicate (missing - 2) 0 ++ [0x80]

/-- Takes in blocks, as many as the fuel says. -/
def absorbAll : Nat → Lanes → List UInt8 → Lanes
  | 0, s, _ => s
  | blocks + 1, s, bytes => absorbAll blocks (absorb s (bytes.take rate)) (bytes.drop rate)

/-- The state before anything is taken in. -/
def Lanes.zero : Lanes :=
  let z : Row := ⟨0, 0, 0, 0, 0⟩
  ⟨z, z, z, z, z⟩

/-- The first four bytes of the hash of a message, read as a number. -/
def firstWord (message : List UInt8) : Nat :=
  let padded := pad message
  let first := (absorbAll (padded.length / rate) .zero padded).r0.a.toNat
  (first % 256) * 16777216 + (first / 256 % 256) * 65536 + (first / 65536 % 256) * 256 +
    first / 16777216 % 256

end Keccak
end EvmFlow
