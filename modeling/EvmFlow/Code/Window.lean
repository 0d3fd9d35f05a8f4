/-!
# Windows of a fixed size

A sequence is cut into windows of one size that fit a description, found from left to right and
without overlap, and the elements between them.
-/

namespace EvmFlow
namespace Window

variable {α : Type}

/-- A part of a sequence: an element by itself, or a window. -/
inductive Piece (α : Type)
  | single (element : α)
  | window (content : List α)

/-- Cuts a sequence, of which the first `skip` elements belong to a window already found. -/
def cutFrom (size : Nat) (fits : List α → Bool) : Nat → List α → List (Piece α)
  | _, [] => []
  | skip + 1, _ :: rest => cutFrom size fits skip rest
  | 0, a :: rest =>
    if fits (a :: rest) then
      .window ((a :: rest).take size) :: cutFrom size fits (size - 1) rest
    else
      .single a :: cutFrom size fits 0 rest

/-- The windows of a sequence and the elements between them, in order. -/
def cut (size : Nat) (fits : List α → Bool) (sequence : List α) : List (Piece α) :=
  cutFrom size fits 0 sequence

/-- The windows alone. -/
def found (pieces : List (Piece α)) : List (List α) :=
  pieces.filterMap fun
    | .single _ => none
    | .window content => some content

/-- The sequence with every window replaced by one and the same filling. -/
def replaced (filling : List α) (pieces : List (Piece α)) : List α :=
  pieces.flatMap fun
    | .single a => [a]
    | .window _ => filling

end Window
end EvmFlow
