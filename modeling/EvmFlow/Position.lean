import EvmFlow.Failure

/-!
# Positions in a list

A position counts from the front of a list, or from its end if it is negative.  It has to fit in a
signed machine word.
-/

namespace EvmFlow
namespace Position

/-- The number of elements in front of a position in a list of the given length. -/
def place (length : Nat) (position : Int) : Except Failure Nat :=
  if position < -0x8000000000000000 ∨ 0x8000000000000000 ≤ position then .error .indexTooLarge
  else
    let index := if position < 0 then position + length else position
    if index < 0 ∨ (length : Int) ≤ index then .error .indexOutOfRange else .ok index.toNat

end Position
end EvmFlow
