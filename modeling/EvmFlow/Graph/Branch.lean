import EvmFlow.Graph.Graph
import EvmFlow.Position

/-!
# The branches of a conditional jump

The neighbours of a block that ends in a conditional jump, on its taken and on its other side.  The
accessors look for an entry of the list of neighbours under the key itself, so they answer only when a
side is given up for having too many neighbours.
-/

namespace EvmFlow
namespace Branch

/-- The successors under a key on the taken side of a block. -/
def takenSide (graph : Graph) (b : Block) (key : Key) : List Nat :=
  ((graph.edgesOf key).successors b.start).filter (· ≠ b.stop + 1)

/-- The successors under a key on the other side of a block. -/
def otherSide (graph : Graph) (b : Block) (key : Key) : List Nat :=
  ((graph.edgesOf key).successors b.start).filter (· = b.stop + 1)

/-- The branch taken if the condition holds. -/
def taken (graph : Graph) (b : Block) (key : Key) : Except Failure (Option Nat) :=
  if b.endsInJumpi then
    if (graph.edgesOf key).isLoose b.start then .error .looseEdgeShown
    else
      match Position.place (takenSide graph b key).length key with
      | .error failure => .error failure
      | .ok _ => .error .branchWithoutLength
  else .error .notConditional

/-- The branch taken if the condition does not hold. -/
def other (graph : Graph) (b : Block) (key : Key) : Except Failure (Option Nat) :=
  if b.endsInJumpi then
    let side := otherSide graph b key
    if (graph.edgesOf key).isLoose b.start then .error .looseEdgeShown
    else if 1 < side.length then .ok none
    else
      match Position.place side.length key with
      | .error failure => .error failure
      | .ok _ => .error .branchNotStepwise
  else .error .notConditional

end Branch
end EvmFlow
