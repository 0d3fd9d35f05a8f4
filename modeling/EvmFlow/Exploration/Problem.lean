import EvmFlow.Graph.Graph
import EvmFlow.Value.Transfer

/-!
# What an exploration works on

An exploration follows the stack through the blocks of one function.  Its problem is fixed while it
runs: the layout of the contract, the entry, the values worth tracking, how often a block may be
visited, and the choices that are left open.

An exploration may go on after the contract was given other code.  The blocks it has not visited yet then
belong to an earlier edition of the contract, with the layout and the edges of that edition, while the
jumps it finds are looked up in the layout of the time.
-/

namespace EvmFlow
namespace Exploration

/-- A block to be visited: its start, and how many editions ago it belonged to the contract. -/
structure Site where
  block : Nat
  age : Nat := 0
deriving DecidableEq

/-- The same block, one edition later. -/
def Site.older (site : Site) : Site := { site with age := site.age + 1 }

/-- The choices an exploration leaves open, which may differ from round to round: which block of the
agenda comes next, and in which order the targets of a jump are connected. -/
structure Schedule where
  pick : Nat → List Site → Nat
  walk : Nat → Int → List Int → List Int
  walk_perm : ∀ round source targets, (walk round source targets).Perm targets

/-- Takes everything in the order in which it was found. -/
def Schedule.inOrder : Schedule where
  pick := fun _ _ => 0
  walk := fun _ _ targets => targets
  walk_perm := fun _ _ _ => List.Perm.refl _

/-- The blocks that an exploration under a key leaves alone: the dispatcher does not enter blocks that
some function has reached. -/
def excludedUnder (graph : Graph) (key : Key) : List Nat :=
  if key = Key.dispatcher then graph.marks.keys else []

/-- What is known of the blocks of one edition under a key. -/
structure Ground where
  age : Nat := 0
  layout : Layout
  edges : Edges
  /-- The blocks that are left alone. -/
  excluded : List Nat := []

/-- The ground of an earlier edition. -/
def Ground.ofEdition (key : Key) (age : Nat) (edition : Edition) : Ground :=
  { age
    layout := edition.layout
    edges := edition.graph.edgesOf key
    excluded := excludedUnder edition.graph key }

/-- What stays fixed while an exploration runs. -/
structure Problem where
  layout : Layout
  /-- The key of the function's edges. -/
  key : Key
  /-- The block at which the function begins. -/
  entry : Site
  /-- The values worth keeping apart; none means all. -/
  tracked : ValueSet
  /-- How often a block is interpreted at most, once at least. -/
  visitLimit : Int
  /-- The blocks of the contract that are left alone. -/
  excluded : List Nat := []
  /-- The earlier editions of the contract, the last one in front. -/
  past : List Edition := []
  schedule : Schedule := .inOrder

namespace Problem

/-- The ground of the contract as it is, with the edges found so far. -/
def current (p : Problem) (edges : Edges) : Ground :=
  { layout := p.layout, edges, excluded := p.excluded }

/-- The ground of the blocks of an age. -/
def ground? (p : Problem) (edges : Edges) : Nat → Option Ground
  | 0 => some (p.current edges)
  | age + 1 => p.past[age]?.map (Ground.ofEdition p.key (age + 1))

/-- The grounds of all editions, the contract as it is in front. -/
def grounds (p : Problem) (edges : Edges) : List Ground :=
  p.current edges :: p.past.mapIdx fun age edition => Ground.ofEdition p.key (age + 1) edition

end Problem

/-- The jump destinations of a layout, as values to be tracked. -/
def trackedDestinations (layout : Layout) : ValueSet :=
  .ofList (layout.destinations.map fun (address : Nat) => some (Int.ofNat address))

end Exploration
end EvmFlow
