import Std.Data.TreeMap
import EvmFlow.Failure
import EvmFlow.Graph.Layout

/-!
# Edges between blocks

The edges of one graph, recorded at both ends: each block has a list of blocks control can go to and a
list of blocks it can come from, without repetition and in the order in which they were found.  Blocks
are named by their start addresses.  An edge can be loose: it was recorded at its source before its target
turned out not to be there.
-/

namespace EvmFlow

/-- The edges of one graph; a block has an entry only if its list is not empty. -/
structure Edges where
  outgoing : Std.TreeMap Nat (List Nat) := {}
  incoming : Std.TreeMap Nat (List Nat) := {}
  /-- The blocks with a loose edge, and how many successors were found before it. -/
  loose : Std.TreeMap Nat Nat := {}

namespace Edges

/-- The blocks control can go to from a block. -/
def successors (edges : Edges) (block : Nat) : List Nat := edges.outgoing.getD block []

/-- The blocks control can come from to a block. -/
def predecessors (edges : Edges) (block : Nat) : List Nat := edges.incoming.getD block []

/-- Appends a neighbour to the list of a block, unless it is there. -/
def addNeighbour (lists : Std.TreeMap Nat (List Nat)) (block neighbour : Nat) :
    Std.TreeMap Nat (List Nat) :=
  let known := lists.getD block []
  if known.contains neighbour then lists else lists.insert block (known ++ [neighbour])

/-- Records an edge at both its ends. -/
def connect (edges : Edges) (source target : Nat) : Edges :=
  { edges with
    outgoing := addNeighbour edges.outgoing source target
    incoming := addNeighbour edges.incoming target source }

/-- Whether a block has a loose edge. -/
def isLoose (edges : Edges) (block : Nat) : Bool := edges.loose.contains block

/-- Records a loose edge at its source, unless there is one. -/
def addLoose (edges : Edges) (source : Nat) : Edges :=
  { edges with loose := edges.loose.insertIfNew source (edges.successors source).length }

/-- Where the edges of a block lead, in the order in which they were found; a loose one leads to
`none`. -/
def ends (edges : Edges) (block : Nat) : List (Option Nat) :=
  let known := (edges.successors block).map some
  match edges.loose.get? block with
  | some place => known.take place ++ none :: known.drop place
  | none => known

/-- Where control goes from a block without a computed jump: past a conditional jump, or on into the
next block. -/
def simpleTarget? (b : Block) : Option Nat :=
  if b.endsInJumpi then some (b.stop + 1)
  else if b.isClosed then none
  else some b.last.next

/-- Connects blocks along the edges that need no computed jump.  A conditional jump with no code after
it has nowhere to go, and ends the work; a final block that would go on has no successor. -/
def connectSimple (layout : Layout) : List Block → Edges → Outcome Edges
  | [], edges => { state := edges }
  | b :: bs, edges =>
    match simpleTarget? b with
    | none => connectSimple layout bs edges
    | some address =>
      match layout.blockAt? address with
      | some target => connectSimple layout bs (edges.connect b.start target.start)
      | none =>
        if b.endsInJumpi then { state := edges, failure := some (.missingBlock address) }
        else connectSimple layout bs edges

/-- Adds the edges that need no computed jump. -/
def addSimple (layout : Layout) (edges : Edges) : Outcome Edges :=
  connectSimple layout layout.blocks edges

/-- The targets of all edges. -/
def targets (edges : Edges) : List Nat := edges.outgoing.toList.flatMap Prod.snd

/-- The blocks met by following edges from those pending, given those already met; the fuel bounds the
number of blocks taken up. -/
def meet (edges : Edges) : Nat → List Nat → List Nat → List Nat
  | 0, met, _ => met
  | _, met, [] => met
  | fuel + 1, met, block :: pending =>
    let new := ((edges.successors block).filter (!met.contains ·)).eraseDups
    meet edges fuel (met ++ new) (new.reverse ++ pending)

/-- The blocks reachable from a block, that block in front.  A block is taken up once, and all but the
first are targets of edges. -/
def reachable (edges : Edges) (entry : Nat) : List Nat :=
  edges.meet (edges.targets.length + 1) [entry] [entry]

/-- The edges with the entries of the given blocks only. -/
def restrict (edges : Edges) (blocks : List Nat) : Edges :=
  { outgoing := edges.outgoing.filter fun block _ => blocks.contains block
    incoming := edges.incoming.filter fun block _ => blocks.contains block
    loose := edges.loose.filter fun block _ => blocks.contains block }

end Edges
end EvmFlow
