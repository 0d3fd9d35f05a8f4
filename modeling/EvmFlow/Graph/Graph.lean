import EvmFlow.Graph.Edges

/-!
# The graphs of a contract

Each function of a contract has edges of its own, under a key.  Beside the edges, every block remembers
the keys under which it was found reachable.
-/

namespace EvmFlow

/-- The key of a function's edges. -/
abbrev Key := Int

namespace Key

/-- The key of the function that takes calls no other function takes. -/
def fallback : Key := -1

/-- The key of the code that decides which function takes a call. -/
def dispatcher : Key := -2

end Key

/-- Edges by key, and for each block the keys that reached it, in order. -/
structure Graph where
  edges : Std.TreeMap Int Edges := {}
  marks : Std.TreeMap Nat (List Key) := {}

namespace Graph

/-- The edges under a key. -/
def edgesOf (graph : Graph) (key : Key) : Edges := graph.edges.getD key {}

/-- The graph with new edges under a key. -/
def withEdges (graph : Graph) (key : Key) (edges : Edges) : Graph :=
  { graph with edges := graph.edges.insert key edges }

/-- The keys that reached a block. -/
def marksOf (graph : Graph) (block : Nat) : List Key := graph.marks.getD block []

/-- Marks blocks with a key. -/
def mark (graph : Graph) (key : Key) (blocks : List Nat) : Graph :=
  { graph with
    marks := blocks.foldl (fun marks b => marks.insert b (marks.getD b [] ++ [key])) graph.marks }

/-- Marks the blocks reachable from an entry under a key; a loose edge on the way is a failure. -/
def markReachable (graph : Graph) (entry : Nat) (key : Key) : Outcome Graph :=
  let edges := graph.edgesOf key
  let reached := edges.reachable entry
  if reached.any edges.isLoose then { state := graph, failure := some .looseEdgeFollowed }
  else { state := graph.mark key reached }

/-- Marks the blocks reachable from an entry under a key, and drops the entries of all others. -/
def settle (graph : Graph) (entry : Nat) (key : Key) : Outcome Graph :=
  let edges := graph.edgesOf key
  (graph.markReachable entry key).andThen fun marked =>
    { state := marked.withEdges key (edges.restrict (edges.reachable entry)) }

/-- The predecessors and successors of a block under a key; a loose edge cannot be shown. -/
def neighbours (graph : Graph) (key : Key) (block : Nat) : Except Failure (List Nat × List Nat) :=
  let edges := graph.edgesOf key
  if edges.isLoose block then .error .looseEdgeShown
  else .ok (edges.predecessors block, edges.successors block)

/-- Whether a block has a loose edge under some key. -/
def isLoose (graph : Graph) (block : Nat) : Bool :=
  graph.edges.toList.any fun (_, edges) => edges.isLoose block

/-- Adds the edges under a key that need no computed jump. -/
def addSimple (graph : Graph) (layout : Layout) (key : Key) : Outcome Graph :=
  let outcome := (graph.edgesOf key).addSimple layout
  { state := graph.withEdges key outcome.state, failure := outcome.failure }

/-- The keys and lists of a block at one end of its edges, for the keys that have any. -/
def entries (graph : Graph) (side : Edges → Std.TreeMap Nat (List Nat)) (block : Nat) :
    List (Key × List Nat) :=
  graph.edges.toList.filterMap fun (key, edges) => ((side edges).get? block).map (key, ·)

/-- The neighbours of a block under any key, each once. -/
def allNeighbours (graph : Graph) (side : Edges → Std.TreeMap Nat (List Nat)) (block : Nat) :
    List Nat :=
  ((graph.entries side block).flatMap Prod.snd).eraseDups

/-- The predecessors and successors of a block under any key; a loose edge cannot be shown. -/
def neighboursUnderAll (graph : Graph) (block : Nat) : Except Failure (List Nat × List Nat) :=
  if graph.isLoose block then .error .looseEdgeShown
  else
    .ok (graph.allNeighbours Edges.incoming block, graph.allNeighbours Edges.outgoing block)

end Graph

/-- A layout and the graphs on its blocks.  When a contract is given other code it starts a new edition;
the blocks of an earlier one keep their edges and marks. -/
structure Edition where
  layout : Layout
  graph : Graph

end EvmFlow
