import EvmFlow.Contract.Study

/-!
# Graphs for drawing

The whole graph of a contract and the graphs of its functions as DOT statements: a node for each block,
labelled with its instructions, and an edge for each successor.  The graph of the dispatcher has a node
for each function it can call as well.
-/

namespace EvmFlow
namespace Dot

/-- A statement of a drawing. -/
inductive Statement
  | node (id : Int) (label : String)
  | edge (source target : Nat)
deriving DecidableEq

/-- The text of a statement. -/
def Statement.text : Statement → String
  | .node id label => toString id ++ "[label=\"" ++ label ++ "\"]"
  | .edge source target => toString source ++ " -> " ++ toString target

end Dot

/-- A drawing, as the statements it is made of. -/
structure Dot where
  statements : List Dot.Statement
deriving DecidableEq

namespace Dot

/-- The text before the statements. -/
def opening : String := "digraph\x7b\n"

/-- The text after the statements. -/
def closing : String := "\n\x7d"

/-- The text of a drawing. -/
def text (dot : Dot) : String :=
  opening ++ String.join (dot.statements.map fun s => s.text ++ "\n") ++ closing

/-- The label of a block: its instructions with their addresses, one a line. -/
def label (b : Block) : String :=
  "\n".intercalate (b.instructions.map fun i => Hex.literal i.address ++ ":" ++ i.text)

/-- The node of a block and the edges to its successors. -/
def blockStatements (b : Block) (successors : List Nat) : List Statement :=
  .node b.start (label b) :: successors.map (.edge b.start)

/-- The drawing with the edges under all keys; loose edges are left out. -/
def ofContract (contract : Contract) : Dot :=
  { statements := contract.layout.blocks.flatMap fun b =>
      blockStatements b (contract.graph.allNeighbours Edges.outgoing b.start) }

/-- The blocks of a function. -/
def blocksOf (contract : Contract) (f : Function) : List Block :=
  f.blocks.filterMap contract.layout.blockFrom?

/-- The nodes of the other functions, if the function is the dispatcher. -/
def callStatements (contract : Contract) (f : Function) : List Statement :=
  if f.key = Key.dispatcher then
    (contract.functions.filter (·.start ≠ f.start)).map fun g => .node g.start ("Call " ++ g.name)
  else []

/-- The drawing of a function. -/
def ofFunction (contract : Contract) (f : Function) : Dot :=
  let edges := contract.graph.edgesOf f.key
  { statements :=
      ((blocksOf contract f).flatMap fun b => blockStatements b (edges.successors b.start)) ++
        callStatements contract f }

/-- Complaints on the blocks of a function that end in a jump of which no destination is known. -/
def complaints (contract : Contract) (f : Function) : List String :=
  let edges := contract.graph.edgesOf f.key
  ((blocksOf contract f).filter fun b => (edges.successors b.start).isEmpty && b.endsInJump).map
    fun b => "Missing branches " ++ f.name ++ ":" ++ Hex.literal b.stop

end Dot
end EvmFlow
