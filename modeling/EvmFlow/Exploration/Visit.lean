import EvmFlow.Exploration.State

/-!
# Visiting blocks

A visit interprets a block on the join of the stacks its predecessors left, records the result, and,
if the stack after the block has changed, sends the visit on to the successors.  The number of visits
of a block is bounded, so the visits of a round come to an end.
-/

namespace EvmFlow
namespace Exploration

/-- The destinations a jump can take from an element: the known, non-zero values that can be jumped
to. -/
def jumpTargets (layout : Layout) : AbstractValue → List Int
  | .top => []
  | .among values => values.known.filter fun v => 0 < v && layout.isDestination v.toNat

/-- Records the destinations that an interpretation of a block shows for its jump. -/
def State.discover (s : State) (layout : Layout) (b : Block) (shown : Interpretation) : State :=
  match shown.target? with
  | some (.among values) =>
    if values.isEmpty then s else s.addTargets b.stop (jumpTargets layout (.among values))
  | _ => s

/-- The stacks that the predecessors of a block have left so far. -/
def incomingStacks (g : Ground) (s : State) (b : Block) : List AbstractStack :=
  (g.edges.predecessors b.start).filterMap fun address =>
    (g.layout.blockFrom? address).bind fun father => s.exits.get? father.stop

/-- The stack on which a block is interpreted: the join of what its predecessors left, or the empty
stack if there is nothing yet. -/
def entryStack (p : Problem) (g : Ground) (s : State) (b : Block) : AbstractStack :=
  let incoming := incomingStacks g s b
  if incoming.isEmpty then [] else AbstractStack.join p.tracked incoming

/-- Interprets a block on a stack and passes a change on to its successors. -/
def revise (p : Problem) (g : Ground) (b : Block) (stack : AbstractStack) (s : State) : State :=
  let shown := b.interpret p.tracked stack
  let recorded := (s.record b shown).discover p.layout b shown
  if s.exits.get? b.stop = some shown.exit then recorded else recorded.enqueue g b

/-- Counts a visit of a block. -/
def State.count (s : State) (b : Block) : State :=
  { s with visits := s.visits.insert b.start (s.visits.getD b.start 0 + 1) }

/-- Whether a block has been visited more often than it may be interpreted. -/
def exhausted (p : Problem) (s : State) (b : Block) : Bool :=
  let visits := s.visits.getD b.start 0
  1 < visits && p.visitLimit < visits

/-- Visits a block. -/
def visit (p : Problem) (g : Ground) (b : Block) (s : State) : State :=
  if g.excluded.contains b.start then s
  else
    let counted := s.count b
    if exhausted p counted b then counted
    else revise p g b (entryStack p g counted b) counted

/-- Interprets a block on the carried stack itself, which every exit that is this stack follows. -/
def reviseCarried (p : Problem) (g : Ground) (b : Block) (stack : AbstractStack) (s : State) :
    State :=
  let shown := b.interpret p.tracked stack
  let holders := b.stop :: s.carriedAt.filter (· ≠ b.stop)
  let recorded := (s.record b shown).discover p.layout b shown
  let handed :=
    { recorded with
      exits := holders.foldl (fun exits address => exits.insert address shown.exit) recorded.exits
      carried? := some shown.exit
      carriedAt := holders }
  if s.carriedAt.contains b.stop || s.exits.get? b.stop = some shown.exit then handed
  else handed.enqueue g b

/-- Visits a block at which the carried stack, if there is one, takes the place of the empty stack. -/
def visitCarried (p : Problem) (g : Ground) (b : Block) (s : State) : State :=
  if g.excluded.contains b.start then s
  else
    let counted := s.count b
    if exhausted p counted b then counted
    else
      match s.carried?, incomingStacks g counted b with
      | some stack, [] => reviseCarried p g b stack counted
      | _, _ => revise p g b (entryStack p g counted b) counted

/-- Visits the block at a site, on the ground of its edition. -/
def visitAt (p : Problem) (edges : Edges) (site : Site) (s : State) : State :=
  match p.ground? edges site.age with
  | none => s
  | some g =>
    match g.layout.blockFrom? site.block with
    | some b => visit p g b s
    | none => s

/-- Visits the next block of the queue. -/
def step (p : Problem) (edges : Edges) (s : State) : State :=
  match s.queue with
  | some site :: rest => visitAt p edges site { s with queue := rest }
  | _ => s

/-- Visits blocks until that is no longer possible; the fuel bounds the number of visits. -/
def drain (p : Problem) (edges : Edges) : Nat → State → State
  | 0, s => s
  | fuel + 1, s => if s.isStuck then s else drain p edges fuel (step p edges s)

/-- The number of edges that leave the blocks of a ground. -/
def Ground.edgeCount (g : Ground) : Nat :=
  g.layout.blocks.foldr (fun b count => (g.edges.ends b.start).length + count) 0

/-- A bound on the visits of a round: each interpretation of a block sends a visit along each of its
edges, and each block is interpreted a bounded number of times. -/
def visitBound (p : Problem) (edges : Edges) (s : State) : Nat :=
  let edgeCount := (p.grounds edges).foldr (fun g count => g.edgeCount + count) 0
  s.queue.length + edgeCount * (max 1 p.visitLimit).toNat

end Exploration
end EvmFlow
