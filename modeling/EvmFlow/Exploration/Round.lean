import EvmFlow.Exploration.Visit

/-!
# Rounds of an exploration

A round takes a block from the agenda, visits blocks until nothing changes, connects the jumps it has
found to their destinations, and puts those on the agenda.  An exploration ends when the agenda is
empty; then the blocks reachable from the entry are marked.
-/

namespace EvmFlow
namespace Exploration

/-- The edges of a function and the state of its exploration. -/
structure Progress where
  edges : Edges
  state : State

/-- Takes the block that the schedule picks from the agenda. -/
def takeNext? (schedule : Schedule) (round : Nat) (agenda : List Site) : Option (Site × List Site) :=
  let index := schedule.pick round agenda % agenda.length
  agenda[index]?.map fun site => (site, agenda.eraseIdx index)

/-- The jumps found in a round with their destinations, in the order of the schedule. -/
def foundJumps (schedule : Schedule) (round : Nat) (fresh : List (Int × List Int)) :
    List (Int × Int) :=
  fresh.flatMap fun (source, targets) => (schedule.walk round source targets).map (source, ·)

/-- Connects jumps to their destinations.  A jump to where no block is leaves a loose edge. -/
def connectJumps (layout : Layout) : List (Int × Int) → Edges → Outcome Edges
  | [], edges => { state := edges }
  | (source, target) :: rest, edges =>
    match layout.blockAtInt? source with
    | none => { state := edges, failure := some .unknownJump }
    | some a =>
      match layout.blockAtInt? target with
      | none => { state := edges.addLoose a.start, failure := some .unknownTarget }
      | some b => connectJumps layout rest (edges.connect a.start b.start)

/-- Puts the blocks at the destinations of jumps on the agenda. -/
def extendAgenda (layout : Layout) (jumps : List (Int × Int)) (agenda : List Site) : List Site :=
  jumps.foldl (fun agenda (_, target) =>
    match layout.blockAtInt? target with
    | some b =>
      let site : Site := { block := b.start }
      if agenda.contains site then agenda else agenda ++ [site]
    | none => agenda) agenda

/-- Visits a block of the agenda and all that follows from it. -/
def visitAll (p : Problem) (edges : Edges) (site : Site) (s : State) : State :=
  let begun := visitAt p edges site s
  drain p edges (visitBound p edges begun) begun

/-- What goes wrong when a loose edge comes up in the queue. -/
def looseFailure (key : Key) : Failure :=
  if key = Key.dispatcher then .looseEdgeMarked else .looseEdgeShown

/-- Connects the jumps that a round has found. -/
def connectFound (p : Problem) (edges : Edges) (round : Nat) (visited : State) :
    Outcome Progress :=
  let jumps := foundJumps p.schedule round visited.fresh
  let connected := connectJumps p.layout jumps edges
  let settled := { visited with fresh := [] }
  match connected.failure with
  | some _ => { state := ⟨connected.state, settled⟩, failure := connected.failure }
  | none =>
    { state :=
        ⟨connected.state, { settled with agenda := extendAgenda p.layout jumps settled.agenda }⟩ }

/-- One round. -/
def round (p : Problem) (progress : Progress) : Outcome Progress :=
  let s := progress.state
  match takeNext? p.schedule s.rounds s.agenda with
  | none => { state := progress, failure := some .nothingToExplore }
  | some (site, agenda) =>
    let visited := visitAll p progress.edges site { s with agenda, rounds := s.rounds + 1 }
    match visited.queue with
    | none :: rest =>
      { state := ⟨progress.edges, { visited with queue := rest }⟩
        failure := some (looseFailure p.key) }
    | _ => connectFound p progress.edges s.rounds visited

/-- Rounds until the agenda is empty; the fuel bounds their number. -/
def rounds (p : Problem) : Nat → Progress → Outcome Progress
  | 0, progress => { state := progress }
  | fuel + 1, progress =>
    if progress.state.agenda.isEmpty then { state := progress }
    else (round p progress).andThen (rounds p fuel)

/-- The number of blocks of all editions. -/
def blockCount (p : Problem) : Nat :=
  p.layout.blocks.length +
    p.past.foldr (fun edition count => edition.layout.blocks.length + count) 0

/-- A bound on the number of rounds: each round takes a block from the agenda, and only a jump and a
destination that were not found together before put one on it. -/
def roundBound (p : Problem) (s : State) : Nat :=
  s.agenda.length + (s.fresh.flatMap Prod.snd).length +
    blockCount p * p.layout.destinations.length

/-- The graph of a contract, the earlier editions, and the state of one exploration. -/
structure Result where
  graph : Graph
  past : List Edition
  state : State

/-- Marks what is reachable from the entry and drops the other entries of the contract.  If the entry
belongs to an earlier edition, no block of the contract is reachable from it. -/
def settle (p : Problem) (result : Result) : Outcome Result :=
  match p.entry.age with
  | 0 =>
    let outcome := result.graph.settle p.entry.block p.key
    { state := { result with graph := outcome.state }, failure := outcome.failure }
  | age + 1 =>
    match result.past[age]? with
    | none => { state := result }
    | some edition =>
      let outcome := edition.graph.markReachable p.entry.block p.key
      match outcome.failure with
      | some _ => { state := result, failure := outcome.failure }
      | none =>
        { state :=
            { result with
              graph := result.graph.withEdges p.key {}
              past := result.past.set age { edition with graph := outcome.state } } }

/-- The simple edges, and rounds until the agenda is empty. -/
def explore (p : Problem) (graph : Graph) (s : State) : Outcome Result :=
  let simple := (graph.edgesOf p.key).addSimple p.layout
  match simple.failure with
  | some _ =>
    { state := ⟨graph.withEdges p.key simple.state, p.past, s⟩, failure := simple.failure }
  | none =>
    let outcome := rounds p (roundBound p s) ⟨simple.state, s⟩
    { state := ⟨graph.withEdges p.key outcome.state.edges, p.past, outcome.state.state⟩
      failure := outcome.failure }

/-- A complete exploration, and the marks of what it reached. -/
def run (p : Problem) (graph : Graph) (s : State) : Outcome Result :=
  (explore p graph s).andThen (settle p)

end Exploration
end EvmFlow
