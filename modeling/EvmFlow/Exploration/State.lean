import EvmFlow.Exploration.Problem

/-!
# The state of an exploration

What an exploration has found so far, and what it still has to do.
-/

namespace EvmFlow
namespace Exploration

/-- What has been found, and what is still to be done. -/
structure State where
  /-- The blocks from which a round is still to start, each once. -/
  agenda : List Site
  /-- What is to be visited in the current round, the next one in front; a loose edge leads to
  `none`. -/
  queue : List (Option Site) := []
  /-- The starts of the blocks interpreted so far, in the order of their first visits. -/
  explored : List Nat := []
  /-- How often each block was visited. -/
  visits : Std.TreeMap Nat Nat := {}
  /-- The stack after each block, by the address of its last instruction. -/
  exits : Std.TreeMap Nat AbstractStack := {}
  /-- The element each jump last took its destination from, by the address of the jump. -/
  targets : Std.TreeMap Nat AbstractValue := {}
  /-- The destinations found for each jump. -/
  discovered : Std.TreeMap Int (List Int) := {}
  /-- The destinations found in the current round, the jumps in the order of their first discovery. -/
  fresh : List (Int × List Int) := []
  /-- The number of rounds begun. -/
  rounds : Nat := 0
  /-- A stack that is handed on from one visit to the next, if there is one. -/
  carried? : Option AbstractStack := none
  /-- The exits that are the carried stack itself, and follow its changes. -/
  carriedAt : List Nat := []

namespace State

/-- Nothing found yet, and the entry to begin with. -/
def initial (entry : Nat) : State := { agenda := [{ block := entry }] }

/-- The state after the contract was given other code. -/
def older (s : State) : State :=
  { s with agenda := s.agenda.map Site.older, queue := s.queue.map (Option.map Site.older) }

/-- Adds a destination to those found for a jump in the current round. -/
def addFresh (source target : Int) : List (Int × List Int) → List (Int × List Int)
  | [] => [(source, [target])]
  | (jump, targets) :: rest =>
    if jump = source then (jump, targets ++ [target]) :: rest
    else (jump, targets) :: addFresh source target rest

/-- Records one destination of a jump, unless it is known. -/
def addTarget (source : Int) (s : State) (target : Int) : State :=
  let known := s.discovered.getD source []
  if known.contains target then s
  else
    { s with
      discovered := s.discovered.insert source (known ++ [target])
      fresh := addFresh source target s.fresh }

/-- Records the destinations of a jump. -/
def addTargets (s : State) (source : Int) (targets : List Int) : State :=
  targets.foldl (addTarget source)
    { s with discovered := s.discovered.insertIfNew source [] }

/-- Records what an interpretation of a block shows. -/
def record (s : State) (b : Block) (shown : Interpretation) : State :=
  { s with
    explored := if s.explored.contains b.start then s.explored else s.explored ++ [b.start]
    exits := s.exits.insert b.stop shown.exit
    targets :=
      match shown.target? with
      | some element => s.targets.insert b.stop element
      | none => s.targets
    carriedAt := s.carriedAt.filter (· ≠ b.stop) }

/-- Puts the ends of a block's edges at the end of the queue. -/
def enqueue (s : State) (g : Ground) (b : Block) : State :=
  let ends := (g.edges.ends b.start).map (Option.map fun block => { block, age := g.age })
  { s with queue := s.queue ++ ends.reverse }

/-- Whether no block can be visited: the queue is empty, or a loose edge comes next. -/
def isStuck (s : State) : Bool :=
  match s.queue with
  | some _ :: _ => false
  | _ => true

end State
end Exploration
end EvmFlow
