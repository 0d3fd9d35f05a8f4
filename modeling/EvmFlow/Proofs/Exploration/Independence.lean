import EvmFlow.Proofs.Exploration.Analysis

/-!
# Independence of the keys

Each function has its edges under a key of its own.  A run under one key leaves the edges under
every other key as they are, and a run of a function reads no edges but its own; the marks that
other runs have left matter to the dispatcher only.  So two runs from the same entry go through the
same states, step by step, whatever was analysed before and whatever their keys are called.
-/

namespace EvmFlow

/-! ## What a run leaves alone -/

namespace Graph

/-- Settling keeps the entries of the blocks that can be reached, or fails and keeps them all. -/
theorem settle_cases (graph : Graph) (entry : Nat) (key : Key) :
    graph.settle entry key = { state := graph, failure := some .looseEdgeFollowed } ∨
      graph.settle entry key =
        { state := (graph.mark key ((graph.edgesOf key).reachable entry)).withEdges key
            ((graph.edgesOf key).restrict ((graph.edgesOf key).reachable entry)) } := by
  simp only [settle, markReachable]
  split
  · exact .inl rfl
  · exact .inr rfl

end Graph

namespace Exploration

theorem edgesOf_explore_of_ne {p : Problem} {other : Key} (different : p.key ≠ other)
    (graph : Graph) (s : State) :
    (explore p graph s).state.graph.edgesOf other = graph.edgesOf other := by
  simp only [explore]
  split <;> exact graph.edgesOf_withEdges_of_ne different _

theorem edgesOf_settle_of_ne {p : Problem} {other : Key} (different : p.key ≠ other)
    (result : Result) :
    (settle p result).state.graph.edgesOf other = result.graph.edgesOf other := by
  rw [settle]
  split
  · rcases result.graph.settle_cases p.entry.block p.key with settled | settled
    · rw [settled]
    · rw [settled, Graph.edgesOf_withEdges_of_ne _ different, Graph.edgesOf_mark]
  · split
    · rfl
    · dsimp only
      split
      · rfl
      · exact result.graph.edgesOf_withEdges_of_ne different _

/-- A run leaves the edges under other keys alone. -/
theorem edgesOf_run_of_ne {p : Problem} {other : Key} (different : p.key ≠ other) (graph : Graph)
    (s : State) : (run p graph s).state.graph.edgesOf other = graph.edgesOf other := by
  rw [run, Outcome.andThen]
  split
  · exact edgesOf_explore_of_ne different graph s
  · exact (edgesOf_settle_of_ne different _).trans (edgesOf_explore_of_ne different graph s)

/-! ## Runs under another key -/

/-- The same problem under another key. -/
def Problem.withKey (p : Problem) (key : Key) : Problem := { p with key }

section WithKey

variable {p : Problem} (present : p.past = []) (key : Key)
include present

theorem ground?_withKey (edges : Edges) (age : Nat) :
    (p.withKey key).ground? edges age = p.ground? edges age := by
  cases age with
  | zero => rfl
  | succ age => simp [Problem.ground?, Problem.withKey, present]

theorem visitAt_withKey (edges : Edges) (site : Site) (s : State) :
    visitAt (p.withKey key) edges site s = visitAt p edges site s := by
  rw [visitAt, visitAt, ground?_withKey present]
  rfl

theorem drain_withKey (edges : Edges) (fuel : Nat) (s : State) :
    drain (p.withKey key) edges fuel s = drain p edges fuel s := by
  have step_eq : ∀ s, step (p.withKey key) edges s = step p edges s := by
    intro s
    simp only [step, visitAt_withKey present]
  induction fuel generalizing s with
  | zero => rfl
  | succ fuel ih => rw [drain, drain, step_eq, ih]

theorem visitAll_withKey (edges : Edges) (site : Site) (s : State) :
    visitAll (p.withKey key) edges site s = visitAll p edges site s := by
  have bound_eq : ∀ s, visitBound (p.withKey key) edges s = visitBound p edges s := by
    intro s
    simp only [visitBound, Problem.grounds, Problem.withKey, present, List.mapIdx_nil]
    rfl
  simp only [visitAll, visitAt_withKey present, drain_withKey present, bound_eq]

variable (loose_eq : looseFailure key = looseFailure p.key)
include loose_eq

theorem round_withKey (progress : Progress) :
    round (p.withKey key) progress = round p progress := by
  have key_eq : looseFailure (p.withKey key).key = looseFailure p.key := loose_eq
  simp only [round, visitAll_withKey present, key_eq]
  rfl

theorem rounds_withKey (fuel : Nat) (progress : Progress) :
    rounds (p.withKey key) fuel progress = rounds p fuel progress := by
  induction fuel generalizing progress with
  | zero => rfl
  | succ fuel ih =>
      have later_eq : rounds (p.withKey key) fuel = rounds p fuel := funext ih
      rw [rounds, rounds, round_withKey present key loose_eq, later_eq]

end WithKey

/-- Two outcomes that differ only in the key of their edges. -/
structure Alike (key other : Key) (first second : Outcome Result) : Prop where
  failure_eq : first.failure = second.failure
  state_eq : first.state.state = second.state.state
  edges_eq : first.state.graph.edgesOf key = second.state.graph.edgesOf other

theorem explore_alike {p : Problem} (present : p.past = []) {key : Key}
    (loose_eq : looseFailure key = looseFailure p.key) {graph graph' : Graph}
    (edges_eq : graph.edgesOf p.key = graph'.edgesOf key) (s : State) :
    Alike p.key key (explore p graph s) (explore (p.withKey key) graph' s) := by
  have rounds_eq := rounds_withKey present key loose_eq
  simp only [explore, rounds_eq, show (p.withKey key).key = key from rfl, ← edges_eq]
  simp only [show (p.withKey key).layout = p.layout from rfl,
    show roundBound (p.withKey key) s = roundBound p s from rfl]
  split <;> exact ⟨rfl, rfl, by simp⟩

theorem settle_alike {p : Problem} (young : p.entry.age = 0) {key : Key} {first second : Result}
    (state_eq : first.state = second.state)
    (edges_eq : first.graph.edgesOf p.key = second.graph.edgesOf key) :
    Alike p.key key (settle p first) (settle (p.withKey key) second) := by
  have young' : (p.withKey key).entry.age = 0 := young
  simp only [settle, young, young']
  simp only [Graph.settle, Graph.markReachable, show (p.withKey key).key = key from rfl,
    show (p.withKey key).entry = p.entry from rfl, ← edges_eq]
  split
  · exact ⟨rfl, state_eq, edges_eq⟩
  · exact ⟨rfl, state_eq, by simp [Outcome.andThen]⟩

/-- From the same edges, runs under two keys find the same and fail in the same way. -/
theorem run_alike {p : Problem} (present : p.past = []) (young : p.entry.age = 0) {key : Key}
    (loose_eq : looseFailure key = looseFailure p.key) {graph graph' : Graph}
    (edges_eq : graph.edgesOf p.key = graph'.edgesOf key) (s : State) :
    Alike p.key key (run p graph s) (run (p.withKey key) graph' s) := by
  have explored := explore_alike present loose_eq edges_eq s
  rw [run, run, Outcome.andThen, Outcome.andThen, ← explored.failure_eq]
  split
  · exact ⟨explored.failure_eq, explored.state_eq, explored.edges_eq⟩
  · obtain ⟨failure_eq, state_eq, settled_eq⟩ :=
      settle_alike young explored.state_eq explored.edges_eq
    exact ⟨failure_eq, state_eq, settled_eq⟩

end Exploration

open Exploration

/-! ## Contracts on which other functions were analysed -/

/-- The contracts that runs of analyses under other keys make of freshly laid out code. -/
inductive Contract.Reached (code : Code) (d : Disassembler) (key : Key) : Contract → Prop
  | laidOut : Reached code d key (Contract.layOut { code := some code } d).state
  | run {contract : Contract} (reached : Reached code d key contract) (analysis : Analysis)
      (other : analysis.key ≠ key) :
      Reached code d key (Study.run ⟨contract, analysis⟩).state.contract

namespace Contract.Reached

variable {code : Code} {d : Disassembler} {key : Key} {contract : Contract}

theorem layout_eq (reached : contract.Reached code d key) : contract.layout = .ofCode code d := by
  induction reached with
  | laidOut => rfl
  | run _ analysis other ih => exact ih

theorem edgesOf_eq (reached : contract.Reached code d key) : contract.graph.edgesOf key = {} := by
  induction reached with
  | laidOut => exact Std.TreeMap.getD_emptyc
  | run _ analysis other ih =>
      exact (edgesOf_run_of_ne (p := analysis.problem _) other _ _).trans ih

end Contract.Reached

/-- The analysis of a function depends only on the code and on its entry: whatever analyses under
other keys ran before, those of the dispatcher included, and whatever its own key, it explores the
same blocks in the same order, fails in the same way, and leaves every block with the same
neighbours.  So functions under different keys can be analysed in any order. -/
theorem analysis_depends_only_on_code (code : Code) (d : Disassembler) (key key' : Key)
    (function : key ≠ Key.dispatcher) (function' : key' ≠ Key.dispatcher)
    (contract contract' : Contract) (reached : contract.Reached code d key)
    (reached' : contract'.Reached code d key') (entry : Nat) (visitLimit : Int) (keepsAll : Bool)
    (schedule : Schedule) :
    let outcome := Study.run
      ⟨contract, .fresh contract.layout key entry visitLimit keepsAll schedule⟩
    let outcome' := Study.run
      ⟨contract', .fresh contract'.layout key' entry visitLimit keepsAll schedule⟩
    let edges := outcome.state.contract.graph.edgesOf key
    let edges' := outcome'.state.contract.graph.edgesOf key'
    outcome.failure = outcome'.failure ∧
      outcome.state.analysis.state.explored = outcome'.state.analysis.state.explored ∧
      ∀ block, edges.successors block = edges'.successors block ∧
        edges.predecessors block = edges'.predecessors block := by
  intro outcome outcome' edges edges'
  let analysis := Analysis.fresh contract.layout key entry visitLimit keepsAll schedule
  let analysis' := Analysis.fresh contract'.layout key' entry visitLimit keepsAll schedule
  have problem_eq : analysis'.problem contract' = (analysis.problem contract).withKey key' := by
    simp only [analysis, analysis', Analysis.problem, Analysis.fresh, Problem.withKey,
      excludedUnder, if_neg function, if_neg function', reached.layout_eq, reached'.layout_eq]
  have loose_eq : looseFailure key' = looseFailure key := by
    rw [looseFailure, looseFailure, if_neg function, if_neg function']
  have edges_eq : contract.graph.edgesOf key = contract'.graph.edgesOf key' := by
    rw [reached.edgesOf_eq, reached'.edgesOf_eq]
  have alike :=
    run_alike (p := analysis.problem contract) rfl rfl loose_eq edges_eq (.initial entry)
  rw [← problem_eq] at alike
  have same : edges = edges' := alike.edges_eq
  refine ⟨alike.failure_eq, congrArg State.explored alike.state_eq, fun block => ?_⟩
  rw [same]
  exact ⟨rfl, rfl⟩

/-- The contract with a loop, after its dispatcher and one of its functions were analysed. -/
def busyLoopContract : Contract :=
  let dispatched :=
    (Study.run ⟨loopContract, .fresh loopContract.layout Key.dispatcher 0 100 false⟩).state.contract
  (Study.run ⟨dispatched, .fresh dispatched.layout 3 2 100 false⟩).state.contract

theorem busyLoopContract_analysed_alike :
    let later := Study.run ⟨busyLoopContract, .fresh busyLoopContract.layout 7 0 100 false⟩
    let early := Study.run ⟨loopContract, .fresh loopContract.layout 9 0 100 false⟩
    busyLoopContract.Reached loopCode .evm 7 ∧ loopContract.Reached loopCode .evm 9 ∧
      later.state.analysis.state.explored = early.state.analysis.state.explored := by
  have reached : ∀ key, loopContract.Reached loopCode .evm key := fun _ => .laidOut
  have busy_reached : busyLoopContract.Reached loopCode .evm 7 :=
    ((reached 7).run _ (by decide : Key.dispatcher ≠ 7)).run _ (by decide : (3 : Key) ≠ 7)
  have alike := analysis_depends_only_on_code loopCode .evm 7 9 (by decide) (by decide)
    busyLoopContract loopContract busy_reached (reached 9) 0 100 false .inOrder
  exact ⟨busy_reached, reached 9, alike.2.1⟩

end EvmFlow
