import EvmFlow.Contract.Study
import EvmFlow.Proofs.Exploration.Termination

/-!
# New analyses

A new analysis of a contract explores from its entry and then marks what can be reached.  It fails
only if the code ends with a conditional jump.  `Begins.concludes` says that it otherwise follows an
execution to its end, and `Concludes.invariant` what holds there.
-/

namespace EvmFlow
namespace Exploration

/-! ## What is left behind -/

/-- The graph after an exploration that found the given edges: what can be reached from the entry is
marked, and the entries of the other blocks are dropped. -/
def settledGraph (graph : Graph) (key : Key) (entry : Nat) (edges : Edges) : Graph :=
  ((graph.withEdges key edges).mark key (edges.reachable entry)).withEdges key
    (edges.restrict (edges.reachable entry))

@[simp]
theorem edgesOf_settledGraph (graph : Graph) (key : Key) (entry : Nat) (edges : Edges) :
    (settledGraph graph key entry edges).edgesOf key =
      edges.restrict (edges.reachable entry) :=
  Graph.edgesOf_withEdges _ _ _

theorem marksOf_settledGraph (graph : Graph) (key : Key) (entry : Nat) (edges : Edges) (b : Nat) :
    (settledGraph graph key entry edges).marksOf b =
      graph.marksOf b ++ if b ∈ edges.reachable entry then [key] else [] :=
  Graph.marksOf_mark _ key (edges.nodup_reachable entry) b

theorem run_eq_of_completes {p : Problem} {graph : Graph} {entry : Nat} {log : List Reading}
    {after : Progress} (entry_eq : p.entry = { block := entry })
    (completes : Completes p graph entry log after) (within : after.edges.Within p.layout) :
    run p graph (.initial entry) =
      { state := ⟨settledGraph graph p.key entry after.edges, p.past, after.state⟩ } := by
  have settled :=
    (graph.withEdges p.key after.edges).settle_eq entry p.key (by simpa using within.tight)
  simp only [Graph.edgesOf_withEdges] at settled
  simp only [run, completes.explore_eq, Outcome.andThen, settle, entry_eq, settled, List.nil_append]
  rfl

theorem run_of_endsInJumpi {p : Problem} (coherent : p.layout.Coherent)
    (jumpi : p.layout.endsInJumpi) (graph : Graph) (s : State) :
    ∃ i, p.layout.instructions.getLast? = some i ∧ i.is .jumpi ∧
      (run p graph s).failure = some (.missingBlock (i.address + 1)) ∧
      (run p graph s).state.state = s := by
  obtain ⟨i, last, is_jumpi, failure⟩ := coherent.addSimple_failure jumpi (graph.edgesOf p.key)
  refine ⟨i, last, is_jumpi, ?_⟩
  simp only [run, explore, failure, Outcome.andThen]
  exact ⟨trivial, trivial⟩

end Exploration

open Exploration

/-! ## Analyses of a contract -/

theorem Study.run_eq (study : Study) {result : Result}
    (ran : Exploration.run study.problem study.contract.graph study.analysis.state =
      { state := result }) :
    study.run =
      { state :=
          ⟨{ study.contract with graph := result.graph },
            { study.analysis with past := result.past, state := result.state }⟩ } := by
  simp only [Study.run, ran]

namespace Analysis

/-- An analysis that is about to begin at a block of a contract. -/
structure Begins (analysis : Analysis) (contract : Contract) (entry : Block) : Prop where
  coherent : contract.layout.Coherent
  entry_mem : entry ∈ contract.layout.blocks
  within : (contract.graph.edgesOf analysis.key).Within contract.layout
  entry_eq : analysis.entry = { block := entry.start }
  state_eq : analysis.state = .initial entry.start

theorem fresh_begins {contract : Contract} {code : Code} {d : Disassembler}
    (laidOut : contract.layout = .ofCode code d) {entry : Block}
    (entry_mem : entry ∈ contract.layout.blocks) {key : Key}
    (within : (contract.graph.edgesOf key).Within contract.layout)
    (visitLimit : Int) (keepsAll : Bool) (schedule : Schedule) :
    (fresh contract.layout key entry.start visitLimit keepsAll schedule).Begins contract entry where
  coherent := laidOut ▸ Layout.ofCode_coherent code d
  entry_mem := entry_mem
  within := within
  entry_eq := rfl
  state_eq := rfl

/-- An analysis has followed an execution to its end and marked what can be reached. -/
structure Concludes (analysis : Analysis) (contract : Contract) (entry : Block) (log : List Reading)
    (after : Progress) : Prop
    extends Completes (analysis.problem contract) contract.graph entry.start log after where
  placed : Placed (analysis.problem contract)
    (beginning (analysis.problem contract) contract.graph entry.start)
  run_eq : Study.run ⟨contract, analysis⟩ =
    { state :=
        ⟨{ contract with
            graph := settledGraph contract.graph analysis.key entry.start after.edges },
          { analysis with state := after.state }⟩ }

variable {analysis : Analysis} {contract : Contract} {entry : Block}

/-- An analysis fails if the code ends with a conditional jump. -/
theorem Begins.run_failure (begins : analysis.Begins contract entry)
    (jumpi : contract.layout.endsInJumpi) :
    ∃ i, contract.layout.instructions.getLast? = some i ∧ i.is .jumpi ∧
      (Study.run ⟨contract, analysis⟩).failure = some (.missingBlock (i.address + 1)) ∧
      (Study.run ⟨contract, analysis⟩).state.analysis.state = analysis.state :=
  run_of_endsInJumpi (p := analysis.problem contract) begins.coherent jumpi contract.graph
    analysis.state

/-- What a failed analysis leaves are the simple edges added before it failed. -/
theorem Begins.edgesOf_eq_of_endsInJumpi (begins : analysis.Begins contract entry)
    (jumpi : contract.layout.endsInJumpi) :
    (Study.run ⟨contract, analysis⟩).state.contract.graph.edgesOf analysis.key =
      ((contract.graph.edgesOf analysis.key).addSimple contract.layout).state := by
  obtain ⟨i, -, -, failure⟩ :=
    begins.coherent.addSimple_failure jumpi (contract.graph.edgesOf analysis.key)
  simp only [Study.run, Study.problem, Analysis.problem, Exploration.run, explore, failure,
    Outcome.andThen]
  exact Graph.edgesOf_withEdges _ _ _

/-- Otherwise it follows an execution to its end. -/
theorem Begins.concludes (begins : analysis.Begins contract entry)
    (noJumpi : contract.layout.endsInJumpi = false) :
    ∃ log after, analysis.Concludes contract entry log after := by
  let problem := analysis.problem contract
  have placed : Placed problem (beginning problem contract.graph entry.start) :=
    beginning_placed begins.coherent begins.within begins.entry_mem noJumpi
  obtain ⟨log, after, completes⟩ :=
    explore_execution (p := problem) begins.coherent begins.within begins.entry_mem noJumpi
  have within := (completes.execution.placed begins.coherent placed).within
  have ran := run_eq_of_completes begins.entry_eq completes within
  rw [← begins.state_eq] at ran
  exact ⟨log, after, completes, placed, Study.run_eq ⟨contract, analysis⟩ ran⟩

theorem Begins.noJumpi_of_completed (begins : analysis.Begins contract entry)
    (completed : (Study.run ⟨contract, analysis⟩).failure = none) :
    contract.layout.endsInJumpi = false := by
  rw [← Bool.not_eq_true]
  intro jumpi
  obtain ⟨i, -, -, failure, -⟩ := begins.run_failure jumpi
  rw [completed] at failure
  cases failure

namespace Concludes

variable {log : List Reading} {after : Progress}
  (concludes : analysis.Concludes contract entry log after)
include concludes

theorem failure_eq : (Study.run ⟨contract, analysis⟩).failure = none := by
  rw [concludes.run_eq]

theorem state_eq : (Study.run ⟨contract, analysis⟩).state.analysis.state = after.state := by
  rw [concludes.run_eq]

theorem edgesOf_eq :
    (Study.run ⟨contract, analysis⟩).state.contract.graph.edgesOf analysis.key =
      after.edges.restrict (after.edges.reachable entry.start) := by
  rw [concludes.run_eq, edgesOf_settledGraph]

/-- The edges before those of the blocks that cannot be reached are dropped. -/
theorem edgesOf_explore (state_eq : analysis.state = .initial entry.start) :
    (explore (analysis.problem contract) contract.graph analysis.state).state.graph.edgesOf
      analysis.key = after.edges := by
  rw [state_eq, concludes.explore_eq]
  exact Graph.edgesOf_withEdges _ _ _

theorem marksOf_eq (b : Nat) :
    (Study.run ⟨contract, analysis⟩).state.contract.graph.marksOf b =
      contract.graph.marksOf b ++
        if b ∈ after.edges.reachable entry.start then [analysis.key] else [] := by
  rw [concludes.run_eq, marksOf_settledGraph]

/-- An invariant of the moves holds at the end of an analysis. -/
theorem invariant (coherent : contract.layout.Coherent)
    (holds : List Reading → Progress → Prop)
    (begin : holds [] (beginning (analysis.problem contract) contract.graph entry.start))
    (step : ∀ {log edges s made after}, Placed (analysis.problem contract) ⟨edges, s⟩ →
      holds log ⟨edges, s⟩ → Move (analysis.problem contract) edges s made after →
      holds (log ++ made) after) : Placed (analysis.problem contract) after ∧ holds log after :=
  concludes.execution.invariant_of_move coherent holds concludes.placed begin step

end Concludes
end Analysis

/-! ## Bounds -/

/-- A new analysis of a function comes to an end, whatever its choices: it fails if the code ends
with a conditional jump, and otherwise goes on until nothing is left to do.  No block is interpreted
more often than allowed, and the rounds are bounded by the pairs of a jump and a destination. -/
theorem analysis_ends (contract : Contract) (code : Code) {d : Disassembler}
    (laidOut : contract.layout = .ofCode code d)
    (entry : Block) (entry_mem : entry ∈ contract.layout.blocks) (key : Key)
    (within : (contract.graph.edgesOf key).Within contract.layout)
    (visitLimit : Int) (keepsAll : Bool) (schedule : Schedule) :
    let analysis := Analysis.fresh contract.layout key entry.start visitLimit keepsAll schedule
    let problem := analysis.problem contract
    let outcome := Study.run ⟨contract, analysis⟩
    let final := outcome.state.analysis.state
    (∃ i, contract.layout.instructions.getLast? = some i ∧ i.is .jumpi ∧
      outcome.failure = some (.missingBlock (i.address + 1)) ∧ final = analysis.state) ∨
    (outcome.failure = none ∧ ∃ log edges,
      Execution problem (beginning problem contract.graph entry.start) log ⟨edges, final⟩ ∧
      final.queue = [] ∧ final.fresh = [] ∧ final.agenda = [] ∧
      (∀ a, a ∈ edges.reachable entry.start ↔ edges.Reaches entry.start a) ∧
      (∀ b, (log.countP (·.block = b) : Int) ≤ max 1 visitLimit) ∧
      final.rounds ≤ 1 + (contract.layout.blocks.filter (·.endsInJump)).length *
        contract.layout.destinations.length) := by
  intro analysis problem outcome final
  have begins : analysis.Begins contract entry :=
    Analysis.fresh_begins laidOut entry_mem within visitLimit keepsAll schedule
  by_cases jumpi : contract.layout.endsInJumpi
  · exact .inl (begins.run_failure jumpi)
  · rw [Bool.not_eq_true] at jumpi
    obtain ⟨log, after, concludes⟩ := begins.concludes jumpi
    have final_eq : final = after.state := concludes.state_eq
    obtain ⟨-, sparing, solvent⟩ := concludes.invariant begins.coherent
      (fun log progress => Sparing problem log progress.state ∧ Solvent problem progress.state)
      ⟨sparing_initial problem entry.start, solvent_initial problem entry.start⟩
      fun _ held move => ⟨move.sparing held.1, move.solvent begins.coherent held.2⟩
    rw [final_eq]
    refine .inr ⟨concludes.failure_eq, log, after.edges, concludes.execution,
      concludes.resting.idle, concludes.resting.connected, concludes.agenda_eq,
      after.edges.mem_reachable_iff entry.start, ?_, ?_⟩
    · intro b
      have limited := (sparing b).2
      rw [Problem.limit, Int.le_toNat (by omega)] at limited
      exact limited
    · have card_le := card_foundPairs_le contract.layout after.state
      rw [Solvent] at solvent
      change _ ≤ 1 + (foundPairs contract.layout after.state).card at solvent
      omega

/-- Code with a loop: the block at 2 jumps back to its start or goes on to the block at 6. -/
def loopCode : Code := [0x60, 0x01, 0x5b, 0x60, 0x02, 0x57, 0x00]

/-- A contract with a loop. -/
def loopContract : Contract := { code := some loopCode, layout := .ofCode loopCode }

/-- The block before the loop. -/
def loopEntry : Block := ⟨⟨0, .push 1 1⟩, []⟩

theorem vacant_loopContract (key : Key) : (loopContract.graph.edgesOf key).Vacant :=
  Graph.vacant_edgesOf_empty key

theorem loopContract_ends :
    let outcome := Study.run ⟨loopContract, .fresh loopContract.layout 7 0 3 false⟩
    loopEntry ∈ loopContract.layout.blocks ∧ outcome.failure = none ∧
      outcome.state.analysis.state.agenda = [] ∧ outcome.state.analysis.state.rounds ≤ 2 := by
  intro outcome
  have entry_mem : loopEntry ∈ loopContract.layout.blocks := by decide
  have ends := analysis_ends loopContract loopCode rfl loopEntry entry_mem 7
    ((vacant_loopContract 7).within _) 3 false .inOrder
  rcases ends with ⟨i, last, jumpi, -⟩ | ⟨completed, log, edges, -, -, -, agenda, -, -, rounds⟩
  · have stop : loopContract.layout.instructions.getLast? = some ⟨6, .plain .stop⟩ := rfl
    cases stop.symm.trans last
    cases jumpi
  · exact ⟨entry_mem, completed, agenda, rounds⟩

end EvmFlow
