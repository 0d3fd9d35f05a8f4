import EvmFlow.Proofs.Exploration.Coverage
import EvmFlow.Proofs.Exploration.Fixpoint
import EvmFlow.Proofs.Value.Soundness

/-!
# What an analysis says about words

The stack kept after a block covers what a run makes of the words that the block is given, as long
as the run and the interpretation begin on the same stack.  Along an edge they do not: the block is
interpreted on the join of what its predecessors left, and a join covers no words.  So a destination
that is handed through a block gets lost, as in `relayContract`.
-/

namespace EvmFlow

/-- A new analysis keeps no account of unknown values as such. -/
theorem Analysis.none_notMem_tracked (layout : Layout) (key : Key) (entry : Nat) (visitLimit : Int)
    (keepsAll : Bool) (schedule : Exploration.Schedule) :
    none ∉ (fresh layout key entry visitLimit keepsAll schedule).tracked := by
  cases keepsAll with
  | true => exact fun member => by cases member
  | false =>
      rw [fresh, if_neg Bool.false_ne_true, Exploration.trackedDestinations, ValueSet.mem_ofList]
      simp

namespace Exploration

/-- A block is interpreted on a join as soon as one of its predecessors has left a stack. -/
theorem entryStack_eq_join {p : Problem} {g : Ground} {s : State} {b : Block}
    {stack : AbstractStack} (left : stack ∈ incomingStacks g s b) :
    entryStack p g s b = AbstractStack.join p.tracked (incomingStacks g s b) := by
  have nonempty : (incomingStacks g s b).isEmpty = false :=
    List.isEmpty_eq_false_iff.2 (List.ne_nil_of_mem left)
  simp [entryStack, nonempty]

theorem mem_incomingStacks {p : Problem} (coherent : p.layout.Coherent) {edges : Edges} {s : State}
    {f b : Block} (f_mem : f ∈ p.layout.blocks) (father : f.start ∈ edges.predecessors b.start)
    {stack : AbstractStack} (left : s.exits.get? f.stop = some stack) :
    stack ∈ incomingStacks (p.current edges) s b := by
  refine List.mem_filterMap.2 ⟨f.start, father, ?_⟩
  rw [show (p.current edges).layout = p.layout from rfl, coherent.blockFrom?_start f_mem]
  exact left

end Exploration

open Exploration

/-- At the end of an analysis an edge leads from an explored block to another, and both have left
the stacks that interpreting them once more would leave. -/
theorem Analysis.Begins.ends_of_edge {analysis : Analysis} {contract : Contract} {entry : Block}
    (begins : analysis.Begins contract entry) (noJumpi : contract.layout.endsInJumpi = false)
    (function : analysis.key ≠ Key.dispatcher)
    (vacant : (contract.graph.edgesOf analysis.key).Vacant) {log : List Reading} {after : Progress}
    (concludes : analysis.Concludes contract entry log after)
    (unexhausted : Unexhausted (analysis.problem contract) after.state) {f b : Block}
    (f_mem : f ∈ contract.layout.blocks) (b_mem : b ∈ contract.layout.blocks)
    (successor : b.start ∈ ((Study.run ⟨contract, analysis⟩).state.contract.graph.edgesOf
      analysis.key).successors f.start) :
    f.start ∈ after.state.explored ∧ b.start ∈ after.state.explored ∧
      f.start ∈ after.edges.predecessors b.start ∧
      Consistent (analysis.problem contract) after.edges after.state f ∧
      Consistent (analysis.problem contract) after.edges after.state b := by
  let problem := analysis.problem contract
  have excluded_eq : problem.excluded = [] := if_neg function
  obtain ⟨-, covering, converging⟩ := concludes.invariant begins.coherent
    (fun _ progress => Covering problem entry.start progress.edges progress.state ∧
      Converging problem progress.edges progress.state)
    ⟨covering_initial _ _ _, converging_beginning begins.coherent vacant noJumpi _⟩
    fun placed ⟨covering, converging⟩ move =>
      ⟨move.covering begins.coherent excluded_eq placed.within covering,
        move.converging begins.coherent excluded_eq placed.within converging⟩
  rw [concludes.edgesOf_eq, Edges.mem_successors_restrict_reachable] at successor
  obtain ⟨reaches, leads⟩ := successor
  have explored_iff : ∀ {a}, a ∈ after.state.explored ↔ after.edges.Reaches entry.start a :=
    covering.mem_explored_iff concludes.resting.idle concludes.agenda_eq
  have consistent : ∀ a ∈ problem.layout.blocks, a.start ∈ after.state.explored →
      Consistent problem after.edges after.state a := fun a a_mem explored =>
    converging.consistent concludes.resting.idle concludes.agenda_eq unexhausted a_mem explored
  have f_explored := explored_iff.2 reaches
  have b_explored := explored_iff.2 (reaches.tail leads)
  exact ⟨f_explored, b_explored, (converging.dual _ _).1 leads, consistent f f_mem f_explored,
    consistent b b_mem b_explored⟩

/-- Along an edge of a completed analysis that began without edges, with no block visited more often
than the limit: what a run of the second block makes of words covered by the stack after the first
is covered by what interpreting the second block on that stack leaves, if its exchanges reach what
they exchange.  The stack kept for the second block is another one, left on a join that covers no
words and holds what it joins only if one counts from the bottom; it covers the words if they begin
empty, or if it covers all that the former stack covers. -/
theorem runs_covered_along_edges (contract : Contract) (code : Code)
    {d : Disassembler} (laidOut : contract.layout = .ofCode code d) (entry : Block)
    (entry_mem : entry ∈ contract.layout.blocks) (key : Key) (function : key ≠ Key.dispatcher)
    (vacant : (contract.graph.edgesOf key).Vacant)
    (visitLimit : Int) (keepsAll : Bool) (schedule : Schedule)
    (completed : (Study.run ⟨contract, .fresh contract.layout key entry.start visitLimit keepsAll
      schedule⟩).failure = none)
    (unexhausted : ∀ b ∈ contract.layout.blocks,
      ((Study.run ⟨contract, .fresh contract.layout key entry.start visitLimit keepsAll
        schedule⟩).state.analysis.state.visits.getD b.start 0 : Int) ≤ visitLimit) :
    let analysis := Analysis.fresh contract.layout key entry.start visitLimit keepsAll schedule
    let problem := analysis.problem contract
    let tracked := problem.tracked
    let outcome := Study.run ⟨contract, analysis⟩
    let final := outcome.state.analysis.state
    let edges := (explore problem contract.graph analysis.state).state.graph.edgesOf key
    ∀ f ∈ contract.layout.blocks, ∀ b ∈ contract.layout.blocks,
      b.start ∈ (outcome.state.contract.graph.edgesOf key).successors f.start →
      f.start ∈ final.explored ∧ b.start ∈ final.explored ∧
      ∃ s t : AbstractStack, final.exits.get? f.stop = some s ∧ final.exits.get? b.stop = some t ∧
        let joined := entryStack problem (problem.current edges) final b
        t = (b.interpret tracked joined).exit ∧
        (∀ c, joined.Covers c ↔ c = []) ∧ s.length < joined.length ∧
        (∀ (i : Nat) (e : AbstractValue), s.reverse[i]? = some e →
          ∃ e', joined.reverse[i]? = some e' ∧
            (e' = .nothing ∨ ∀ w, e.Covers w → e'.Covers w)) ∧
        ∀ c d, s.Covers c → b.Runs c d →
          (b.Reaches tracked s → (b.interpret tracked s).exit.Covers d) ∧
          ((c = [] ∧ b.Reaches tracked joined) ∨ (b.Reaches tracked s ∧
              ∀ words, (b.interpret tracked s).exit.Covers words → t.Covers words) →
            t.Covers d) := by
  intro analysis problem tracked outcome final edges f f_mem b b_mem successor
  have begins : analysis.Begins contract entry :=
    Analysis.fresh_begins laidOut entry_mem (vacant.within _) visitLimit keepsAll schedule
  have noJumpi := begins.noJumpi_of_completed completed
  obtain ⟨log, after, concludes⟩ := begins.concludes noJumpi
  have final_eq : final = after.state := concludes.state_eq
  have edges_eq : edges = after.edges := concludes.edgesOf_explore begins.state_eq
  obtain ⟨f_explored, b_explored, father, left, kept⟩ := begins.ends_of_edge noJumpi function vacant
    concludes (final_eq ▸ unexhausted) f_mem b_mem successor
  have coherent : problem.layout.Coherent := begins.coherent
  have incoming := mem_incomingStacks coherent f_mem father left
  rw [edges_eq, final_eq]
  refine ⟨f_explored, b_explored, _, _, left, kept, rfl, ?_⟩
  rw [entryStack_eq_join incoming]
  refine ⟨fun c => AbstractStack.covers_join_iff, AbstractStack.length_lt_length_join _ incoming,
    fun i e there => AbstractStack.admits_join _ incoming there, ?_⟩
  intro c d covers runs
  have plain : none ∉ tracked :=
    Analysis.none_notMem_tracked contract.layout key entry.start visitLimit keepsAll schedule
  have fits := coherent.fitsWord laidOut b_mem
  have along := fun reaches => runs.covers plain fits reaches covers
  refine ⟨along, ?_⟩
  rintro (⟨rfl, reaches⟩ | ⟨reaches, wider⟩)
  · exact runs.covers plain fits reaches (AbstractStack.covers_nil_right _)
  · exact wider d (along reaches)

/-- Code in which the block at 3 drops an element and pushes a number. -/
def dropCode : Code := [0x60, 0x03, 0x56, 0x5b, 0x50, 0x60, 0x03, 0x00]

/-- A contract with such a block. -/
def dropContract : Contract := { code := some dropCode, layout := .ofCode dropCode }

/-- The block that jumps to it. -/
def dropEntry : Block := ⟨⟨0, .push 1 3⟩, [⟨2, .plain .jump⟩]⟩

/-- The block that drops an element. -/
def dropBlock : Block :=
  ⟨⟨3, .plain .jumpDest⟩, [⟨4, .plain .pop⟩, ⟨5, .push 1 3⟩, ⟨7, .plain .stop⟩]⟩

theorem dropBlock_runs : dropBlock.Runs [5, 6] [3, 6] :=
  .cons (.other (by decide) [] [] rfl rfl) (.cons (.other (by decide) [5] [] rfl rfl)
    (.cons .push (.cons (.other (by decide) [] [] rfl rfl) .nil)))

theorem dropContract_covers_run :
    let final := (Study.run
      ⟨dropContract, .fresh dropContract.layout 7 dropEntry.start 3 false⟩).state.analysis.state
    ∃ t : AbstractStack, final.exits.get? dropBlock.stop = some t ∧ t.Covers [3, 6] := by
  intro final
  have entry_mem : dropEntry ∈ dropContract.layout.blocks := by decide
  have block_mem : dropBlock ∈ dropContract.layout.blocks := by decide
  have vacant : (dropContract.graph.edgesOf 7).Vacant := Graph.vacant_edgesOf_empty 7
  have begins := Analysis.fresh_begins (show dropContract.layout = .ofCode dropCode from rfl)
    entry_mem (vacant.within _) 3 false .inOrder
  obtain ⟨_, _, concludes⟩ := begins.concludes (by decide)
  obtain ⟨-, -, s, t, left, kept, -, -, -, -, covered⟩ :=
    runs_covered_along_edges dropContract dropCode rfl dropEntry entry_mem 7 (by decide) vacant 3
      false .inOrder concludes.failure_eq (by decide +kernel) dropEntry entry_mem dropBlock
      block_mem (by decide +kernel)
  have left_eq : final.exits.get? dropEntry.stop = some [.unknown] := by decide +kernel
  obtain rfl : s = [.unknown] := Option.some.inj (left.symm.trans left_eq)
  have kept_eq : final.exits.get? dropBlock.stop =
      some [.among (.single (some 3)), .unknown] := by decide +kernel
  obtain rfl := Option.some.inj (kept.symm.trans kept_eq)
  refine ⟨_, kept, (covered [5, 6] [3, 6] (by decide) dropBlock_runs).2 (.inr ⟨?_, ?_⟩)⟩
  · exact ⟨trivial, trivial, trivial, trivial, trivial⟩
  · exact fun words covers => covers.append_unknown

/-- Code that hands a destination through a block: the block at 0 leaves the destination 8, and the
block at 5 passes it on to the block at 6, which jumps there. -/
def relayCode : Code := [0x60, 0x08, 0x60, 0x05, 0x56, 0x5b, 0x5b, 0x56, 0x5b, 0x00]

/-- A contract that hands a destination through a block. -/
def relayContract : Contract := { code := some relayCode, layout := .ofCode relayCode }

/-- The destination gets lost: no stack with a word on it is covered after the block at 5, and the
block that a run jumps to is not explored. -/
theorem relayContract_loses_destination :
    let entry : Block := ⟨⟨0, .push 1 8⟩, [⟨2, .push 1 5⟩, ⟨4, .plain .jump⟩]⟩
    let relay : Block := ⟨⟨5, .plain .jumpDest⟩, []⟩
    let outcome := Study.run ⟨relayContract, .fresh relayContract.layout 7 entry.start
      Analysis.defaultVisitLimit false⟩
    let final := outcome.state.analysis.state
    entry ∈ relayContract.layout.blocks ∧ relay ∈ relayContract.layout.blocks ∧
      (relayContract.graph.edgesOf 7).Vacant ∧ outcome.failure = none ∧
      (∀ b ∈ relayContract.layout.blocks,
        (final.visits.getD b.start 0 : Int) ≤ Analysis.defaultVisitLimit) ∧
      relay.start ∈ (outcome.state.contract.graph.edgesOf 7).successors entry.start ∧
      (∃ s t : AbstractStack, final.exits.get? entry.stop = some s ∧
        final.exits.get? relay.stop = some t ∧
        s.Covers [8] ∧ relay.Runs [8] [8] ∧ ¬ t.Covers [8]) ∧
      8 ∉ final.explored := by
  intro entry relay outcome final
  have entry_mem : entry ∈ relayContract.layout.blocks := by decide
  have vacant : (relayContract.graph.edgesOf 7).Vacant := Graph.vacant_edgesOf_empty 7
  have begins := Analysis.fresh_begins (show relayContract.layout = .ofCode relayCode from rfl)
    entry_mem (vacant.within _) Analysis.defaultVisitLimit false .inOrder
  obtain ⟨_, _, concludes⟩ := begins.concludes (by decide)
  have left : final.exits.get? entry.stop = some [.among (.single (some 8))] := by decide +kernel
  have kept : final.exits.get? relay.stop = some [.nothing, .among (.single (some 8))] := by
    decide +kernel
  have runs : relay.Runs [8] [8] := .cons (.other (by decide) [] [] rfl rfl) .nil
  exact ⟨entry_mem, by decide, vacant, concludes.failure_eq, by decide +kernel, by decide +kernel,
    ⟨_, _, left, kept, by decide, runs, by decide⟩, by decide +kernel⟩

end EvmFlow
