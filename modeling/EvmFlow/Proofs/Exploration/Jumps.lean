import EvmFlow.Proofs.Exploration.Renewal
import EvmFlow.Proofs.Exploration.Tracking
import EvmFlow.Proofs.Graph.Partition

/-!
# Which known destinations become edges

An analysis keeps, for every jump, the element that its last interpretation took the destination
from.  A destination that this element names was shown by an interpretation, so it was found, and
what is found is connected before the analysis ends.  The address zero is never found, even where a
jump destination stands there: an edge into the block at zero is there in the end only if it was
there in the beginning.
-/

namespace EvmFlow

/-- Control never falls to the beginning of the code. -/
theorem Block.FallsTo.start_pos {b t : Block} (falls : b.FallsTo t) : 0 < t.start := by
  have next_eq : b.last.next = t.start := falls.adjoins.next_eq
  rw [Instruction.next] at next_eq
  omega

namespace Exploration

/-- The element kept for a jump is the one that some interpretation of its block showed. -/
def Remembers (p : Problem) (log : List Reading) (s : State) : Prop :=
  ∀ b ∈ p.layout.blocks, ∀ element, s.targets.get? b.stop = some element →
    ∃ reading ∈ log, reading.block = b ∧
      (b.interpret p.tracked reading.stack).target? = some element

theorem remembers_initial (p : Problem) (entry : Nat) : Remembers p [] (.initial entry) := by
  intro b _ element kept
  simp [State.initial] at kept

theorem Remembers.append {p : Problem} {log : List Reading} {s : State}
    (remembers : Remembers p log s) (made : List Reading) : Remembers p (log ++ made) s := by
  intro b b_mem element kept
  obtain ⟨reading, member, block_eq, target⟩ := remembers b b_mem element kept
  exact ⟨reading, List.mem_append_left made member, block_eq, target⟩

theorem Remembers.read {p : Problem} (coherent : p.layout.Coherent) {log : List Reading}
    {s : State} (remembers : Remembers p log s) {b : Block} (b_mem : b ∈ p.layout.blocks)
    (g : Ground) (stack : AbstractStack) (rest : List (Option Site)) :
    Remembers p (log ++ [⟨b, stack⟩])
      (revise p g b stack ({ s with queue := rest }.count b)) := by
  intro a a_mem element kept
  rw [get?_targets_revise] at kept
  split at kept
  · rename_i here
    obtain rfl := coherent.eq_of_stop_eq a_mem b_mem here.1
    exact ⟨⟨a, stack⟩, List.mem_append_right log List.mem_cons_self, rfl, kept⟩
  · exact remembers.append _ a a_mem element kept

theorem Move.remembers {p : Problem} (coherent : p.layout.Coherent) {edges : Edges} {s : State}
    {log made : List Reading} {after : Progress} (remembers : Remembers p log s)
    (move : Move p edges s made after) : Remembers p (log ++ made) after.state := by
  cases move with
  | take | leave | count | connect => exact remembers.append []
  | read b_mem next included willing => exact remembers.read coherent b_mem _ _ _

section Ends

variable {p : Problem} {old : Edges} {entry : Nat} {log : List Reading} {edges : Edges} {s : State}
  (renews : Renews p old entry log edges s)
include renews

/-- What an interpretation shows is an edge in the end. -/
theorem Renews.leads_of_shown {b t : Block} (b_mem : b ∈ p.layout.blocks)
    (t_mem : t ∈ p.layout.blocks) (shown : JumpShown p log b t) : edges.Leads b.start t.start := by
  have found := (renews.found_iff b_mem t_mem).2 shown
  exact renews.leads_iff.2 (.inr ⟨b, b_mem, t, t_mem, rfl, rfl, .inr found⟩)

/-- No edge into the block at zero is added. -/
theorem Renews.leads_zero_iff {x : Nat} : edges.Leads x 0 ↔ old.Leads x 0 := by
  refine renews.leads_iff.trans (or_iff_left ?_)
  rintro ⟨b, b_mem, t, t_mem, -, zero, falls | found⟩
  · have positive := falls.start_pos
    omega
  · obtain ⟨reading, -, -, shows⟩ := (renews.found_iff b_mem t_mem).1 found
    have positive := shows.start_pos
    omega

end Ends
end Exploration

open Exploration

/-- A completed analysis of a function has kept a set of values for the jump of every block that it
explored and that ends in one.  For each jump destination of the code that the set names there is an
edge from the block, with one exception: into the block at address zero there is an edge only if
there was one before. -/
theorem known_destinations_connected (contract : Contract) (code : Code)
    {d : Disassembler} (laidOut : contract.layout = .ofCode code d) (entry : Block)
    (entry_mem : entry ∈ contract.layout.blocks) (key : Key) (function : key ≠ Key.dispatcher)
    (within : (contract.graph.edgesOf key).Within contract.layout)
    (visitLimit : Int) (keepsAll : Bool) (schedule : Schedule)
    (completed : (Study.run ⟨contract, .fresh contract.layout key entry.start visitLimit keepsAll
      schedule⟩).failure = none) :
    let analysis := Analysis.fresh contract.layout key entry.start visitLimit keepsAll schedule
    let final := (Study.run ⟨contract, analysis⟩).state
    let edges := final.contract.graph.edgesOf key
    ∀ b ∈ contract.layout.blocks, b.start ∈ final.analysis.state.explored → b.endsInJump →
      ∃ values, final.analysis.state.targets.get? b.stop = some (.among values) ∧
        ∀ i ∈ contract.layout.instructions, i.is .jumpDest → some (i.address : Int) ∈ values →
          ∃ t ∈ contract.layout.blocks, t.start = i.address ∧
            (t.start ∈ edges.successors b.start ↔
              i.address ≠ 0 ∨ t.start ∈ (contract.graph.edgesOf key).successors b.start) := by
  intro analysis final edges b b_mem explored jumps
  have begins : analysis.Begins contract entry :=
    Analysis.fresh_begins laidOut entry_mem within visitLimit keepsAll schedule
  have noJumpi := begins.noJumpi_of_completed completed
  let problem := analysis.problem contract
  obtain ⟨log, after, concludes⟩ := begins.concludes noJumpi
  have coherent : problem.layout.Coherent := begins.coherent
  have renews := renews_of_concludes begins noJumpi function concludes
  obtain ⟨-, remembers, recorded⟩ := concludes.invariant coherent
    (fun log progress => Remembers problem log progress.state ∧ Recorded problem progress.state)
    ⟨remembers_initial problem entry.start, recorded_initial problem entry.start⟩
    fun _ ⟨remembers, recorded⟩ move => ⟨move.remembers coherent remembers, move.recorded recorded⟩
  have state_eq : final.analysis.state = after.state := concludes.state_eq
  have kept : final.analysis.state.KeepsTo problem.tracked :=
    run_keepsTo (State.keepsTo_initial _ entry.start) contract.graph
  rw [state_eq] at explored kept ⊢
  obtain ⟨c, c_mem, start_eq, -, looked⟩ := recorded b.start explored
  obtain rfl := coherent.eq_of_start_eq c_mem b_mem start_eq
  obtain ⟨element, target⟩ := Option.isSome_iff_exists.1 (looked jumps)
  obtain ⟨values, rfl, -⟩ := (kept.targets c.stop element target).exists_values
  refine ⟨values, target, ?_⟩
  intro i i_mem destination named
  rw [laidOut] at i_mem
  obtain ⟨t, t_mem, t_start, t_destination⟩ :=
    Layout.exists_block_of_jumpDest i_mem destination
  rw [← laidOut] at t_mem
  refine ⟨t, t_mem, t_start, ?_⟩
  have edges_eq : edges = _ := concludes.edgesOf_eq
  have reached := renews.mem_explored_iff.1 explored
  rw [edges_eq, Edges.mem_successors_restrict_reachable, and_iff_right reached, ← t_start]
  rcases Nat.eq_zero_or_pos t.start with zero | positive
  · rw [zero, or_iff_right (not_not.2 rfl)]
    exact renews.leads_zero_iff
  · refine iff_of_true ?_ (.inl (Nat.ne_of_gt positive))
    obtain ⟨reading, made, block_eq, shown⟩ := remembers c c_mem _ target
    rw [← t_start] at named
    exact renews.leads_of_shown c_mem t_mem
      ⟨reading, made, block_eq, ⟨values, shown, named⟩, t_destination, positive⟩

theorem loopContract_keeps_jump :
    let final := (Study.run ⟨loopContract, .fresh loopContract.layout 7 loopEntry.start 3
      false⟩).state
    loopHead.start ∈ final.analysis.state.explored ∧
      final.analysis.state.targets.get? loopHead.stop = some (.among (.single (some 2))) ∧
      loopHead.start ∈ (final.contract.graph.edgesOf 7).successors loopHead.start := by
  intro final
  have entry_mem : loopEntry ∈ loopContract.layout.blocks := by decide
  have head_mem : loopHead ∈ loopContract.layout.blocks := by decide
  have explored : loopHead.start ∈ final.analysis.state.explored := by decide +kernel
  have target : final.analysis.state.targets.get? loopHead.stop =
      some (.among (.single (some 2))) := by decide +kernel
  obtain ⟨values, kept, connected⟩ := known_destinations_connected loopContract loopCode rfl
    loopEntry entry_mem 7 (by decide) ((vacant_loopContract 7).within _) 3 false .inOrder
    (by decide +kernel) loopHead head_mem explored (by decide)
  cases target.symm.trans kept
  obtain ⟨t, -, t_start, edge_iff⟩ :=
    connected loopHead.first (by decide) (by decide) (by decide)
  have t_start : t.start = loopHead.start := t_start
  rw [t_start] at edge_iff
  exact ⟨explored, target, edge_iff.2 (.inl (by decide))⟩

/-- Code that jumps to its own beginning, where a jump destination stands. -/
def restartCode : Code := [0x5b, 0x60, 0x00, 0x56]

/-- A contract that jumps to its own beginning. -/
def restartContract : Contract := { code := some restartCode, layout := .ofCode restartCode }

/-- Its only block. -/
def restartBlock : Block := ⟨⟨0, .plain .jumpDest⟩, [⟨1, .push 1 0⟩, ⟨3, .plain .jump⟩]⟩

/-- The analysis knows the destination of the jump, and there is no edge. -/
theorem restartContract_lacks_edge :
    let outcome := Study.run ⟨restartContract, .fresh restartContract.layout 7 restartBlock.start
      Analysis.defaultVisitLimit false⟩
    let final := outcome.state.analysis.state
    restartBlock ∈ restartContract.layout.blocks ∧ (restartContract.graph.edgesOf 7).Vacant ∧
      outcome.failure = none ∧ restartBlock.start ∈ final.explored ∧ restartBlock.endsInJump ∧
      final.targets.get? restartBlock.stop = some (.among (.single (some 0))) ∧
      restartContract.layout.instructionAt? 0 = some ⟨0, .plain .jumpDest⟩ ∧
      restartBlock.start = 0 ∧
      restartBlock.start ∉ (outcome.state.contract.graph.edgesOf 7).successors
        restartBlock.start := by
  intro outcome final
  exact ⟨by decide, Graph.vacant_edgesOf_empty 7, by decide +kernel, by decide +kernel, by decide,
    by decide +kernel, by decide, rfl, by decide +kernel⟩

end EvmFlow
