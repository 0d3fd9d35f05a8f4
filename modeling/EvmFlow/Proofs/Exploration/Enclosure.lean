import EvmFlow.Proofs.Exploration.Independence

/-!
# Edges between blocks

Whatever adds an edge has found both its ends in the layout, and dropping entries adds none.  So the
edges of every key keep to the blocks of the layout at both ends through a whole run of an analysis,
and also through a run that fails.
-/

namespace EvmFlow
namespace Edges

/-- The edges lead to blocks of a layout, and come from blocks of it. -/
structure Enclosed (layout : Layout) (edges : Edges) : Prop extends Within layout edges where
  exists_source : ∀ {a c}, a ∈ edges.predecessors c → ∃ b ∈ layout.blocks, b.start = a

theorem Vacant.enclosed {edges : Edges} (vacant : edges.Vacant) (layout : Layout) :
    edges.Enclosed layout where
  toWithin := vacant.within layout
  exists_source member := by simp [vacant.predecessors_eq] at member

/-- Edges that keep to a layout without blocks keep to every layout. -/
theorem Enclosed.of_blocks_eq_nil {layout : Layout} {edges : Edges}
    (enclosed : edges.Enclosed layout) (empty : layout.blocks = []) (other : Layout) :
    edges.Enclosed other where
  exists_block member := by simpa [empty] using enclosed.exists_block member
  nodup := enclosed.nodup
  tight := enclosed.tight
  exists_source member := by simpa [empty] using enclosed.exists_source member

section Enclosed

variable {layout : Layout} {edges : Edges} (enclosed : edges.Enclosed layout)
include enclosed

theorem Enclosed.connectAll {pairs : List (Nat × Nat)}
    (sources : ∀ pair ∈ pairs, ∃ b ∈ layout.blocks, b.start = pair.1)
    (targets : ∀ pair ∈ pairs, ∃ b ∈ layout.blocks, b.start = pair.2) :
    (edges.connectAll pairs).Enclosed layout where
  toWithin := enclosed.toWithin.connectAll targets
  exists_source := by
    intro a c member
    rcases mem_predecessors_connectAll.1 member with member | member
    · exact enclosed.exists_source member
    · exact sources _ member

theorem Enclosed.connect {b t : Block} (b_mem : b ∈ layout.blocks) (t_mem : t ∈ layout.blocks) :
    (edges.connect b.start t.start).Enclosed layout := by
  change (edges.connectAll [(b.start, t.start)]).Enclosed layout
  refine enclosed.connectAll ?_ ?_
  · exact List.forall_mem_singleton.2 ⟨b, b_mem, rfl⟩
  · exact List.forall_mem_singleton.2 ⟨t, t_mem, rfl⟩

theorem Enclosed.restrict (blocks : List Nat) : (edges.restrict blocks).Enclosed layout where
  exists_block member := enclosed.exists_block (leads_of_leads_restrict member)
  nodup := nodup_getD_filter_contains enclosed.nodup blocks
  tight a := by
    have tight := enclosed.tight a
    simp only [isLoose, Edges.restrict] at tight ⊢
    rw [← Bool.not_eq_true, ← Std.TreeMap.mem_iff_contains] at tight ⊢
    exact fun member => tight (Std.TreeMap.mem_of_mem_filter member)
  exists_source := by
    intro a c member
    rw [predecessors_restrict] at member
    split at member
    · exact enclosed.exists_source member
    · cases member

end Enclosed

theorem Enclosed.connectSimple {layout : Layout} {bs : List Block}
    (known : ∀ b ∈ bs, b ∈ layout.blocks) {edges : Edges} (enclosed : edges.Enclosed layout) :
    (connectSimple layout bs edges).state.Enclosed layout := by
  fun_induction Edges.connectSimple layout bs edges with
  | case1 edges => exact enclosed
  | case2 b bs edges _ ih => exact ih (List.forall_mem_cons.1 known).2 enclosed
  | case3 b bs edges address _ target found ih =>
      obtain ⟨b_mem, known⟩ := List.forall_mem_cons.1 known
      exact ih known (enclosed.connect b_mem (Layout.mem_of_blockAt? found).1)
  | case4 => exact enclosed
  | case5 b bs edges address _ _ _ ih => exact ih (List.forall_mem_cons.1 known).2 enclosed

/-- The simple edges connect blocks, also where adding them fails. -/
theorem Enclosed.addSimple {layout : Layout} {edges : Edges} (enclosed : edges.Enclosed layout) :
    (edges.addSimple layout).state.Enclosed layout :=
  enclosed.connectSimple fun _ member => member

end Edges

namespace Exploration

theorem Move.enclosed {p : Problem} {edges : Edges} {s : State} {made : List Reading}
    {after : Progress} (enclosed : edges.Enclosed p.layout) (move : Move p edges s made after) :
    after.edges.Enclosed p.layout := by
  cases move with
  | take | leave | count | read => exact enclosed
  | connect idle connects =>
      refine enclosed.connectAll ?_ ?_
      · rintro ⟨x, c⟩ pair
        obtain ⟨b, b_mem, t, t_mem, -, start_eq, -⟩ := connects.mem_pairs.1 pair
        exact ⟨b, b_mem, start_eq⟩
      · rintro ⟨x, c⟩ pair
        obtain ⟨b, b_mem, t, t_mem, -, -, target_eq⟩ := connects.mem_pairs.1 pair
        exact ⟨t, t_mem, target_eq⟩

end Exploration

open Exploration

namespace Analysis

variable {analysis : Analysis} {contract : Contract} {entry : Block}

/-- Every state of an execution has edges between blocks only. -/
theorem Begins.enclosed_execution (begins : analysis.Begins contract entry)
    (noJumpi : contract.layout.endsInJumpi = false)
    (enclosed : (contract.graph.edgesOf analysis.key).Enclosed contract.layout)
    {log : List Reading} {after : Progress}
    (execution : Execution (analysis.problem contract)
      (beginning (analysis.problem contract) contract.graph entry.start) log after) :
    after.edges.Enclosed contract.layout :=
  (execution.invariant_of_move (p := analysis.problem contract) begins.coherent
    (fun _ progress => progress.edges.Enclosed contract.layout)
    (beginning_placed begins.coherent begins.within begins.entry_mem noJumpi) enclosed.addSimple
    fun _ enclosed move => move.enclosed enclosed).2

/-- A run leaves edges between blocks only, under every key, whether it fails or not. -/
theorem Begins.enclosed_run (begins : analysis.Begins contract entry)
    (enclosed : ∀ key, (contract.graph.edgesOf key).Enclosed contract.layout) (key : Key) :
    ((Study.run ⟨contract, analysis⟩).state.contract.graph.edgesOf key).Enclosed
      contract.layout := by
  by_cases same : analysis.key = key
  · subst same
    by_cases jumpi : contract.layout.endsInJumpi
    · rw [begins.edgesOf_eq_of_endsInJumpi jumpi]
      exact (enclosed analysis.key).addSimple
    · rw [Bool.not_eq_true] at jumpi
      obtain ⟨log, after, concludes⟩ := begins.concludes jumpi
      rw [concludes.edgesOf_eq]
      exact (begins.enclosed_execution jumpi (enclosed _) concludes.execution).restrict _
  · have kept : (Study.run ⟨contract, analysis⟩).state.contract.graph.edgesOf key =
        contract.graph.edgesOf key :=
      edgesOf_run_of_ne (p := analysis.problem contract) same _ _
    rw [kept]
    exact enclosed key

end Analysis
end EvmFlow
