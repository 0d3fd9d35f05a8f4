import EvmFlow.Proofs.Exploration.Order

/-!
# Edges at both ends

An edge is recorded at both its ends while an analysis runs.  In the end the entries of the blocks
that cannot be reached are dropped, on either side.  What the other blocks have recorded of them is
not: a block that can be reached keeps those among its predecessors that cannot.  Only blocks from
which control falls into it are left behind in this way, since no jump is found in a block that is
not explored.
-/

namespace EvmFlow
namespace Edges

/-- Every edge is recorded at both its ends, and no predecessor twice. -/
structure Paired (edges : Edges) : Prop where
  dual : edges.Dual
  nodup : ∀ a, (edges.predecessors a).Nodup

theorem Vacant.paired {edges : Edges} (vacant : edges.Vacant) : edges.Paired where
  dual := vacant.dual
  nodup a := by simp [vacant.predecessors_eq]

theorem Paired.connectAll {edges : Edges} (paired : edges.Paired) (pairs : List (Nat × Nat)) :
    (edges.connectAll pairs).Paired where
  dual := paired.dual.connectAll pairs
  nodup := by
    have nodup := paired.nodup
    clear paired
    induction pairs generalizing edges with
    | nil => exact nodup
    | cons pair pairs ih => exact ih (nodup_addNeighbour nodup)

/-- A block whose entries are dropped has none at either end of its edges. -/
theorem restrict_get?_of_notMem (edges : Edges) {blocks : List Nat} {a : Nat}
    (dropped : a ∉ blocks) :
    (edges.restrict blocks).incoming.get? a = none ∧
      (edges.restrict blocks).outgoing.get? a = none := by
  rw [incoming_restrict, outgoing_restrict, if_neg dropped, if_neg dropped]
  exact ⟨rfl, rfl⟩

end Edges

namespace Graph

theorem get?_of_mem_entries {graph : Graph} {side : Edges → Std.TreeMap Nat (List Nat)} {a : Nat}
    {key : Key} {list : List Nat} (member : (key, list) ∈ graph.entries side a) :
    (side (graph.edgesOf key)).get? a = some list := by
  obtain ⟨⟨other, edges⟩, listed, entry⟩ := List.mem_filterMap.1 member
  obtain ⟨found, entry, same⟩ := Option.map_eq_some_iff.1 entry
  cases same
  have edges_eq : graph.edgesOf key = edges := by
    rw [edgesOf, Std.TreeMap.getD_eq_getD_getElem?,
      Std.TreeMap.mem_toList_iff_getElem?_eq_some.1 listed, Option.getD_some]
  rw [edges_eq, entry]

end Graph

namespace Exploration

theorem Move.paired {p : Problem} {edges : Edges} {s : State} {made : List Reading}
    {after : Progress} (paired : edges.Paired) (move : Move p edges s made after) :
    after.edges.Paired := by
  cases move with
  | take | leave | count | read => exact paired
  | connect idle connects => exact paired.connectAll _

end Exploration

open Exploration

/-! ## At the end of an analysis -/

namespace Analysis.Concludes

variable {analysis : Analysis} {contract : Contract} {entry : Block} {log : List Reading}
  {after : Progress} (concludes : analysis.Concludes contract entry log after)
  (coherent : contract.layout.Coherent) (noJumpi : contract.layout.endsInJumpi = false)
  (vacant : (contract.graph.edgesOf analysis.key).Vacant)
include concludes coherent noJumpi vacant

theorem paired : after.edges.Paired := by
  refine (concludes.invariant coherent (fun _ progress => progress.edges.Paired) ?_
    fun _ paired move => move.paired paired).2
  have simple := coherent.addSimple_eq noJumpi (contract.graph.edgesOf analysis.key)
  simp only [beginning, Analysis.problem, simple]
  exact vacant.paired.connectAll _

/-- The edges along which control falls are all there, and only these leave a block that cannot be
reached. -/
theorem leads_iff_of_not_reaches {a b : Block} (a_mem : a ∈ contract.layout.blocks)
    (b_mem : b ∈ contract.layout.blocks)
    (unreached : ¬ after.edges.Reaches entry.start a.start) :
    after.edges.Leads a.start b.start ↔ a.FallsTo b := by
  let problem := analysis.problem contract
  obtain ⟨-, rooted, grounded, faithful⟩ := concludes.invariant coherent
    (fun log progress => Rooted problem entry.start progress.edges progress.state ∧
      Grounded problem log progress.edges progress.state ∧
      Faithful problem log progress.edges progress.state)
    ⟨rooted_initial _ _ _, grounded_beginning coherent vacant noJumpi _,
      faithful_beginning coherent _ noJumpi _⟩
    fun placed ⟨rooted, grounded, faithful⟩ move =>
      ⟨move.rooted coherent placed.within rooted, move.grounded coherent grounded,
        move.faithful coherent faithful⟩
  constructor
  · intro leads
    obtain ⟨t, t_mem, start_eq, falls | ⟨reading, made, block_eq, -⟩⟩ :=
      grounded.exists_reason coherent a_mem leads
    · exact coherent.eq_of_start_eq t_mem b_mem start_eq ▸ falls
    · have explored := (faithful.explored_iff a_mem).2 ⟨reading, made, block_eq⟩
      exact absurd (rooted.reached (.inl explored)) unreached
  · exact faithful.falls a_mem b_mem

end Analysis.Concludes

/-- After an analysis that began without edges, the predecessors of a block are the blocks it is a
successor of, and, if it can be reached, also those that cannot be reached and from which control
falls into it. -/
theorem predecessors_exact (contract : Contract) (code : Code)
    {d : Disassembler} (laidOut : contract.layout = .ofCode code d) (entry : Block)
    (entry_mem : entry ∈ contract.layout.blocks) (key : Key)
    (vacant : (contract.graph.edgesOf key).Vacant)
    (visitLimit : Int) (keepsAll : Bool) (schedule : Schedule)
    (completed : (Study.run ⟨contract, .fresh contract.layout key entry.start visitLimit keepsAll
      schedule⟩).failure = none) :
    let analysis := Analysis.fresh contract.layout key entry.start visitLimit keepsAll schedule
    let edges := (Study.run ⟨contract, analysis⟩).state.contract.graph.edgesOf key
    ∀ a ∈ contract.layout.blocks, ∀ b ∈ contract.layout.blocks,
      a.start ∈ edges.predecessors b.start ↔
        b.start ∈ edges.successors a.start ∨
          (¬ edges.Reaches entry.start a.start ∧ edges.Reaches entry.start b.start ∧
            a.FallsTo b) := by
  intro analysis edges a a_mem b b_mem
  have begins : analysis.Begins contract entry :=
    Analysis.fresh_begins laidOut entry_mem (vacant.within _) visitLimit keepsAll schedule
  have noJumpi := begins.noJumpi_of_completed completed
  obtain ⟨log, after, concludes⟩ := begins.concludes noJumpi
  have paired := concludes.paired begins.coherent noJumpi vacant
  have edges_eq : edges = _ := concludes.edgesOf_eq
  rw [edges_eq, Edges.mem_predecessors_restrict_reachable, Edges.mem_successors_restrict_reachable,
    Edges.reaches_restrict_reachable, Edges.reaches_restrict_reachable, ← paired.dual]
  by_cases reached : after.edges.Reaches entry.start a.start
  · simp only [reached, true_and, not_true, false_and, or_false]
    exact ⟨And.right, fun leads => ⟨reached.tail leads, leads⟩⟩
  · have leads_iff := concludes.leads_iff_of_not_reaches begins.coherent noJumpi vacant a_mem b_mem
      reached
    simp only [reached, false_and, not_false_eq_true, true_and, false_or, ← leads_iff]
    rfl

/-- Code in which control falls from a block that cannot be reached into one that can: from the
block at 3 into the block at 4, to which the block at 0 jumps. -/
def strayCode : Code := [0x60, 0x04, 0x56, 0x5b, 0x5b, 0x00]

/-- A contract with a block that cannot be reached. -/
def strayContract : Contract := { code := some strayCode, layout := .ofCode strayCode }

/-- The block that jumps past the next one. -/
def strayEntry : Block := ⟨⟨0, .push 1 4⟩, [⟨2, .plain .jump⟩]⟩

/-- The block that cannot be reached. -/
def strayBlock : Block := ⟨⟨3, .plain .jumpDest⟩, []⟩

/-- The block that both others lead to. -/
def strayTarget : Block := ⟨⟨4, .plain .jumpDest⟩, [⟨5, .plain .stop⟩]⟩

/-- The graph after an analysis of the contract. -/
def strayGraph : Graph :=
  (Study.run ⟨strayContract, .fresh strayContract.layout 7 strayEntry.start
    Analysis.defaultVisitLimit false⟩).state.contract.graph

theorem strayGraph_predecessors :
    (strayGraph.edgesOf 7).predecessors strayTarget.start = [strayBlock.start, strayEntry.start] ∧
      (strayGraph.edgesOf 7).successors strayBlock.start = [] := by
  decide +kernel

theorem strayContract_predecessors_exact :
    let edges := strayGraph.edgesOf 7
    strayEntry ∈ strayContract.layout.blocks ∧ (strayContract.graph.edgesOf 7).Vacant ∧
      strayBlock.start ∈ edges.predecessors strayTarget.start ∧
      ¬ edges.Reaches strayEntry.start strayBlock.start ∧
      edges.Reaches strayEntry.start strayTarget.start ∧ strayBlock.FallsTo strayTarget := by
  intro edges
  have entry_mem : strayEntry ∈ strayContract.layout.blocks := by decide
  have vacant : (strayContract.graph.edgesOf 7).Vacant := Graph.vacant_edgesOf_empty 7
  have exact_iff := predecessors_exact strayContract strayCode rfl strayEntry entry_mem 7 vacant
    Analysis.defaultVisitLimit false .inOrder (by decide +kernel) strayBlock (by decide) strayTarget
    (by decide)
  obtain ⟨predecessors_eq, successors_eq⟩ := strayGraph_predecessors
  have recorded : strayBlock.start ∈ edges.predecessors strayTarget.start := by
    simp [edges, predecessors_eq]
  refine ⟨entry_mem, vacant, recorded, (exact_iff.1 recorded).resolve_left ?_⟩
  intro leads
  cases (show strayTarget.start ∈ [] from successors_eq ▸ leads)

/-- The block at 4 has a predecessor that it is no successor of. -/
theorem strayContract_keeps_predecessor :
    let edges := strayGraph.edgesOf 7
    strayEntry ∈ strayContract.layout.blocks ∧ (strayContract.graph.edgesOf 7).Vacant ∧
      (Study.run ⟨strayContract, .fresh strayContract.layout 7 strayEntry.start
        Analysis.defaultVisitLimit false⟩).failure = none ∧
      strayBlock ∈ strayContract.layout.blocks ∧ strayTarget ∈ strayContract.layout.blocks ∧
      ¬ (strayBlock.start ∈ edges.predecessors strayTarget.start →
        strayTarget.start ∈ edges.successors strayBlock.start) := by
  intro edges
  obtain ⟨predecessors_eq, successors_eq⟩ := strayGraph_predecessors
  refine ⟨by decide, Graph.vacant_edgesOf_empty 7, by decide +kernel, by decide, by decide, ?_⟩
  simp [edges, predecessors_eq, successors_eq]

/-- After an analysis that began without edges, the blocks that can be reached from the entry have
been marked once more, and no others.  Both ends of an edge are marked and know it, no neighbour is
listed twice, and a block that was not marked has no entry under the key. -/
theorem marked_blocks_matched (contract : Contract) (code : Code)
    {d : Disassembler} (laidOut : contract.layout = .ofCode code d) (entry : Block)
    (entry_mem : entry ∈ contract.layout.blocks) (key : Key)
    (vacant : (contract.graph.edgesOf key).Vacant)
    (visitLimit : Int) (keepsAll : Bool) (schedule : Schedule)
    (completed : (Study.run ⟨contract, .fresh contract.layout key entry.start visitLimit keepsAll
      schedule⟩).failure = none) :
    let analysis := Analysis.fresh contract.layout key entry.start visitLimit keepsAll schedule
    let graph := (Study.run ⟨contract, analysis⟩).state.contract.graph
    let edges := graph.edgesOf key
    (∀ a, edges.Reaches entry.start a → graph.marksOf a = contract.graph.marksOf a ++ [key]) ∧
      (∀ a, ¬ edges.Reaches entry.start a → graph.marksOf a = contract.graph.marksOf a ∧
        ∀ list, (key, list) ∉ graph.entries Edges.incoming a ∧
          (key, list) ∉ graph.entries Edges.outgoing a) ∧
      (∀ a c, c ∈ edges.successors a → edges.Reaches entry.start a ∧ edges.Reaches entry.start c ∧
        a ∈ edges.predecessors c) ∧
      ∀ a, (edges.successors a).Nodup ∧ (edges.predecessors a).Nodup := by
  intro analysis graph edges
  have begins : analysis.Begins contract entry :=
    Analysis.fresh_begins laidOut entry_mem (vacant.within _) visitLimit keepsAll schedule
  have noJumpi := begins.noJumpi_of_completed completed
  obtain ⟨log, after, concludes⟩ := begins.concludes noJumpi
  have within := (concludes.execution.placed begins.coherent concludes.placed).within
  have paired := concludes.paired begins.coherent noJumpi vacant
  have edges_eq : edges = after.edges.restrict (after.edges.reachable entry.start) :=
    concludes.edgesOf_eq
  have reaches_iff : ∀ a, edges.Reaches entry.start a ↔ a ∈ after.edges.reachable entry.start := by
    intro a
    rw [edges_eq, Edges.reaches_restrict_reachable, Edges.mem_reachable_iff]
  have marksOf_eq := concludes.marksOf_eq
  refine ⟨?_, ?_, ?_, ?_⟩
  · intro a reached
    rw [marksOf_eq a, if_pos ((reaches_iff a).1 reached)]
    rfl
  · intro a unreached
    have dropped := mt (reaches_iff a).2 unreached
    obtain ⟨noIncoming, noOutgoing⟩ := after.edges.restrict_get?_of_notMem dropped
    rw [← edges_eq] at noIncoming noOutgoing
    rw [marksOf_eq a, if_neg dropped, List.append_nil]
    refine ⟨rfl, fun list => ⟨fun member => ?_, fun member => ?_⟩⟩
    · cases noIncoming.symm.trans (Graph.get?_of_mem_entries member)
    · cases noOutgoing.symm.trans (Graph.get?_of_mem_entries member)
  · intro a c leads
    rw [edges_eq, Edges.mem_successors_restrict_reachable] at leads
    obtain ⟨reached, leads⟩ := leads
    rw [edges_eq, Edges.reaches_restrict_reachable, Edges.reaches_restrict_reachable,
      Edges.mem_predecessors_restrict_reachable]
    have target_reached := reached.tail leads
    exact ⟨reached, target_reached, target_reached, (paired.dual a c).1 leads⟩
  · intro a
    rw [edges_eq]
    exact ⟨Edges.nodup_getD_filter_contains within.nodup _ a,
      Edges.nodup_getD_filter_contains paired.nodup _ a⟩

theorem strayContract_marks_target :
    strayEntry ∈ strayContract.layout.blocks ∧ (strayContract.graph.edgesOf 7).Vacant ∧
      strayGraph.marksOf strayTarget.start = [7] ∧ strayGraph.marksOf strayBlock.start = [] := by
  have entry_mem : strayEntry ∈ strayContract.layout.blocks := by decide
  have vacant : (strayContract.graph.edgesOf 7).Vacant := Graph.vacant_edgesOf_empty 7
  obtain ⟨marked, unmarked, -, -⟩ := marked_blocks_matched strayContract strayCode rfl strayEntry
    entry_mem 7 vacant Analysis.defaultVisitLimit false .inOrder (by decide +kernel)
  have new : ∀ a, strayContract.graph.marksOf a = [] := fun _ => Std.TreeMap.getD_emptyc
  have reached : strayTarget.start ∈ (strayGraph.edgesOf 7).reachable strayEntry.start := by
    decide +kernel
  have unreached : strayBlock.start ∉ (strayGraph.edgesOf 7).reachable strayEntry.start := by
    decide +kernel
  rw [Edges.mem_reachable_iff] at reached unreached
  refine ⟨entry_mem, vacant, (marked _ reached).trans ?_, (unmarked _ unreached).1.trans (new _)⟩
  rw [new, List.nil_append]

end EvmFlow
