import Mathlib.Data.List.Perm.Subperm
import EvmFlow.Contract.Basic
import EvmFlow.Proofs.Graph.Reachability

/-!
# Settling a graph

The search for reachable blocks, as a loop without a bound, ends whatever the edges are, and takes up
each block it meets once.  If the edges of a layout's blocks lead to blocks of it, settling their graph
marks the blocks that can be reached once each, drops the entries of all others, and changes nothing
else.
-/

namespace EvmFlow
namespace Edges

/-! ## The search as a loop -/

/-- The state of a search: the blocks met so far, and those of them still to be taken up, the next one
in front. -/
structure Search where
  met : List Nat
  pending : List Nat

/-- Meets a block, which is then the next one to be taken up; a block met before is left out. -/
def Search.meetOne (search : Search) (block : Nat) : Search :=
  if block ∈ search.met then search
  else { met := search.met ++ [block], pending := block :: search.pending }

/-- A search takes up one block after the other, meeting its successors in order, until nothing is
pending; it counts the blocks taken up. -/
inductive Searches (edges : Edges) : Search → Nat → List Nat → Prop
  | done (met : List Nat) : Searches edges ⟨met, []⟩ 0 met
  | takeUp {met pending found : List Nat} {block taken : Nat}
      (others : Searches edges ((edges.successors block).foldl Search.meetOne ⟨met, pending⟩) taken
        found) :
      Searches edges ⟨met, block :: pending⟩ (taken + 1) found

/-- Meeting blocks one by one appends those not met before, each once, and puts the last of them in
front. -/
theorem foldl_meetOne (blocks met pending : List Nat) :
    blocks.foldl Search.meetOne ⟨met, pending⟩ =
      let new := (blocks.filter (!met.contains ·)).eraseDups
      ⟨met ++ new, new.reverse ++ pending⟩ := by
  induction blocks generalizing met pending with
  | nil => simp
  | cons block blocks ih =>
      rw [List.foldl_cons, Search.meetOne]
      by_cases known : block ∈ met
      · simp [known, ih]
      · have later : (blocks.filter (!met.contains ·)).filter (fun c => !c == block) =
            blocks.filter (!(met ++ [block]).contains ·) := by
          rw [List.filter_filter]
          refine List.filter_congr fun c _ => ?_
          rw [List.contains_append, Bool.not_or, Bool.and_comm, List.contains_cons,
            List.contains_nil, Bool.or_false]
        have listed : (block :: blocks).filter (!met.contains ·) =
            block :: blocks.filter (!met.contains ·) :=
          List.filter_cons_of_pos (by simpa using known)
        rw [if_neg known, ih, listed, List.eraseDups_cons, later]
        simp

section Searches

variable {edges : Edges}

/-- Every block that is met is taken up once. -/
theorem Searches.taken_add {search : Search} {taken : Nat} {found : List Nat}
    (searches : edges.Searches search taken found) :
    taken + search.met.length = found.length + search.pending.length := by
  induction searches with
  | done met => simp
  | takeUp others ih =>
      rw [foldl_meetOne] at ih
      simp only [List.length_append, List.length_reverse, List.length_cons] at ih ⊢
      omega

/-- The bounded search finds the same, if its bound allows for the blocks taken up. -/
theorem Searches.meet_eq {search : Search} {taken : Nat} {found : List Nat}
    (searches : edges.Searches search taken found) {fuel : Nat} (enough : taken ≤ fuel) :
    edges.meet fuel search.met search.pending = found := by
  induction searches generalizing fuel with
  | done met => cases fuel <;> rfl
  | takeUp others ih =>
      cases fuel with
      | zero => cases enough
      | succ fuel =>
          rw [foldl_meetOne] at ih
          exact ih (Nat.le_of_succ_le_succ enough)

end Searches

/-- A search ends: each block it takes up is pending or the target of an edge to a block not met. -/
theorem exists_searches (edges : Edges) (met pending : List Nat) :
    ∃ taken found, taken ≤ pending.length + edges.unmet met ∧
      edges.Searches ⟨met, pending⟩ taken found := by
  induction bound_eq : pending.length + edges.unmet met using Nat.strongRecOn
    generalizing met pending with
  | ind bound ih =>
      cases pending with
      | nil => exact ⟨0, met, Nat.zero_le _, .done met⟩
      | cons block pending =>
          -- what becomes pending was not met before, so the edges to blocks not met pay for it
          let new := ((edges.successors block).filter (!met.contains ·)).eraseDups
          have fewer : edges.unmet (met ++ new) + new.length ≤ edges.unmet met :=
            edges.unmet_append_le block new rfl
          have less : (new.reverse ++ pending).length + edges.unmet (met ++ new) < bound := by
            simp only [List.length_append, List.length_reverse, List.length_cons] at bound_eq ⊢
            omega
          obtain ⟨taken, found, taken_le, searches⟩ :=
            ih _ less (met ++ new) (new.reverse ++ pending) rfl
          refine ⟨taken + 1, found, by omega, .takeUp ?_⟩
          rw [foldl_meetOne]
          exact searches

/-- The search from a block ends with the reachable blocks, and takes up each of them once. -/
theorem searches_reachable (edges : Edges) (entry : Nat) :
    edges.Searches ⟨[entry], [entry]⟩ (edges.reachable entry).length (edges.reachable entry) := by
  obtain ⟨taken, found, taken_le, searches⟩ := edges.exists_searches [entry] [entry]
  have unmet_le : edges.unmet [entry] ≤ edges.targets.length := List.countP_le_length
  have found_eq : edges.reachable entry = found := by
    refine searches.meet_eq ?_
    simp only [List.length_singleton] at taken_le
    omega
  have taken_eq : taken = found.length := by
    simpa using searches.taken_add
  rw [found_eq, ← taken_eq]
  exact searches

/-! ## Edges that stay in a layout -/

/-- Every edge of a layout's blocks leads to one of its blocks. -/
def StaysIn (layout : Layout) (edges : Edges) : Prop :=
  ∀ b ∈ layout.blocks, ∀ target ∈ edges.ends b.start, ∃ c ∈ layout.blocks, target = some c.start

instance (layout : Layout) (edges : Edges) : Decidable (edges.StaysIn layout) :=
  inferInstanceAs (Decidable (∀ b ∈ layout.blocks, ∀ target ∈ edges.ends b.start,
    ∃ c ∈ layout.blocks, target = some c.start))

theorem mem_ends_of_leads {edges : Edges} {a c : Nat} (leads : edges.Leads a c) :
    some c ∈ edges.ends a := by
  have known : some c ∈ (edges.successors a).map some := List.mem_map_of_mem leads
  unfold ends
  split
  · rename_i place _
    rw [← List.take_append_drop place ((edges.successors a).map some), List.mem_append] at known
    simp only [List.mem_append, List.mem_cons]
    tauto
  · exact known

theorem none_mem_ends_of_isLoose {edges : Edges} {a : Nat} (loose : edges.isLoose a = true) :
    none ∈ edges.ends a := by
  rw [isLoose, Std.TreeMap.contains_eq_isSome_getElem?, Option.isSome_iff_exists] at loose
  obtain ⟨place, found⟩ := loose
  simp [ends, found]

section StaysIn

variable {layout : Layout} {edges : Edges} (stays : edges.StaysIn layout)
include stays

theorem StaysIn.isLoose_eq_false {b : Block} (b_mem : b ∈ layout.blocks) :
    edges.isLoose b.start = false := by
  rw [← Bool.not_eq_true]
  intro loose
  obtain ⟨c, -, impossible⟩ := stays b b_mem none (none_mem_ends_of_isLoose loose)
  cases impossible

theorem StaysIn.exists_block_of_reaches {entry : Block} (entry_mem : entry ∈ layout.blocks)
    {a : Nat} (reaches : edges.Reaches entry.start a) : ∃ b ∈ layout.blocks, b.start = a := by
  induction reaches with
  | refl => exact ⟨entry, entry_mem, rfl⟩
  | tail _ leads ih =>
      obtain ⟨b, b_mem, rfl⟩ := ih
      obtain ⟨c, c_mem, same⟩ := stays b b_mem _ (mem_ends_of_leads leads)
      exact ⟨c, c_mem, (Option.some.inj same).symm⟩

/-- No more blocks are reached than there are. -/
theorem StaysIn.length_reachable_le {entry : Block} (entry_mem : entry ∈ layout.blocks) :
    (edges.reachable entry.start).length ≤ layout.blocks.length := by
  have starts : edges.reachable entry.start ⊆ layout.blocks.map Block.start := by
    intro a reached
    obtain ⟨b, b_mem, rfl⟩ :=
      stays.exists_block_of_reaches entry_mem ((edges.mem_reachable_iff _ _).1 reached)
    exact List.mem_map_of_mem b_mem
  have bound := (List.subperm_of_subset (edges.nodup_reachable entry.start) starts).length_le
  rwa [List.length_map] at bound

end StaysIn

end Edges

/-! ## Settling -/

namespace Graph

variable {graph : Graph} {entry : Nat} {key : Key}
  (tight : ∀ a ∈ (graph.edgesOf key).reachable entry, (graph.edgesOf key).isLoose a = false)
include tight

theorem failure_settle : (graph.settle entry key).failure = none := by
  rw [graph.settle_eq_of_reached entry key tight]

theorem marksOf_settle (b : Nat) :
    (graph.settle entry key).state.marksOf b =
      graph.marksOf b ++ if b ∈ (graph.edgesOf key).reachable entry then [key] else [] := by
  rw [graph.settle_eq_of_reached entry key tight]
  exact graph.marksOf_mark key ((graph.edgesOf key).nodup_reachable entry) b

theorem edgesOf_settle :
    (graph.settle entry key).state.edgesOf key =
      (graph.edgesOf key).restrict ((graph.edgesOf key).reachable entry) := by
  rw [graph.settle_eq_of_reached entry key tight, edgesOf_withEdges]

theorem edgesOf_settle_of_ne {other : Key} (different : key ≠ other) :
    (graph.settle entry key).state.edgesOf other = graph.edgesOf other := by
  rw [graph.settle_eq_of_reached entry key tight, edgesOf_withEdges_of_ne _ different, edgesOf_mark]

end Graph

/-- If the edges under a key lead from blocks of the contract to blocks of it, the search from a block
ends, having taken up every reachable block once.  Settling then succeeds; it marks the blocks that can
be reached, once each, and keeps their entries; it marks no other block and drops the entries of all
others; and it changes neither the edges under other keys nor anything else in the contract. -/
theorem settle_marks_exactly_reachable (contract : Contract) (key : Key)
    (stays : (contract.graph.edgesOf key).StaysIn contract.layout) (entry : Block)
    (entry_mem : entry ∈ contract.layout.blocks) :
    let edges := contract.graph.edgesOf key
    let reached := edges.reachable entry.start
    let outcome := contract.settle entry.start key
    let after := outcome.state.graph
    (edges.Searches ⟨[entry.start], [entry.start]⟩ reached.length reached ∧
        reached.length ≤ contract.layout.blocks.length) ∧
      outcome.failure = none ∧
      (∀ b, edges.Reaches entry.start b →
        after.marksOf b = contract.graph.marksOf b ++ [key] ∧
          (after.edgesOf key).outgoing.get? b = edges.outgoing.get? b ∧
          (after.edgesOf key).incoming.get? b = edges.incoming.get? b) ∧
      (∀ b, ¬ edges.Reaches entry.start b →
        after.marksOf b = contract.graph.marksOf b ∧
          (after.edgesOf key).outgoing.get? b = none ∧
          (after.edgesOf key).incoming.get? b = none) ∧
      (∀ other, key ≠ other → after.edgesOf other = contract.graph.edgesOf other) ∧
      outcome.state = { contract with graph := after } := by
  intro edges reached outcome after
  have tight : ∀ a ∈ reached, edges.isLoose a = false := by
    intro a a_mem
    obtain ⟨b, b_mem, rfl⟩ :=
      stays.exists_block_of_reaches entry_mem ((edges.mem_reachable_iff _ _).1 a_mem)
    exact stays.isLoose_eq_false b_mem
  have edges_eq : after.edgesOf key = edges.restrict reached := Graph.edgesOf_settle tight
  refine ⟨⟨edges.searches_reachable entry.start, stays.length_reachable_le entry_mem⟩,
    Graph.failure_settle tight, ?_, ?_, fun other => Graph.edgesOf_settle_of_ne tight, rfl⟩
  · intro b reaches
    have b_mem : b ∈ reached := (edges.mem_reachable_iff _ _).2 reaches
    have marks_eq := Graph.marksOf_settle tight b
    rw [if_pos b_mem] at marks_eq
    rw [edges_eq, edges.outgoing_restrict, edges.incoming_restrict, if_pos b_mem, if_pos b_mem]
    exact ⟨marks_eq, rfl, rfl⟩
  · intro b unreached
    have b_notMem : b ∉ reached := mt (edges.mem_reachable_iff _ _).1 unreached
    have marks_eq := Graph.marksOf_settle tight b
    rw [if_neg b_notMem, List.append_nil] at marks_eq
    rw [edges_eq, edges.outgoing_restrict, edges.incoming_restrict, if_neg b_notMem,
      if_neg b_notMem]
    exact ⟨marks_eq, rfl, rfl⟩

/-- Three blocks, each of which can be jumped to. -/
def ringCode : Code := [0x5b, 0x57, 0x5b, 0x56, 0x5b, 0x00]

/-- The first block. -/
def ringBlock : Block := ⟨⟨0, .plain .jumpDest⟩, [⟨1, .plain .jumpi⟩]⟩

/-- Under the key 7 the first two blocks form a ring, the second leads to itself as well, and the third
leads into the ring; under the key 9 it leads to the second.  The first block is marked already. -/
def ringContract : Contract where
  code := some ringCode
  layout := .ofCode ringCode
  graph :=
    let ring := ({} : Edges).connectAll [(0, 2), (2, 0), (2, 2), (4, 0)]
    (Graph.mark {} 7 [0]).withEdges 7 ring |>.withEdges 9 (({} : Edges).connect 4 2)

theorem ringContract_settled :
    let after := (ringContract.settle ringBlock.start 7).state.graph
    ringBlock ∈ ringContract.layout.blocks ∧
      (ringContract.graph.edgesOf 7).StaysIn ringContract.layout ∧
      after.marksOf 0 = [7, 7] ∧ (after.edgesOf 7).outgoing.get? 0 = some [2] ∧
      (after.edgesOf 7).incoming.get? 0 = some [2, 4] ∧
      after.marksOf 4 = [] ∧ (after.edgesOf 7).outgoing.get? 4 = none ∧
      (after.edgesOf 9).outgoing.get? 4 = some [2] := by
  intro after
  have entry_mem : ringBlock ∈ ringContract.layout.blocks := by decide
  have stays : (ringContract.graph.edgesOf 7).StaysIn ringContract.layout := by decide +kernel
  obtain ⟨-, -, kept, dropped, others, -⟩ :=
    settle_marks_exactly_reachable ringContract 7 stays ringBlock entry_mem
  have outside : ¬ (ringContract.graph.edgesOf 7).Reaches ringBlock.start 4 := by
    rw [← Edges.mem_reachable_iff]
    decide +kernel
  obtain ⟨marked, outgoing, incoming⟩ := kept 0 .refl
  obtain ⟨unmarked, noOutgoing, -⟩ := dropped 4 outside
  refine ⟨entry_mem, stays, marked.trans ?_, outgoing.trans ?_, incoming.trans ?_,
    unmarked.trans ?_, noOutgoing, ?_⟩
  · decide +kernel
  · decide +kernel
  · decide +kernel
  · decide +kernel
  · rw [others 9 (by decide)]
    decide +kernel

end EvmFlow
