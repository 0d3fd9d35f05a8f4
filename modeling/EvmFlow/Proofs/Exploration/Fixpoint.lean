import EvmFlow.Proofs.Exploration.Analysis

/-!
# The fixpoint of an analysis

As long as no block has been visited too often, an explored block is consistent with the stacks that
its predecessors left, or is still to be visited.  An interpretation disturbs only the successors of
its block, since an edge is recorded at both ends, and a new edge puts its target on the agenda.
-/

namespace EvmFlow

/-- Every edge is recorded at both its ends. -/
def Edges.Dual (edges : Edges) : Prop :=
  ∀ a c, c ∈ edges.successors a ↔ a ∈ edges.predecessors c

theorem Edges.Vacant.dual {edges : Edges} (vacant : edges.Vacant) : edges.Dual := by
  intro a c
  simp [vacant.successors_eq, vacant.predecessors_eq]

theorem Edges.Dual.connectAll {edges : Edges} (dual : edges.Dual) (pairs : List (Nat × Nat)) :
    (edges.connectAll pairs).Dual := by
  intro a c
  rw [mem_successors_connectAll, mem_predecessors_connectAll, dual]

namespace Exploration

/-- The stack kept after a block is the one that interpreting it once more would leave. -/
def Consistent (p : Problem) (edges : Edges) (s : State) (b : Block) : Prop :=
  s.exits.get? b.stop =
    some (b.interpret p.tracked (entryStack p (p.current edges) s b)).exit

/-- The stack before a block depends only on the stacks after its predecessors. -/
theorem entryStack_congr {p : Problem} {edges edges' : Edges} {s s' : State} {b : Block}
    (predecessors_eq : edges'.predecessors b.start = edges.predecessors b.start)
    (exits_eq : ∀ a ∈ p.layout.blocks, a.start ∈ edges.predecessors b.start →
      s'.exits.get? a.stop = s.exits.get? a.stop) :
    entryStack p (p.current edges') s' b = entryStack p (p.current edges) s b := by
  have incoming_eq :
      incomingStacks (p.current edges') s' b = incomingStacks (p.current edges) s b := by
    simp only [incomingStacks, Problem.current, predecessors_eq]
    apply List.filterMap_congr
    intro address father
    cases found : p.layout.blockFrom? address with
    | none => rfl
    | some a =>
        obtain ⟨a_mem, rfl⟩ := Layout.mem_of_blockFrom? found
        exact exits_eq a a_mem father
  simp only [entryStack, incoming_eq]

/-- No block has been visited more often than the limit. -/
def Unexhausted (p : Problem) (s : State) : Prop :=
  ∀ b ∈ p.layout.blocks, (s.visits.getD b.start 0 : Int) ≤ p.visitLimit

/-- Every explored block is consistent or still to be visited, unless some block is exhausted. -/
structure Converging (p : Problem) (edges : Edges) (s : State) : Prop where
  dual : edges.Dual
  settled : Unexhausted p s → ∀ b ∈ p.layout.blocks, b.start ∈ s.explored →
    Consistent p edges s b ∨ s.Pending b.start

theorem Unexhausted.of_visits_le {p : Problem} {s s' : State} (unexhausted : Unexhausted p s')
    (visits_le : ∀ a, s.visits.getD a 0 ≤ s'.visits.getD a 0) : Unexhausted p s := by
  intro b b_mem
  have limited := unexhausted b b_mem
  have fewer := visits_le b.start
  omega

theorem visits_le_count (s : State) (b : Block) (a : Nat) :
    s.visits.getD a 0 ≤ (s.count b).visits.getD a 0 := by
  rw [visits_count]
  exact Nat.le_add_right _ _

section Moves

variable {p : Problem} {edges : Edges} {s : State}

theorem Converging.take (converging : Converging p edges s) {b : Block} {agenda : List Site}
    (idle : s.queue = []) (taken : ({ block := b.start } :: agenda).Perm s.agenda) :
    Converging p edges
      { s with agenda, rounds := s.rounds + 1, queue := [some { block := b.start }] } where
  dual := converging.dual
  settled unexhausted a a_mem explored :=
    (converging.settled unexhausted a a_mem explored).imp_right
      (State.pending_take idle taken _ _).2

/-- A visit that is only counted is one too many. -/
theorem Converging.count (converging : Converging p edges s) {b : Block}
    (b_mem : b ∈ p.layout.blocks) {rest : List (Option Site)}
    (exhaustion : exhausted p (s.count b) b) :
    Converging p edges ({ s with queue := rest }.count b) where
  dual := converging.dual
  settled unexhausted := by
    have limited : ((s.count b).visits.getD b.start 0 : Int) ≤ p.visitLimit := unexhausted b b_mem
    simp only [exhausted, Bool.and_eq_true, decide_eq_true_eq] at exhaustion
    omega

theorem Converging.read (converging : Converging p edges s) (coherent : p.layout.Coherent)
    (within : edges.Within p.layout) {b : Block} (b_mem : b ∈ p.layout.blocks)
    {rest : List (Option Site)} (next : s.queue = some { block := b.start } :: rest) :
    Converging p edges (revise p (p.current edges) b (entryStack p (p.current edges) s b)
      ({ s with queue := rest }.count b)) := by
  let stack := entryStack p (p.current edges) s b
  let counted := { s with queue := rest }.count b
  let revised := revise p (p.current edges) b stack counted
  refine ⟨converging.dual, fun unexhausted a a_mem explored => ?_⟩
  change Consistent p edges revised a ∨ revised.Pending a.start
  by_cases disturbed : s.exits.get? b.stop ≠ some (b.interpret p.tracked stack).exit ∧
      a.start ∈ edges.successors b.start
  · exact .inr (.inl (mem_queue_revise_of_changed within disturbed.1 disturbed.2))
  · have entry_eq : entryStack p (p.current edges) revised a =
        entryStack p (p.current edges) s a := by
      refine entryStack_congr rfl fun father father_mem leads => ?_
      rw [get?_exits_revise]
      split
      · rename_i same
        obtain rfl := coherent.eq_of_stop_eq father_mem b_mem same
        by_contra changed
        exact disturbed ⟨fun kept => changed kept.symm, (converging.dual _ _).2 leads⟩
      · rfl
    by_cases same : a = b
    · subst same
      left
      rw [Consistent, get?_exits_revise, if_pos rfl, entry_eq]
    · have known : a.start ∈ s.explored :=
        ((mem_explored_revise _ _ _ _ _).1 explored).resolve_right
          fun start_eq => same (coherent.eq_of_start_eq a_mem b_mem start_eq)
      have unexhausted : Unexhausted p s :=
        unexhausted.of_visits_le fun c => by
          rw [revise_visits]
          exact visits_le_count _ b c
      rcases converging.settled unexhausted a a_mem known with consistent | pending
      · left
        rw [Consistent, get?_exits_revise, entry_eq,
          if_neg fun stop_eq => same (coherent.eq_of_stop_eq a_mem b_mem stop_eq)]
        exact consistent
      · right
        have popped := (pending.pop next).resolve_left
          fun start_eq => same (coherent.eq_of_start_eq a_mem b_mem start_eq)
        exact popped.revise _ _ _ _

theorem Converging.connect (converging : Converging p edges s) {pairs : List (Nat × Nat)}
    {agenda : List Site} (connects : Connects p s pairs agenda) :
    Converging p (edges.connectAll pairs) { s with fresh := [], agenda } := by
  refine ⟨converging.dual.connectAll pairs, fun unexhausted a a_mem explored => ?_⟩
  by_cases touched : ∃ x, (x, a.start) ∈ pairs
  · obtain ⟨x, pair⟩ := touched
    exact .inr (State.pending_of_mem_pairs connects pair)
  · rcases converging.settled unexhausted a a_mem explored with consistent | pending
    · left
      have untouched : ∀ x, (x, a.start) ∉ pairs := fun x pair => touched ⟨x, pair⟩
      let connected : State := { s with fresh := [], agenda }
      have entry_eq : entryStack p (p.current (edges.connectAll pairs)) connected a =
          entryStack p (p.current edges) s a :=
        entryStack_congr (Edges.predecessors_connectAll_of_notMem untouched) fun _ _ _ => rfl
      rw [Consistent, entry_eq]
      exact consistent
    · exact .inr (pending.connect connects)

end Moves

theorem Move.converging {p : Problem} (coherent : p.layout.Coherent) (excluded_eq : p.excluded = [])
    {edges : Edges} {s : State} {made : List Reading} {after : Progress}
    (within : edges.Within p.layout) (converging : Converging p edges s)
    (move : Move p edges s made after) : Converging p after.edges after.state := by
  cases move with
  | take b_mem idle connected taken => exact converging.take idle taken
  | leave b_mem next excluded => simp [excluded_eq] at excluded
  | count b_mem next included exhaustion => exact converging.count b_mem exhaustion
  | read b_mem next included willing => exact converging.read coherent within b_mem next
  | connect idle connects => exact converging.connect connects

/-- With nothing pending, every explored block is consistent. -/
theorem Converging.consistent {p : Problem} {edges : Edges} {s : State}
    (converging : Converging p edges s) (idle : s.queue = []) (done : s.agenda = [])
    (unexhausted : Unexhausted p s) {b : Block} (b_mem : b ∈ p.layout.blocks)
    (explored : b.start ∈ s.explored) : Consistent p edges s b := by
  refine (converging.settled unexhausted b b_mem explored).resolve_right ?_
  simp [State.Pending, idle, done]

theorem converging_beginning {p : Problem} (coherent : p.layout.Coherent) {graph : Graph}
    (vacant : (graph.edgesOf p.key).Vacant) (noJumpi : p.layout.endsInJumpi = false) (entry : Nat) :
    Converging p (beginning p graph entry).edges (beginning p graph entry).state where
  dual := by
    rw [beginning, coherent.addSimple_eq noJumpi]
    exact vacant.dual.connectAll _
  settled _ b _ explored := by cases explored

end Exploration

open Exploration

/-- A completed analysis that began without edges stops at a fixpoint, if no block was visited more
often than the limit: interpreting an explored block once more, on the join of what is kept for its
predecessors, or on the empty stack if there is nothing, leaves the stack that is kept for it. -/
theorem analysis_at_fixpoint (contract : Contract) (code : Code) {d : Disassembler}
    (laidOut : contract.layout = .ofCode code d) (entry : Block)
    (entry_mem : entry ∈ contract.layout.blocks) (key : Key) (function : key ≠ Key.dispatcher)
    (vacant : (contract.graph.edgesOf key).Vacant)
    (visitLimit : Int) (keepsAll : Bool) (schedule : Schedule)
    (completed : (Study.run ⟨contract, .fresh contract.layout key entry.start visitLimit keepsAll
      schedule⟩).failure = none)
    (unexhausted : ∀ b ∈ contract.layout.blocks,
      ((Study.run ⟨contract, .fresh contract.layout key entry.start visitLimit keepsAll
        schedule⟩).state.analysis.state.visits.getD b.start 0 : Int) ≤ visitLimit) :
    let analysis := Analysis.fresh contract.layout key entry.start visitLimit keepsAll schedule
    let problem := analysis.problem contract
    let edges := (explore problem contract.graph analysis.state).state.graph.edgesOf key
    let final := (Study.run ⟨contract, analysis⟩).state.analysis.state
    ∀ b ∈ contract.layout.blocks, b.start ∈ final.explored →
      let left := (edges.predecessors b.start).filterMap fun address =>
        (contract.layout.blockFrom? address).bind fun father => final.exits.get? father.stop
      let stack := if left.isEmpty then [] else AbstractStack.join analysis.tracked left
      final.exits.get? b.stop = some (b.interpret analysis.tracked stack).exit := by
  intro analysis problem edges final b b_mem explored
  have begins : analysis.Begins contract entry :=
    Analysis.fresh_begins laidOut entry_mem (vacant.within _) visitLimit keepsAll schedule
  have noJumpi := begins.noJumpi_of_completed completed
  have excluded_eq : problem.excluded = [] := if_neg function
  obtain ⟨log, after, concludes⟩ := begins.concludes noJumpi
  have converging := (concludes.invariant begins.coherent
    (fun _ progress => Converging problem progress.edges progress.state)
    (converging_beginning begins.coherent vacant noJumpi entry.start)
    fun placed converging move =>
      move.converging begins.coherent excluded_eq placed.within converging).2
  have final_eq : final = after.state := concludes.state_eq
  have edges_eq : edges = after.edges := by
    have explored_eq : explore problem contract.graph analysis.state = _ := concludes.explore_eq
    simp only [edges, explored_eq]
    exact Graph.edgesOf_withEdges _ _ _
  rw [final_eq] at explored ⊢
  rw [edges_eq]
  have unexhausted : Unexhausted problem after.state := final_eq ▸ unexhausted
  rcases converging.settled unexhausted b b_mem explored with consistent | queued | scheduled
  · rw [Consistent, entryStack] at consistent
    exact consistent
  · rw [concludes.resting.idle] at queued
    cases queued
  · rw [concludes.agenda_eq] at scheduled
    cases scheduled

/-- The block that jumps back to its start. -/
def loopHead : Block := ⟨⟨2, .plain .jumpDest⟩, [⟨3, .push 1 2⟩, ⟨5, .plain .jumpi⟩]⟩

/-- The analysis of the contract with a loop. -/
def loopAnalysis : Analysis := .fresh loopContract.layout 7 loopEntry.start 3 false

/-- The state in which it ends. -/
def loopFinal : State := (Study.run ⟨loopContract, loopAnalysis⟩).state.analysis.state

/-- The edges it has found. -/
def loopEdges : Edges :=
  (explore (loopAnalysis.problem loopContract) loopContract.graph
    loopAnalysis.state).state.graph.edgesOf 7

/-- The entry and the head itself have left one unknown element each; on their join, with nothing on
top, the head leaves one unknown element again. -/
theorem loopContract_at_fixpoint :
    loopHead.start ∈ loopFinal.explored ∧ loopEdges.predecessors loopHead.start = [0, 2] ∧
      loopFinal.exits.get? loopEntry.stop = some [.unknown] ∧
      AbstractStack.join loopAnalysis.tracked [[.unknown], [.unknown]] = [.nothing, .unknown] ∧
      loopFinal.exits.get? loopHead.stop =
        some (loopHead.interpret loopAnalysis.tracked [.nothing, .unknown]).exit ∧
      loopFinal.exits.get? loopHead.stop = some [.unknown] := by
  have entry_mem : loopEntry ∈ loopContract.layout.blocks := by decide
  have head_mem : loopHead ∈ loopContract.layout.blocks := by decide
  have within := (vacant_loopContract 7).within loopContract.layout
  have begins := Analysis.fresh_begins rfl entry_mem within 3 false .inOrder
  obtain ⟨_, _, concludes⟩ := begins.concludes (by decide)
  have explored : loopHead.start ∈ loopFinal.explored := by decide +kernel
  have left_eq : ((loopEdges.predecessors loopHead.start).filterMap fun address =>
      (loopContract.layout.blockFrom? address).bind fun father =>
        loopFinal.exits.get? father.stop) = [[.unknown], [.unknown]] := by decide +kernel
  have joined : AbstractStack.join loopAnalysis.tracked [[.unknown], [.unknown]] =
      [.nothing, .unknown] := by decide +kernel
  have again := analysis_at_fixpoint loopContract loopCode rfl loopEntry entry_mem 7 (by decide)
    (vacant_loopContract 7) 3 false .inOrder concludes.failure_eq (by decide +kernel) loopHead
    head_mem explored
  rw [← loopAnalysis, ← loopFinal, ← loopEdges, left_eq] at again
  refine ⟨explored, by decide +kernel, by decide +kernel, joined, ?_, by decide +kernel⟩
  rw [← joined]
  exact again

end EvmFlow
