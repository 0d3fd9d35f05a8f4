import Mathlib.Algebra.BigOperators.Ring.List
import Mathlib.Algebra.Order.BigOperators.Group.List
import Mathlib.Algebra.Order.Ring.Nat
import Mathlib.Data.Finset.Prod
import EvmFlow.Proofs.Exploration.Execution

/-!
# Termination of an exploration

A round ends because each interpretation of a block queues its successors once and is counted.  The
rounds end because a block is put on the agenda only when a jump and a destination are found
together for the first time.  `explore_execution` concludes that the bounded loops follow an
execution to its end.
-/

namespace EvmFlow
namespace Exploration

/-! ## The visits of a round -/

/-- How often a block may be interpreted. -/
def Problem.limit (p : Problem) : Nat := (max 1 p.visitLimit).toNat

theorem exhausted_count_iff (p : Problem) (s : State) (b : Block) :
    exhausted p (s.count b) b ↔ p.limit < s.visits.getD b.start 0 + 1 := by
  simp only [exhausted, State.count, Std.TreeMap.getD_insert_self, Bool.and_eq_true,
    decide_eq_true_eq, Problem.limit]
  omega

theorem visits_count (s : State) (b : Block) (a : Nat) :
    (s.count b).visits.getD a 0 = s.visits.getD a 0 + if a = b.start then 1 else 0 := by
  rw [State.count, Std.TreeMap.getD_insert]
  by_cases same : a = b.start
  · simp [same]
  · have different : ¬ compare b.start a = .eq := by
      simpa [Nat.compare_eq_eq] using fun h => same h.symm
    simp [same, different]

/-- The visits of a round that may still come: those queued, and those that the interpretations a
block has left can queue. -/
def work (p : Problem) (edges : Edges) (s : State) : Nat :=
  s.queue.length + (p.layout.blocks.map fun b =>
    (edges.successors b.start).length * (p.limit - s.visits.getD b.start 0)).sum

theorem sum_map_add_le {α : Type} {l : List α} {f g : α → Nat} {b : α} {surplus : Nat}
    (b_mem : b ∈ l) (le : ∀ a ∈ l, f a ≤ g a) (much : f b + surplus ≤ g b) :
    (l.map f).sum + surplus ≤ (l.map g).sum := by
  obtain ⟨before, after, rfl⟩ := List.append_of_mem b_mem
  have front : (before.map f).sum ≤ (before.map g).sum :=
    List.sum_le_sum fun a member => le a (by simp [member])
  have back : (after.map f).sum ≤ (after.map g).sum :=
    List.sum_le_sum fun a member => le a (by simp [member])
  simp only [List.map_append, List.map_cons, List.sum_append, List.sum_cons]
  omega

theorem work_visit_lt {p : Problem} {edges : Edges} (within : edges.Within p.layout) {s : State}
    {b : Block} (b_mem : b ∈ p.layout.blocks) {rest : List (Option Site)}
    (next : s.queue = some { block := b.start } :: rest) :
    work p edges (visit p (p.current edges) b { s with queue := rest }) < work p edges s := by
  let popped : State := { s with queue := rest }
  have queue_length : s.queue.length = rest.length + 1 := by simp [next]
  have counted_le : ∀ a ∈ p.layout.blocks,
      (edges.successors a.start).length * (p.limit - (popped.count b).visits.getD a.start 0) ≤
        (edges.successors a.start).length * (p.limit - s.visits.getD a.start 0) := by
    intro a _
    apply Nat.mul_le_mul_left
    rw [visits_count, show popped.visits = s.visits from rfl]
    omega
  rcases visit_cases p (p.current edges) b popped with
    ⟨-, -, visited⟩ | ⟨-, -, -, visited⟩ | ⟨-, willing, -, visited⟩
  · rw [visited]
    simp only [work, popped, queue_length]
    omega
  · rw [visited]
    have sums := List.sum_le_sum counted_le
    simp only [work, queue_length]
    have queue_eq : (popped.count b).queue.length = rest.length := rfl
    omega
  · rw [visited]
    have allowed : s.visits.getD b.start 0 + 1 ≤ p.limit := by
      have := (exhausted_count_iff p popped b).not.1 (by simp [willing])
      exact Nat.not_lt.1 this
    have paid : (edges.successors b.start).length *
          (p.limit - (popped.count b).visits.getD b.start 0) + (edges.successors b.start).length ≤
        (edges.successors b.start).length * (p.limit - s.visits.getD b.start 0) := by
      rw [visits_count, if_pos rfl, ← Nat.mul_succ]
      apply Nat.mul_le_mul_left
      change p.limit - (s.visits.getD b.start 0 + 1) + 1 ≤ _
      omega
    have sums := sum_map_add_le b_mem counted_le paid
    have queue_le : (revise p (p.current edges) b (entryStack p (p.current edges) popped b)
        (popped.count b)).queue.length ≤ rest.length + (edges.successors b.start).length := by
      rw [revise_queue_current within]
      split
      · exact Nat.le_add_right _ _
      · simp [State.count, popped]
    simp only [work, revise_visits, queue_length]
    omega

theorem rounds_visit (p : Problem) (g : Ground) (b : Block) (s : State) :
    (visit p g b s).rounds = s.rounds := by
  rcases visit_cases p g b s with ⟨-, -, visited⟩ | ⟨-, -, -, visited⟩ | ⟨-, -, -, visited⟩ <;>
    rw [visited]
  · rfl
  · exact revise_rounds p g b _ _

/-- With a bound on the work, the visits of a round go on until the queue is empty. -/
theorem drain_execution {p : Problem} (coherent : p.layout.Coherent) {edges : Edges} (fuel : Nat)
    {s : State} (placed : Placed p ⟨edges, s⟩) (enough : work p edges s ≤ fuel) :
    (∃ log, Execution p ⟨edges, s⟩ log ⟨edges, drain p edges fuel s⟩) ∧
      (drain p edges fuel s).queue = [] ∧ (drain p edges fuel s).rounds = s.rounds := by
  induction fuel generalizing s with
  | zero =>
      have empty : s.queue.length = 0 := by
        rw [work] at enough
        omega
      exact ⟨⟨[], .refl⟩, List.length_eq_zero_iff.1 empty, rfl⟩
  | succ fuel ih =>
      rw [drain]
      cases queue : s.queue with
      | nil =>
          rw [if_pos (by simp [State.isStuck, queue])]
          exact ⟨⟨[], .refl⟩, queue, rfl⟩
      | cons entry rest =>
          obtain ⟨b, b_mem, rfl⟩ := placed.queued entry (queue ▸ List.mem_cons_self)
          have stepped : step p edges s =
              visitAt p edges { block := b.start } { s with queue := rest } := by
            simp [step, queue]
          have transition : Transition p ⟨edges, s⟩ _ _ := .visit queue
          have less : work p edges (visit p (p.current edges) b { s with queue := rest }) <
              work p edges s := work_visit_lt placed.within b_mem queue
          have placed := (transition.move coherent placed).placed placed
          rw [← visitAt_eq coherent b_mem] at less
          obtain ⟨⟨log, execution⟩, done, rounds_eq⟩ := ih placed (by omega)
          rw [if_neg (by simp [State.isStuck, queue]), stepped]
          refine ⟨⟨_, (Execution.single transition).trans execution⟩, done, ?_⟩
          rw [rounds_eq, visitAt_eq coherent b_mem, rounds_visit]

theorem work_le_visitBound {p : Problem} {edges : Edges} (within : edges.Within p.layout)
    (s : State) : work p edges s ≤ visitBound p edges s := by
  have degrees : (p.current edges).edgeCount =
      (p.layout.blocks.map fun b => (edges.successors b.start).length).sum := by
    simp only [Ground.edgeCount, Problem.current, within.ends_eq, List.length_map]
    rw [List.sum_eq_foldr, List.foldr_map]
  have present : (p.current edges).edgeCount ≤
      (p.grounds edges).foldr (fun g count => g.edgeCount + count) 0 := by
    rw [Problem.grounds, List.foldr_cons]
    exact Nat.le_add_right _ _
  have total : (p.layout.blocks.map fun b =>
      (edges.successors b.start).length * (p.limit - s.visits.getD b.start 0)).sum ≤
        (p.current edges).edgeCount * p.limit := by
    rw [degrees, ← List.sum_map_mul_right]
    exact List.sum_le_sum fun b _ => Nat.mul_le_mul_left _ (Nat.sub_le _ _)
  exact Nat.add_le_add_left (total.trans (Nat.mul_le_mul_right p.limit present)) s.queue.length

/-! ## One round -/

/-- Nothing is left to visit or to connect. -/
structure Resting (s : State) : Prop where
  idle : s.queue = []
  connected : s.fresh = []

theorem connectFound_of_fresh_eq_nil {p : Problem} {edges : Edges} {round : Nat} {s : State}
    (connected : s.fresh = []) :
    connectFound p edges round s = { state := ⟨edges, s⟩ } := by
  cases s
  cases connected
  rfl

/-- The end of a round: what it has found is connected. -/
theorem connectFound_execution {p : Problem} (coherent : p.layout.Coherent) {edges : Edges}
    {s : State} (placed : Placed p ⟨edges, s⟩) (idle : s.queue = []) :
    ∃ log after, connectFound p edges (s.rounds - 1) s = { state := after } ∧
      Execution p ⟨edges, s⟩ log after ∧ Resting after.state ∧ after.state.rounds = s.rounds := by
  by_cases connected : s.fresh = []
  · exact ⟨[], _, connectFound_of_fresh_eq_nil connected, .refl, ⟨idle, connected⟩, rfl⟩
  · obtain ⟨pairs, agenda, -, connection⟩ := connectFound_eq coherent placed (s.rounds - 1)
    have transition : Transition p ⟨edges, s⟩ _ _ := .connect idle connected
    rw [connection] at transition
    exact ⟨[], _, connection, .single transition, ⟨idle, rfl⟩, rfl⟩

theorem round_execution {p : Problem} (coherent : p.layout.Coherent) {edges : Edges} {s : State}
    (placed : Placed p ⟨edges, s⟩) (resting : Resting s) (nonempty : s.agenda ≠ []) :
    ∃ log after, round p ⟨edges, s⟩ = { state := after } ∧ Execution p ⟨edges, s⟩ log after ∧
      Resting after.state ∧ after.state.rounds = s.rounds + 1 := by
  obtain ⟨site, agenda, taken⟩ := exists_takeNext? p.schedule s.rounds nonempty
  obtain ⟨b, b_mem, rfl⟩ :=
    placed.scheduled site ((takeNext?_perm taken).subset List.mem_cons_self)
  let opened : State := { s with agenda, rounds := s.rounds + 1, queue := [] }
  let begun := visitAt p edges { block := b.start } opened
  -- The block taken from the agenda is the whole queue at first, and is visited at once.
  have take : Transition p ⟨edges, s⟩ _ _ := .take resting.idle resting.connected taken
  have visit : Transition p ⟨edges, { opened with queue := [some { block := b.start }] }⟩ _ _ :=
    .visit rfl
  have opening := (Execution.single take).trans (.single visit)
  have placed_begun : Placed p ⟨edges, begun⟩ := opening.placed coherent placed
  obtain ⟨⟨_, draining⟩, idle, rounds_eq⟩ :=
    drain_execution coherent (visitBound p edges begun) placed_begun
      (work_le_visitBound placed.within begun)
  have placed_drained := draining.placed coherent placed_begun
  obtain ⟨_, after, connection, closing, at_rest, same_rounds⟩ :=
    connectFound_execution coherent placed_drained idle
  have begun_rounds : begun.rounds = s.rounds + 1 := by
    simp only [begun]
    rw [visitAt_eq coherent b_mem, rounds_visit]
  rw [rounds_eq, begun_rounds, Nat.add_sub_cancel] at connection
  refine ⟨_, after, ?_, opening.trans (draining.trans closing), at_rest, ?_⟩
  · have opened_eq : { s with agenda, rounds := s.rounds + 1 } = opened := by
      simp only [opened, ← resting.idle]
    rw [round]
    simp only [taken, opened_eq, visitAll]
    split
    · rename_i loose
      exact absurd (idle.symm.trans loose) (by simp)
    · exact connection
  · rw [same_rounds, rounds_eq, begun_rounds]

/-! ## The number of rounds -/

/-- The addresses of the jumps of a layout. -/
def jumpAddresses (layout : Layout) : List Nat :=
  (layout.blocks.filter (·.endsInJump)).map (·.stop)

/-- The jumps and destinations of a layout that have been found together. -/
def foundPairs (layout : Layout) (s : State) : Finset (Nat × Nat) :=
  ((jumpAddresses layout).toFinset ×ˢ layout.destinations.toFinset).filter fun pair =>
    (pair.2 : Int) ∈ s.discovered.getD (pair.1 : Int) []

theorem mem_foundPairs {layout : Layout} {s : State} {x d : Nat} :
    (x, d) ∈ foundPairs layout s ↔
      (x ∈ jumpAddresses layout ∧ d ∈ layout.destinations) ∧ s.Found x d := by
  simp [foundPairs, State.Found]

theorem card_foundPairs_le (layout : Layout) (s : State) :
    (foundPairs layout s).card ≤
      (layout.blocks.filter (·.endsInJump)).length * layout.destinations.length := by
  calc
    (foundPairs layout s).card
        ≤ ((jumpAddresses layout).toFinset ×ˢ layout.destinations.toFinset).card :=
      Finset.card_filter_le _ _
    _ = (jumpAddresses layout).toFinset.card * layout.destinations.toFinset.card :=
      Finset.card_product _ _
    _ ≤ (layout.blocks.filter (·.endsInJump)).length * layout.destinations.length := by
      refine Nat.mul_le_mul ?_ (List.toFinset_card_le _)
      simpa [jumpAddresses] using List.toFinset_card_le (jumpAddresses layout)

/-- A destination that is new for its jump counts once on both sides. -/
theorem freshCount_addTarget_add_card {layout : Layout} (s : State) {x d : Nat}
    (x_mem : x ∈ jumpAddresses layout) (d_mem : d ∈ layout.destinations) :
    (State.addTarget x s d).freshCount + (foundPairs layout s).card =
      s.freshCount + (foundPairs layout (State.addTarget x s d)).card := by
  by_cases known : s.Found x d
  · rw [State.addTarget_of_found known]
  · have inserted : foundPairs layout (State.addTarget x s d) =
        insert (x, d) (foundPairs layout s) := by
      ext ⟨y, e⟩
      rw [Finset.mem_insert, mem_foundPairs, mem_foundPairs, State.found_addTarget]
      simp only [Int.natCast_inj, Prod.mk.injEq]
      constructor
      · tauto
      · rintro (⟨rfl, rfl⟩ | ⟨listed, found⟩)
        · exact ⟨⟨x_mem, d_mem⟩, .inr ⟨rfl, rfl⟩⟩
        · exact ⟨listed, .inl found⟩
    have outside : (x, d) ∉ foundPairs layout s := fun member => known (mem_foundPairs.1 member).2
    rw [State.freshCount_addTarget known, inserted, Finset.card_insert_of_notMem outside]
    omega

theorem freshCount_revise_add_card {p : Problem} (coherent : p.layout.Coherent) (g : Ground)
    {b : Block} (b_mem : b ∈ p.layout.blocks) (stack : AbstractStack) (s : State) :
    (revise p g b stack s).freshCount + (foundPairs p.layout s).card =
      s.freshCount + (foundPairs p.layout (revise p g b stack s)).card := by
  let shown := b.interpret p.tracked stack
  let recorded := (s.record b shown).discover p.layout b shown
  suffices recorded.freshCount + (foundPairs p.layout s).card =
      s.freshCount + (foundPairs p.layout recorded).card by
    simp only [revise]
    split <;> exact this
  rcases (s.record b shown).discover_eq p.layout b shown with ⟨same, -⟩ | added
  · simp only [recorded, same]
    rfl
  · simp only [recorded, added]
    apply State.addTargets_induction (motive := fun t =>
      t.freshCount + (foundPairs p.layout s).card = s.freshCount + (foundPairs p.layout t).card)
    · have same : foundPairs p.layout { s.record b shown with
          discovered := (s.record b shown).discovered.insertIfNew b.stop [] } =
          foundPairs p.layout s := by
        ext ⟨x, d⟩
        rw [mem_foundPairs, mem_foundPairs, State.Found, State.Found, State.getD_insertIfNew_nil]
        rfl
      rw [same]
      rfl
    · intro t target member ih
      obtain ⟨c, c_mem, rfl, shows⟩ := showsJump_of_mem_destinations member
      obtain ⟨values, target_eq, -⟩ := shows.held
      have x_mem : b.stop ∈ jumpAddresses p.layout :=
        List.mem_map_of_mem (List.mem_filter.2 ⟨b_mem, endsInJump_of_target? target_eq⟩)
      have d_mem := coherent.start_mem_destinations c_mem shows.destination
      have step := freshCount_addTarget_add_card t x_mem d_mem
      omega

/-- The rounds begun, the blocks on the agenda and the destinations not yet connected are paid for
by the entry and by the jumps and destinations found together. -/
def Solvent (p : Problem) (s : State) : Prop :=
  s.rounds + s.agenda.length + s.freshCount ≤ 1 + (foundPairs p.layout s).card

theorem solvent_initial (p : Problem) (entry : Nat) : Solvent p (.initial entry) := by
  change 0 + 1 + 0 ≤ 1 + _
  omega

theorem Move.solvent {p : Problem} (coherent : p.layout.Coherent) {edges : Edges} {s : State}
    {made : List Reading} {after : Progress} (solvent : Solvent p s)
    (move : Move p edges s made after) : Solvent p after.state := by
  cases move with
  | @take b agenda b_mem idle connected taken =>
      have length_eq := taken.length_eq
      rw [List.length_cons] at length_eq
      change s.rounds + 1 + agenda.length + s.freshCount ≤ 1 + (foundPairs p.layout s).card
      rw [Solvent] at solvent
      omega
  | leave b_mem next excluded => exact solvent
  | count b_mem next included exhaustion => exact solvent
  | @read b rest b_mem next included willing =>
      have even := freshCount_revise_add_card coherent (p.current edges) b_mem
        (entryStack p (p.current edges) s b) ({ s with queue := rest }.count b)
      have kept : s.rounds + s.agenda.length + ({ s with queue := rest }.count b).freshCount ≤
          1 + (foundPairs p.layout ({ s with queue := rest }.count b)).card := solvent
      simp only [Solvent, revise_rounds, revise_agenda]
      simp only [State.count] at even kept ⊢
      omega
  | @connect pairs agenda idle connects =>
      have length_le := connects.length_le
      change s.rounds + agenda.length + 0 ≤ 1 + (foundPairs p.layout s).card
      rw [Solvent] at solvent
      omega

theorem rounds_execution {p : Problem} (coherent : p.layout.Coherent) (fuel : Nat) {edges : Edges}
    {s : State} (placed : Placed p ⟨edges, s⟩) (resting : Resting s) (solvent : Solvent p s)
    (enough : 1 + (p.layout.blocks.filter (·.endsInJump)).length * p.layout.destinations.length ≤
      s.rounds + fuel) :
    ∃ log after, rounds p fuel ⟨edges, s⟩ = { state := after } ∧ Execution p ⟨edges, s⟩ log after ∧
      Resting after.state ∧ after.state.agenda = [] := by
  induction fuel generalizing edges s with
  | zero =>
      have card_le := card_foundPairs_le p.layout s
      have empty : s.agenda.length = 0 := by
        rw [Solvent] at solvent
        omega
      exact ⟨[], _, rfl, .refl, resting, List.length_eq_zero_iff.1 empty⟩
  | succ fuel ih =>
      rw [rounds]
      by_cases empty : s.agenda = []
      · rw [if_pos (by simp [empty])]
        exact ⟨[], _, rfl, .refl, resting, empty⟩
      · obtain ⟨_, ⟨edges', s'⟩, first, execution, resting', rounds_eq⟩ :=
          round_execution coherent placed resting empty
        obtain ⟨placed', solvent'⟩ := execution.invariant_of_move coherent
          (fun _ progress => Solvent p progress.state) placed solvent
          fun _ solvent move => move.solvent coherent solvent
        obtain ⟨_, after, later, more, done⟩ := ih placed' resting' solvent' (by
          simp only at rounds_eq
          omega)
        refine ⟨_, after, ?_, execution.trans more, done⟩
        rw [if_neg (by simpa using empty), first]
        simp only [Outcome.andThen, later, List.nil_append]

/-! ## Complete explorations -/

/-- Where an exploration of an entry begins, once the simple edges are there. -/
def beginning (p : Problem) (graph : Graph) (entry : Nat) : Progress :=
  ⟨((graph.edgesOf p.key).addSimple p.layout).state, .initial entry⟩

/-- An exploration has followed an execution to its end. -/
structure Completes (p : Problem) (graph : Graph) (entry : Nat) (log : List Reading)
    (after : Progress) : Prop where
  explore_eq : explore p graph (.initial entry) =
    { state := ⟨graph.withEdges p.key after.edges, p.past, after.state⟩ }
  execution : Execution p (beginning p graph entry) log after
  resting : Resting after.state
  agenda_eq : after.state.agenda = []

section Complete

variable {p : Problem} (coherent : p.layout.Coherent) {graph : Graph}
  (within : (graph.edgesOf p.key).Within p.layout) {entry : Block}
  (entry_mem : entry ∈ p.layout.blocks) (noJumpi : p.layout.endsInJumpi = false)
include coherent within entry_mem noJumpi

theorem beginning_placed : Placed p (beginning p graph entry.start) where
  within := by
    simp only [beginning, coherent.addSimple_eq noJumpi]
    refine within.connectAll ?_
    rintro ⟨x, c⟩ member
    obtain ⟨b, -, t, t_mem, -, -, target_eq⟩ := coherent.mem_simplePairs.1 member
    exact ⟨t, t_mem, target_eq⟩
  queued entry member := by simp [beginning, State.initial] at member
  scheduled site member := ⟨entry, entry_mem, by simpa [beginning, State.initial] using member⟩
  fresh := by
    rintro x t ⟨targets, member, -⟩
    simp [beginning, State.initial] at member

/-- The bounds of an exploration are never what ends it. -/
theorem explore_execution : ∃ log after, Completes p graph entry.start log after := by
  have placed := beginning_placed coherent within entry_mem noJumpi
  have resting : Resting (State.initial entry.start) := ⟨rfl, rfl⟩
  have solvent := solvent_initial p entry.start
  have jumps_le : (p.layout.blocks.filter (·.endsInJump)).length ≤ blockCount p :=
    (List.length_filter_le _ _).trans (Nat.le_add_right _ _)
  obtain ⟨log, after, rounds_eq, execution, at_rest, agenda_eq⟩ :=
    rounds_execution coherent (roundBound p (.initial entry.start)) placed resting solvent (by
      have product_le := Nat.mul_le_mul_right p.layout.destinations.length jumps_le
      change _ ≤ 0 + (1 + 0 + blockCount p * p.layout.destinations.length)
      omega)
  refine ⟨log, after, ?_, execution, at_rest, agenda_eq⟩
  have simple := coherent.addSimple_eq noJumpi (graph.edgesOf p.key)
  simp only [simple] at rounds_eq
  simp only [explore, simple, rounds_eq]

end Complete

/-! ## The number of interpretations -/

/-- Every interpretation of a block is one of its visits, and within the limit. -/
def Sparing (p : Problem) (log : List Reading) (s : State) : Prop :=
  ∀ b : Block, log.countP (·.block = b) ≤ s.visits.getD b.start 0 ∧
    log.countP (·.block = b) ≤ p.limit

theorem sparing_initial (p : Problem) (entry : Nat) : Sparing p [] (.initial entry) := by
  intro b
  simp

theorem Move.sparing {p : Problem} {edges : Edges} {s : State} {log made : List Reading}
    {after : Progress} (sparing : Sparing p log s) (move : Move p edges s made after) :
    Sparing p (log ++ made) after.state := by
  cases move with
  | take b_mem idle connected taken =>
      rw [List.append_nil]
      exact sparing
  | leave b_mem next excluded =>
      rw [List.append_nil]
      exact sparing
  | @count b rest b_mem next included exhaustion =>
      intro c
      obtain ⟨visited, limited⟩ := sparing c
      rw [List.append_nil, visits_count]
      exact ⟨visited.trans (Nat.le_add_right _ _), limited⟩
  | @read b rest b_mem next included willing =>
      intro c
      obtain ⟨visited, limited⟩ := sparing c
      have allowed : s.visits.getD b.start 0 + 1 ≤ p.limit := by
        have := (exhausted_count_iff p s b).not.1 (by simp [willing])
        exact Nat.not_lt.1 this
      rw [List.countP_append, List.countP_singleton, revise_visits, visits_count]
      change _ ≤ s.visits.getD c.start 0 + _ ∧ _
      by_cases same : b = c
      · subst same
        simp only [decide_true, ↓reduceIte]
        omega
      · simp only [same, decide_false, Bool.false_eq_true, ↓reduceIte]
        omega
  | connect idle connects =>
      rw [List.append_nil]
      exact sparing

end Exploration
end EvmFlow
