import EvmFlow.Proofs.Exploration.Coverage

/-!
# Blocks that are left alone

An analysis of the dispatcher leaves the blocks alone that were marked before.  It never explores
one of them, and it loses nothing else: what follows an explored block is explored, still to be
visited, or left alone.  If its entry is left alone, it explores nothing.
-/

namespace EvmFlow
namespace Exploration

/-- No excluded block is explored, and what follows an explored block is known or excluded. -/
structure Fenced (p : Problem) (edges : Edges) (s : State) : Prop where
  outside : ∀ {a}, a ∈ s.explored → a ∉ p.excluded
  closed : ∀ {a c}, a ∈ s.explored → edges.Leads a c → s.Known c ∨ c ∈ p.excluded
  /-- Only explored blocks have left a stack. -/
  exited : ∀ {b}, b ∈ p.layout.blocks → s.exits.get? b.stop ≠ none → b.start ∈ s.explored
  visited : ∀ {a}, s.visits.getD a 0 ≠ 0 → a ∈ s.explored

theorem fenced_initial (p : Problem) (entry : Nat) (edges : Edges) :
    Fenced p edges (.initial entry) where
  outside member := by cases member
  closed member := by cases member
  exited _ left := absurd Std.TreeMap.getElem?_emptyc left
  visited visited := absurd Std.TreeMap.getD_emptyc visited

section Moves

variable {p : Problem} {edges : Edges} {s : State} (fenced : Fenced p edges s)
include fenced

theorem Fenced.take {b : Block} {agenda : List Site} (idle : s.queue = [])
    (taken : ({ block := b.start } :: agenda).Perm s.agenda) :
    Fenced p edges
      { s with agenda, rounds := s.rounds + 1, queue := [some { block := b.start }] } where
  outside := fenced.outside
  closed := by
    intro a c explored leads
    refine (fenced.closed explored leads).imp_left (Or.imp_right fun pending => ?_)
    exact (State.pending_take idle taken _ _).2 pending
  exited := fenced.exited
  visited := fenced.visited

/-- A block that is taken off the queue without being explored is still accounted for. -/
theorem Fenced.known_of_pop {b : Block} {rest : List (Option Site)}
    (next : s.queue = some { block := b.start } :: rest)
    (accounted : b.start ∈ s.explored ∨ b.start ∈ p.excluded) {a c : Nat} (explored : a ∈ s.explored)
    (leads : edges.Leads a c) :
    ({ s with queue := rest }.count b).Known c ∨ c ∈ p.excluded := by
  rcases fenced.closed explored leads with (explored | pending) | excluded
  · exact .inl (.inl explored)
  · rcases pending.pop next with rfl | pending
    · exact accounted.imp_left .inl
    · exact .inl (.inr pending)
  · exact .inr excluded

theorem Fenced.leave {b : Block} {rest : List (Option Site)}
    (next : s.queue = some { block := b.start } :: rest) (excluded : b.start ∈ p.excluded) :
    Fenced p edges { s with queue := rest } where
  outside := fenced.outside
  closed := fenced.known_of_pop next (.inr excluded)
  exited := fenced.exited
  visited := fenced.visited

theorem Fenced.count {b : Block} {rest : List (Option Site)}
    (next : s.queue = some { block := b.start } :: rest)
    (exhaustion : exhausted p (s.count b) b) :
    Fenced p edges ({ s with queue := rest }.count b) := by
  have explored : b.start ∈ s.explored := mem_explored_of_exhausted fenced.visited exhaustion
  exact
    { outside := fenced.outside
      closed := fenced.known_of_pop next (.inl explored)
      exited := fenced.exited
      visited := fun counted =>
        (mem_explored_of_visited_count fenced.visited counted).elim id (· ▸ explored) }

theorem Fenced.read (coherent : p.layout.Coherent) (within : edges.Within p.layout) {b : Block}
    (b_mem : b ∈ p.layout.blocks) (included : b.start ∉ p.excluded) {rest : List (Option Site)}
    (next : s.queue = some { block := b.start } :: rest) (stack : AbstractStack) :
    Fenced p edges (revise p (p.current edges) b stack ({ s with queue := rest }.count b)) := by
  have kept : ∀ {a c}, a ∈ s.explored → edges.Leads a c →
      (revise p (p.current edges) b stack ({ s with queue := rest }.count b)).Known c ∨
        c ∈ p.excluded := fun explored leads =>
    (fenced.closed explored leads).imp_left fun known => known.read next _ _ _
  refine ⟨?_, ?_, ?_, ?_⟩
  · intro a explored
    rcases (mem_explored_revise _ _ _ _ _).1 explored with explored | rfl
    · exact fenced.outside explored
    · exact included
  · intro a c explored leads
    rcases (mem_explored_revise _ _ _ _ _).1 explored with explored | rfl
    · exact kept explored leads
    · -- Where the stack after the block is as before, the block was explored before.
      by_cases same : s.exits.get? b.stop = some (b.interpret p.tracked stack).exit
      · exact kept (fenced.exited b_mem (by rw [same]; exact Option.some_ne_none _)) leads
      · exact .inl (.inr (.inl (mem_queue_revise_of_changed within same leads)))
  · intro a a_mem left
    rw [mem_explored_revise]
    exact mem_explored_of_exited_revise coherent fenced.exited b_mem a_mem left
  · intro a visited
    rw [revise_visits] at visited
    rw [mem_explored_revise]
    exact mem_explored_of_visited_count fenced.visited visited

theorem Fenced.connect {pairs : List (Nat × Nat)} {agenda : List Site}
    (connects : Connects p s pairs agenda) :
    Fenced p (edges.connectAll pairs) { s with fresh := [], agenda } where
  outside := fenced.outside
  closed := by
    intro a c explored leads
    rcases Edges.mem_successors_connectAll.1 leads with leads | pair
    · refine (fenced.closed explored leads).imp_left (Or.imp_right fun pending => ?_)
      exact pending.connect connects
    · exact .inl (.inr (State.pending_of_mem_pairs connects pair))
  exited := fenced.exited
  visited := fenced.visited

end Moves

theorem Move.fenced {p : Problem} (coherent : p.layout.Coherent) {edges : Edges} {s : State}
    {made : List Reading} {after : Progress} (within : edges.Within p.layout)
    (fenced : Fenced p edges s) (move : Move p edges s made after) :
    Fenced p after.edges after.state := by
  cases move with
  | take b_mem idle connected taken => exact fenced.take idle taken
  | leave b_mem next excluded => exact fenced.leave next excluded
  | count b_mem next included exhaustion => exact fenced.count next exhaustion
  | read b_mem next included willing => exact fenced.read coherent within b_mem included next _
  | connect idle connects => exact fenced.connect connects

/-- Nothing is explored or found, and what is still to be visited is left alone. -/
structure Barred (p : Problem) (s : State) : Prop where
  pending : ∀ {a}, s.Pending a → a ∈ p.excluded
  connected : s.fresh = []
  unexplored : s.explored = []

theorem barred_initial {p : Problem} {entry : Nat} (excluded : entry ∈ p.excluded) :
    Barred p (.initial entry) where
  pending := by
    rintro a (queued | scheduled)
    · cases queued
    · cases List.mem_singleton.1 scheduled
      exact excluded
  connected := rfl
  unexplored := rfl

theorem Move.barred {p : Problem} {edges : Edges} {s : State} {made : List Reading}
    {after : Progress} (barred : Barred p s) (move : Move p edges s made after) :
    Barred p after.state := by
  have first : ∀ {b : Block} {rest}, s.queue = some { block := b.start } :: rest →
      b.start ∈ p.excluded := fun next =>
    barred.pending (.inl (next ▸ List.mem_cons_self))
  cases move with
  | take b_mem idle connected taken =>
      exact ⟨fun pending => barred.pending ((State.pending_take idle taken _ _).1 pending),
        barred.connected, barred.unexplored⟩
  | leave b_mem next excluded =>
      refine ⟨fun pending => barred.pending (pending.imp_left fun queued => ?_), barred.connected,
        barred.unexplored⟩
      exact next ▸ List.mem_cons_of_mem _ queued
  | count b_mem next included exhaustion => exact absurd (first next) included
  | read b_mem next included willing => exact absurd (first next) included
  | connect idle connects =>
      refine ⟨fun pending => barred.pending (pending.imp_right fun scheduled => ?_), rfl,
        barred.unexplored⟩
      rcases connects.mem_agenda.1 scheduled with scheduled | ⟨pair, member, -⟩
      · exact scheduled
      · obtain ⟨b, -, t, -, ⟨targets, fresh, -⟩, -⟩ := connects.mem_pairs.1 member
        rw [barred.connected] at fresh
        cases fresh

end Exploration

open Exploration

/-- An analysis that has come to its end has explored no excluded block, and what follows an
explored block is explored or excluded. -/
theorem Analysis.Concludes.explored_fenced {analysis : Analysis} {contract : Contract}
    {entry : Block} {log : List Reading} {after : Progress}
    (concludes : analysis.Concludes contract entry log after) (coherent : contract.layout.Coherent)
    {a : Nat} (explored : a ∈ after.state.explored) :
    a ∉ (analysis.problem contract).excluded ∧
      ∀ c, after.edges.Leads a c →
        c ∈ after.state.explored ∨ c ∈ (analysis.problem contract).excluded := by
  obtain ⟨-, fenced⟩ := concludes.invariant coherent
    (fun _ progress => Fenced (analysis.problem contract) progress.edges progress.state)
    (fenced_initial _ _ _) fun placed fenced move => move.fenced coherent placed.within fenced
  refine ⟨fenced.outside explored, fun c leads => ?_⟩
  refine (fenced.closed explored leads).imp_left fun known => ?_
  simpa [State.Known, State.Pending, concludes.resting.idle, concludes.agenda_eq] using known

/-- An analysis whose entry is left alone explores nothing. -/
theorem Analysis.Concludes.explored_eq_nil {analysis : Analysis} {contract : Contract}
    {entry : Block} {log : List Reading} {after : Progress}
    (concludes : analysis.Concludes contract entry log after) (coherent : contract.layout.Coherent)
    (excluded : entry.start ∈ (analysis.problem contract).excluded) :
    after.state.explored = [] :=
  (concludes.invariant coherent
    (fun _ progress => Barred (analysis.problem contract) progress.state)
    (barred_initial excluded) fun _ barred move => move.barred barred).2.unexplored

end EvmFlow
