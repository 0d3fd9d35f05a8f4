import EvmFlow.Proofs.Exploration.Enclosure

/-!
# What an exploration looks up

An exploration looks blocks up by address, and what it has recorded of them by the address of their
last instruction.  In every state of an execution all of this is there: what is to be visited are
blocks, the ends of edges and of the jumps not yet connected are blocks, and a block that was
interpreted has left a stack and, if it ends in a jump, the element the jump takes its destination
from.
-/

namespace EvmFlow
namespace Exploration

theorem exists_target?_of_endsInJump (tracked : ValueSet) {b : Block} (jumps : b.endsInJump)
    (stack : AbstractStack) : ∃ element, (b.interpret tracked stack).target? = some element := by
  simp only [Block.interpret, jumps, ↓reduceIte]
  cases Instruction.applyAll tracked b.instructions.dropLast stack with
  | nil => exact ⟨_, rfl⟩
  | cons element below => exact ⟨element, rfl⟩

theorem revise_targets (p : Problem) (g : Ground) (b : Block) (stack : AbstractStack) (s : State) :
    (revise p g b stack s).targets = (s.record b (b.interpret p.tracked stack)).targets := by
  let shown := b.interpret p.tracked stack
  have discovered : ((s.record b shown).discover p.layout b shown).targets =
      (s.record b shown).targets := by
    rcases (s.record b shown).discover_eq p.layout b shown with ⟨same, -⟩ | added
    · rw [same]
    · obtain ⟨found, fresh, eq⟩ := (s.record b shown).addTargets_eq b.stop
        (destinations p.layout shown)
      rw [added, eq]
  simp only [revise]
  split <;> exact discovered

/-- An interpretation keeps what other jumps have recorded, and records the element of its own. -/
theorem get?_targets_revise (p : Problem) (g : Ground) (b : Block) (stack : AbstractStack)
    (s : State) (x : Nat) :
    (revise p g b stack s).targets.get? x =
      if x = b.stop ∧ b.endsInJump then (b.interpret p.tracked stack).target?
      else s.targets.get? x := by
  rw [revise_targets, State.record]
  by_cases jumps : b.endsInJump
  · obtain ⟨element, target⟩ := exists_target?_of_endsInJump p.tracked jumps stack
    simp only [target, jumps, and_true, Std.TreeMap.get?_eq_getElem?, Std.TreeMap.getElem?_insert,
      Nat.compare_eq_eq, @eq_comm _ x b.stop]
  · have unshown : (b.interpret p.tracked stack).target? = none := by
      simp [Block.interpret, jumps]
    simp only [unshown, jumps, Bool.false_eq_true, and_false, ↓reduceIte]

theorem isSome_targets_revise (p : Problem) (g : Ground) (b : Block) (stack : AbstractStack)
    (s : State) {x : Nat} (recorded : (s.targets.get? x).isSome ∨ (x = b.stop ∧ b.endsInJump)) :
    ((revise p g b stack s).targets.get? x).isSome := by
  rw [get?_targets_revise]
  split
  · rename_i here
    obtain ⟨element, target⟩ := exists_target?_of_endsInJump p.tracked here.2 stack
    rw [target]
    rfl
  · rename_i elsewhere
    exact recorded.resolve_right elsewhere

/-- A block that was interpreted has left what later steps look up. -/
def Recorded (p : Problem) (s : State) : Prop :=
  ∀ a ∈ s.explored, ∃ b ∈ p.layout.blocks, b.start = a ∧ (s.exits.get? b.stop).isSome ∧
    (b.endsInJump → (s.targets.get? b.stop).isSome)

theorem recorded_initial (p : Problem) (entry : Nat) : Recorded p (.initial entry) := by
  intro a explored
  cases explored

theorem Recorded.read {p : Problem} {s : State} (recorded : Recorded p s) {b : Block}
    (b_mem : b ∈ p.layout.blocks) (g : Ground) (stack : AbstractStack)
    (rest : List (Option Site)) :
    Recorded p (revise p g b stack ({ s with queue := rest }.count b)) := by
  intro a explored
  rcases (mem_explored_revise _ _ _ _ _).1 explored with explored | rfl
  · obtain ⟨c, c_mem, start_eq, left, jumped⟩ := recorded a explored
    refine ⟨c, c_mem, start_eq, ?_, fun jumps => ?_⟩
    · rw [get?_exits_revise]
      split
      · rfl
      · exact left
    · exact isSome_targets_revise _ _ _ _ _ (.inl (jumped jumps))
  · refine ⟨b, b_mem, rfl, ?_, fun jumps => ?_⟩
    · rw [get?_exits_revise, if_pos rfl]
      rfl
    · exact isSome_targets_revise _ _ _ _ _ (.inr ⟨rfl, jumps⟩)

theorem Move.recorded {p : Problem} {edges : Edges} {s : State} {made : List Reading}
    {after : Progress} (recorded : Recorded p s) (move : Move p edges s made after) :
    Recorded p after.state := by
  cases move with
  | take | leave | count | connect => exact recorded
  | read b_mem next included willing => exact recorded.read b_mem _ _ _

/-- All that the next steps of an exploration can look up is there. -/
structure Supplied (p : Problem) (progress : Progress) : Prop where
  queued : ∀ entry ∈ progress.state.queue, ∃ b ∈ p.layout.blocks, entry = some { block := b.start }
  scheduled : ∀ site ∈ progress.state.agenda, ∃ b ∈ p.layout.blocks, site = { block := b.start }
  /-- No edge is loose. -/
  followed : ∀ a, ∀ after ∈ progress.edges.ends a, ∃ b ∈ p.layout.blocks, after = some b.start
  preceded : ∀ a, ∀ before ∈ progress.edges.predecessors a, ∃ b ∈ p.layout.blocks, before = b.start
  /-- Both ends of a jump that is to be connected are found. -/
  jumps : ∀ x t, progress.state.Fresh x t →
    (p.layout.blockAtInt? x).isSome ∧ (p.layout.blockAtInt? t).isSome
  /-- A block that was interpreted is found by its start, and what it has left by its last address.
  -/
  explored : ∀ a ∈ progress.state.explored, ∃ b, p.layout.blockAt? a = some b ∧
    (progress.state.exits.get? b.stop).isSome ∧
    (b.endsInJump → (progress.state.targets.get? b.stop).isSome)

theorem Placed.supplied {p : Problem} (coherent : p.layout.Coherent) {progress : Progress}
    (placed : Placed p progress) (enclosed : progress.edges.Enclosed p.layout)
    (recorded : Recorded p progress.state) : Supplied p progress where
  queued := placed.queued
  scheduled := placed.scheduled
  followed := by
    intro a
    rw [enclosed.ends_eq]
    refine List.forall_mem_map.2 fun c leads => ?_
    obtain ⟨b, b_mem, rfl⟩ := enclosed.exists_block leads
    exact ⟨b, b_mem, rfl⟩
  preceded := by
    intro a before father
    obtain ⟨b, b_mem, rfl⟩ := enclosed.exists_source father
    exact ⟨b, b_mem, rfl⟩
  jumps := by
    intro x t fresh
    obtain ⟨b, b_mem, c, c_mem, rfl, rfl, jumps, -⟩ := placed.fresh fresh
    have source := coherent.blockAt?_stop b_mem (Block.isClosed_of_endsInJump jumps)
    have target := coherent.blockAt?_start c_mem
    exact ⟨Option.isSome_of_eq_some source, Option.isSome_of_eq_some target⟩
  explored := by
    intro a explored
    obtain ⟨b, b_mem, rfl, left, jumped⟩ := recorded a explored
    exact ⟨b, coherent.blockAt?_start b_mem, left, jumped⟩

end Exploration

open Exploration

/-- An execution of a new analysis finds whatever it looks up. -/
theorem Analysis.Begins.supplied {analysis : Analysis} {contract : Contract} {entry : Block}
    (begins : analysis.Begins contract entry) (noJumpi : contract.layout.endsInJumpi = false)
    (enclosed : (contract.graph.edgesOf analysis.key).Enclosed contract.layout)
    {log : List Reading} {after : Progress}
    (execution : Execution (analysis.problem contract)
      (beginning (analysis.problem contract) contract.graph entry.start) log after) :
    Supplied (analysis.problem contract) after := by
  let problem := analysis.problem contract
  have placed : Placed problem (beginning problem contract.graph entry.start) :=
    beginning_placed begins.coherent begins.within begins.entry_mem noJumpi
  obtain ⟨placed, recorded⟩ := execution.invariant_of_move begins.coherent
    (fun _ progress => Recorded problem progress.state) placed
    (recorded_initial problem entry.start)
    fun _ recorded move => move.recorded recorded
  exact placed.supplied begins.coherent (begins.enclosed_execution noJumpi enclosed execution)
    recorded

end EvmFlow
