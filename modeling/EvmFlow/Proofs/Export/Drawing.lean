import EvmFlow.Export.Drawings
import EvmFlow.Proofs.Contract.Repetition

/-!
# What the drawing of a function shows

The drawing of a function has a node for each of its blocks and an edge for each edge that leads from
one of them under its key; the drawing of the dispatcher also has a node at the address of every other
function.  `draws_ofFunction_iff` and `labels_ofFunction_iff` say so of any function that keeps to the
blocks of its contract, as all functions of a contract that was built do.

So an edge is drawn to a node without a label where the edges of a key lead out of the blocks of a
function: into another function of the same key, or, from the dispatcher, into the middle of a
function.
-/

namespace EvmFlow

open Exploration

/-! ## Nodes and edges of a drawing -/

namespace Dot

/-- A drawing has an edge. -/
def Draws (dot : Dot) (a c : Nat) : Prop := .edge a c ∈ dot.statements

/-- A drawing has a node with a label. -/
def Labels (dot : Dot) (id : Int) : Prop := ∃ label, .node id label ∈ dot.statements

/-- Both ends of every edge are nodes with a label. -/
def SelfContained (dot : Dot) : Prop := ∀ a c, dot.Draws a c → dot.Labels a ∧ dot.Labels c

/-- A statement is the node of an address. -/
def Statement.isNodeOf (id : Int) : Statement → Bool
  | .node other _ => other = id
  | .edge _ _ => false

theorem labels_iff (dot : Dot) (id : Int) :
    dot.Labels id ↔ dot.statements.any (Statement.isNodeOf id) := by
  rw [List.any_eq_true]
  constructor
  · rintro ⟨label, member⟩
    exact ⟨_, member, by simp [Statement.isNodeOf]⟩
  · rintro ⟨statement, member, is_node⟩
    cases statement with
    | node other label =>
        obtain rfl : other = id := by simpa [Statement.isNodeOf] using is_node
        exact ⟨label, member⟩
    | edge a c => cases is_node

instance (dot : Dot) (a c : Nat) : Decidable (dot.Draws a c) :=
  inferInstanceAs (Decidable (_ ∈ dot.statements))

instance (dot : Dot) (id : Int) : Decidable (dot.Labels id) :=
  decidable_of_iff _ (dot.labels_iff id).symm

theorem edge_mem_blockStatements {b : Block} {successors : List Nat} {a c : Nat} :
    .edge a c ∈ blockStatements b successors ↔ a = b.start ∧ c ∈ successors := by
  simp [blockStatements, eq_comm, and_comm]

theorem node_mem_blockStatements {b : Block} {successors : List Nat} {id : Int} :
    (∃ label, .node id label ∈ blockStatements b successors) ↔ id = b.start := by
  simp [blockStatements]

theorem edge_notMem_callStatements (contract : Contract) (f : Function) (a c : Nat) :
    .edge a c ∉ callStatements contract f := by
  rw [callStatements]
  split <;> simp

theorem node_mem_callStatements {contract : Contract} {f : Function} {id : Int} :
    (∃ label, .node id label ∈ callStatements contract f) ↔
      f.key = Key.dispatcher ∧ ∃ g ∈ contract.functions, g.start ≠ f.start ∧ g.start = id := by
  rw [callStatements]
  split
  · rename_i dispatcher
    simp [dispatcher, and_assoc]
  · rename_i function
    simp [function]

section Placed

variable {contract : Contract} {f : Function} (coherent : contract.layout.Coherent)
  (placed : ∀ a ∈ f.blocks, ∃ b ∈ contract.layout.blocks, b.start = a)
include coherent placed

theorem exists_mem_blocksOf_iff (a : Nat) :
    (∃ b ∈ blocksOf contract f, a = b.start) ↔ a ∈ f.blocks := by
  simp only [blocksOf, List.mem_filterMap]
  constructor
  · rintro ⟨b, ⟨start, member, found⟩, rfl⟩
    rwa [(Layout.mem_of_blockFrom? found).2]
  · intro member
    obtain ⟨b, b_mem, rfl⟩ := placed a member
    exact ⟨b, ⟨b.start, member, coherent.blockFrom?_start b_mem⟩, rfl⟩

theorem draws_ofFunction_iff {a c : Nat} :
    (ofFunction contract f).Draws a c ↔
      a ∈ f.blocks ∧ (contract.graph.edgesOf f.key).Leads a c := by
  rw [← exists_mem_blocksOf_iff coherent placed, Draws, ofFunction, List.mem_append,
    or_iff_left (edge_notMem_callStatements contract f a c), List.mem_flatMap]
  simp only [edge_mem_blockStatements]
  constructor
  · rintro ⟨b, b_mem, rfl, leads⟩
    exact ⟨⟨b, b_mem, rfl⟩, leads⟩
  · rintro ⟨⟨b, b_mem, rfl⟩, leads⟩
    exact ⟨b, b_mem, rfl, leads⟩

theorem labels_ofFunction_iff {c : Nat} :
    (ofFunction contract f).Labels c ↔ c ∈ f.blocks ∨
      (f.key = Key.dispatcher ∧ ∃ g ∈ contract.functions, g.start ≠ f.start ∧ g.start = c) := by
  rw [← node_mem_callStatements, Labels, ← exists_mem_blocksOf_iff coherent placed]
  simp only [ofFunction, List.mem_append, exists_or, List.mem_flatMap]
  refine or_congr_left ?_
  constructor
  · rintro ⟨label, b, b_mem, node⟩
    exact ⟨b, b_mem, Int.natCast_inj.1 (node_mem_blockStatements.1 ⟨label, node⟩)⟩
  · rintro ⟨b, b_mem, rfl⟩
    obtain ⟨label, node⟩ := node_mem_blockStatements.2 rfl
    exact ⟨label, b, b_mem, node⟩

theorem labels_of_function (function : f.key ≠ Key.dispatcher) {c : Nat} :
    (ofFunction contract f).Labels c ↔ c ∈ f.blocks := by
  rw [labels_ofFunction_iff coherent placed]
  simp [function]

theorem labels_of_dispatcher (dispatcher : f.key = Key.dispatcher)
    (apart : Contract.Apart contract.functions) {before : List Function}
    (split : contract.functions = before ++ [f]) {c : Nat} :
    (ofFunction contract f).Labels c ↔ c ∈ f.blocks ∨ ∃ g ∈ before, g.start = c := by
  rw [split] at apart
  obtain ⟨-, -, across⟩ := List.pairwise_append.1 apart
  have different : ∀ g ∈ before, g.start ≠ f.start := fun g g_mem =>
    across g g_mem f List.mem_cons_self
  rw [labels_ofFunction_iff coherent placed, split]
  simp only [dispatcher, true_and]
  refine or_congr_right ⟨?_, ?_⟩
  · rintro ⟨g, g_mem, other, here⟩
    refine ⟨g, (List.mem_append.1 g_mem).resolve_right fun same => other ?_, here⟩
    rw [List.mem_singleton.1 same]
  · rintro ⟨g, g_mem, here⟩
    exact ⟨g, List.mem_append_left _ g_mem, different g g_mem, here⟩

end Placed
end Dot

/-! ## Where the blocks of functions are -/

/-- Whatever an analysis has explored is a block. -/
theorem Analysis.Concludes.exists_block_of_explored {analysis : Analysis} {contract : Contract}
    {entry : Block} {log : List Reading} {after : Progress}
    (concludes : analysis.Concludes contract entry log after) (coherent : contract.layout.Coherent)
    {a : Nat} (explored : a ∈ after.state.explored) :
    ∃ b ∈ contract.layout.blocks, b.start = a := by
  obtain ⟨-, recorded⟩ := concludes.invariant coherent
    (fun _ progress => Recorded (analysis.problem contract) progress.state)
    (recorded_initial _ entry.start) fun _ recorded move => move.recorded recorded
  obtain ⟨b, b_mem, start_eq, -⟩ := recorded a explored
  exact ⟨b, b_mem, start_eq⟩

namespace Contract

section Built

variable {directory : Directory} {source : Source} {stripsMetadata optimizes : Bool}
  {disassembler : Disassembler} {plan : Plan}
  (completed :
    (build directory source { stripsMetadata, optimizes, disassembler, plan }).failure = none)
include completed

theorem build_placed :
    let contract := (build directory source { stripsMetadata, optimizes, disassembler, plan }).state
    ∀ f ∈ contract.functions, ∀ a ∈ f.blocks, ∃ b ∈ contract.layout.blocks, b.start = a := by
  intro contract f f_mem a a_mem
  have coherent : contract.Coherent disassembler := coherent_build _ _ rfl
  obtain ⟨noJumpi, studied⟩ := build_studied completed
  obtain ⟨-, earlier, earlier_coherent, layout_eq, blocks_eq⟩ := studied f f_mem
  have entered := coherent.entered f f_mem
  rw [← layout_eq] at noJumpi entered ⊢
  obtain ⟨entry, log, after, -, begins, concludes⟩ :=
    earlier_coherent.concludes entered noJumpi (plan f.start)
  rw [blocks_eq, studyOf_of_concludes concludes] at a_mem
  exact concludes.exists_block_of_explored begins.coherent a_mem

end Built

section Leaving

variable {d : Disassembler} {contract : Contract} {explored rest before : List Function}
  {f : Function} {a c : Nat} (recovering : Recovering d contract explored rest)
  (a_mem : a ∈ f.blocks) (leads : (contract.graph.edgesOf f.key).Leads a c)
include recovering a_mem leads

/-- Edges lead out of the blocks of a function only within a later function of its key. -/
theorem Recovering.exists_of_leaving {after : List Function}
    (split : explored = before ++ f :: after) (function : f.key ≠ Key.dispatcher)
    (c_notMem : c ∉ f.blocks) : ∃ g ∈ after, g.key = f.key ∧ a ∈ g.blocks ∧ c ∈ g.blocks := by
  have shared : ∃ g ∈ after, g.key = f.key := by
    by_contra alone
    have last : ∀ g ∈ after, g.key ≠ f.key := fun g g_mem same => alone ⟨g, g_mem, same⟩
    have settled := recovering.settled before f after split function last
    exact c_notMem (settled.mem_of_reaches a_mem (.single leads))
  obtain ⟨middle, g, later, rfl, key_eq, last⟩ := exists_last_of_key shared
  have settled := recovering.settled (before ++ f :: middle) g later (by simp [split])
    (key_eq ▸ function) (key_eq ▸ last)
  rw [key_eq] at settled
  have a_mem : a ∈ g.blocks := by
    by_contra a_notMem
    rw [Edges.Leads, settled.bare a a_notMem] at leads
    cases leads
  exact ⟨g, by simp, key_eq, a_mem, settled.mem_of_reaches a_mem (.single leads)⟩

/-- Edges lead out of the blocks of the dispatcher only into functions. -/
theorem Recovering.notMem_iff_owned (split : explored = before ++ [f])
    (dispatcher : f.key = Key.dispatcher) (functions : ∀ g ∈ before, g.key ≠ Key.dispatcher) :
    c ∉ f.blocks ↔ Owned before c := by
  have separate := recovering.separate before f split dispatcher functions
  refine ⟨(separate.followed a a_mem c leads).resolve_left, fun owned c_mem => ?_⟩
  exact separate.free c c_mem owned

end Leaving

end Contract

/-! ## Drawings of a contract that was built -/

/-- A drawing without loose edges is written as it is. -/
theorem Written.addFunction_of_tight {contract : Contract} {f : Function}
    (tight : ∀ a, (contract.graph.edgesOf f.key).isLoose a = false) {written : Written}
    {base : String} {files : Files}
    (writes : written.files.write (base ++ f.name ++ ".dot")
      (.drawing (Dot.ofFunction contract f)) = .ok files) :
    written.addFunction contract base f =
      { state := ⟨files, written.complaints ++ Dot.complaints contract f⟩ } := by
  have none_loose : f.blocks.any (contract.graph.edgesOf f.key).isLoose = false := by simp [tight]
  simp only [addFunction, addDrawing, writes, none_loose]
  rfl

open Contract

/-- Writing the drawing of a function of a contract that was built never fails for want of a block.
The edges drawn are those that lead from its blocks under its key, and their sources have labels.  A
target has none exactly in two cases: the function is the dispatcher, and the target is a block of
another function but the start of none; or it is not the dispatcher, and the edge is one of a later
function of the same key that leads out of its own blocks.  So the drawing of a function is
self-contained if it is not the dispatcher and no later function has its key. -/
theorem drawn_ends_labelled_iff (directory : Directory) (source : Source)
    (stripsMetadata optimizes : Bool) (disassembler : Disassembler) (plan : Plan)
    (completed :
      (build directory source { stripsMetadata, optimizes, disassembler, plan }).failure = none) :
    let contract := (build directory source { stripsMetadata, optimizes, disassembler, plan }).state
    ∀ before f after, contract.functions = before ++ f :: after →
      let dot := Dot.ofFunction contract f
      (∀ (written : Written) (base : String) (files : Files),
        written.files.write (base ++ f.name ++ ".dot") (.drawing dot) = .ok files →
          written.addFunction contract base f =
            { state := ⟨files, written.complaints ++ Dot.complaints contract f⟩ }) ∧
      (∀ a c, dot.Draws a c ↔ a ∈ f.blocks ∧ (contract.graph.edgesOf f.key).Leads a c) ∧
      (∀ a c, dot.Draws a c → dot.Labels a ∧
        (¬dot.Labels c ↔
          (f.key = Key.dispatcher ∧ Owned before c ∧ ∀ g ∈ before, g.start ≠ c) ∨
          (f.key ≠ Key.dispatcher ∧ c ∉ f.blocks ∧
            ∃ g ∈ after, g.key = f.key ∧ a ∈ g.blocks ∧ c ∈ g.blocks))) ∧
      (f.key ≠ Key.dispatcher → (∀ g ∈ after, g.key ≠ f.key) → dot.SelfContained) := by
  intro contract before f after split dot
  obtain ⟨functions, dispatcher, key_eq, function_of_mem, recovering⟩ := build_recovering completed
  have coherent : contract.Coherent disassembler := recovering.coherent
  have f_mem : f ∈ contract.functions := by simp [split]
  have placed := build_placed completed f f_mem
  have coherent_layout := coherent.coherent_layout
  have explored_eq : functions ++ [dispatcher] = before ++ f :: after := by
    rw [← split, recovering.functions_eq, List.append_nil]
  have draws_iff : ∀ a c, dot.Draws a c ↔ a ∈ f.blocks ∧ (contract.graph.edgesOf f.key).Leads a c :=
    fun a c => Dot.draws_ofFunction_iff coherent_layout placed
  have labels_source : ∀ a c, dot.Draws a c → dot.Labels a := fun a c drawn =>
    (Dot.labels_ofFunction_iff coherent_layout placed).2 (.inl ((draws_iff a c).1 drawn).1)
  have unlabelled_iff : ∀ a c, dot.Draws a c → (¬dot.Labels c ↔
      (f.key = Key.dispatcher ∧ Owned before c ∧ ∀ g ∈ before, g.start ≠ c) ∨
      (f.key ≠ Key.dispatcher ∧ c ∉ f.blocks ∧
        ∃ g ∈ after, g.key = f.key ∧ a ∈ g.blocks ∧ c ∈ g.blocks)) := by
    intro a c drawn
    obtain ⟨a_mem, leads⟩ := (draws_iff a c).1 drawn
    -- The dispatcher is listed last.
    rcases snoc_eq_append_cons explored_eq with ⟨rfl, rfl, rfl⟩ | ⟨middle, rfl, functions_eq⟩
    · rw [Dot.labels_of_dispatcher coherent_layout placed key_eq recovering.apart split, not_or,
        recovering.notMem_iff_owned a_mem leads rfl key_eq function_of_mem]
      simp [key_eq]
    · have function : f.key ≠ Key.dispatcher := function_of_mem f (by simp [functions_eq])
      rw [Dot.labels_of_function coherent_layout placed function]
      simp only [function, false_and, false_or, ne_eq, not_false_eq_true, true_and]
      exact iff_self_and.2 (recovering.exists_of_leaving a_mem leads explored_eq function)
  refine ⟨fun written base files => Written.addFunction_of_tight (coherent.enclosed f.key).tight,
    draws_iff, fun a c drawn => ⟨labels_source a c drawn, unlabelled_iff a c drawn⟩, ?_⟩
  intro function last a c drawn
  refine ⟨labels_source a c drawn, ?_⟩
  by_contra unlabelled
  rcases (unlabelled_iff a c drawn).1 unlabelled with ⟨dispatcher, -⟩ | ⟨-, -, g, g_mem, same, -⟩
  · exact function dispatcher
  · exact last g g_mem same

/-- Code whose function at 9 jumps to the block at 7, which the dispatcher falls into. -/
def sharedTailCode : Code :=
  [0x80, 0x60, 0x01, 0x14, 0x60, 0x09, 0x57, 0x5b, 0x00, 0x5b, 0x60, 0x07, 0x56]

/-- The function at 9. -/
def sharedTailFunction : Function :=
  { Function.unexplored 1 9 9 with attributes := ["payable", "view", "pure"], blocks := [9, 7] }

/-- The dispatcher, which leaves the block at 7 to the function. -/
def sharedTailDispatcher : Function :=
  { Function.unexplored Key.dispatcher 0 0 with blocks := [0] }

theorem sharedTailCode_functions :
    let outcome := build {} (.raw sharedTailCode) {}
    outcome.failure = none ∧
      outcome.state.functions = [] ++ sharedTailFunction :: [sharedTailDispatcher] := by
  decide +kernel

theorem sharedTailCode_function_drawn :
    let contract := (build {} (.raw sharedTailCode) {}).state
    (build {} (.raw sharedTailCode) {}).failure = none ∧
      contract.functions = [] ++ sharedTailFunction :: [sharedTailDispatcher] ∧
      (Dot.ofFunction contract sharedTailFunction).Draws 9 7 ∧
      (Dot.ofFunction contract sharedTailFunction).SelfContained ∧
      (Written.addFunction {} contract "" sharedTailFunction).failure = none := by
  obtain ⟨completed, split⟩ := sharedTailCode_functions
  obtain ⟨written, -, -, selfContained⟩ :=
    drawn_ends_labelled_iff {} (.raw sharedTailCode) true true .evm .inOrder completed []
      sharedTailFunction _ split
  refine ⟨completed, split, by decide +kernel, selfContained (by decide) (by decide), ?_⟩
  rw [written {} "" _ rfl]

/-- Code with two fallback functions, at 9 and at 15, that jump to the block at 21.  This goes on to
24 for the first of them, and to 24 or 26 for the second. -/
def sharedCallCode : Code :=
  [0x36, 0x60, 0x09, 0x57, 0x36, 0x60, 0x0f, 0x57, 0x00, 0x5b, 0x60, 0x18, 0x60, 0x15, 0x56, 0x5b,
    0x60, 0x1a, 0x60, 0x15, 0x56, 0x5b, 0x50, 0x56, 0x5b, 0x00, 0x5b, 0x00]

/-- The fallback function at 9. -/
def sharedCallFunction : Function :=
  { Function.unexplored Key.fallback 9 9 with
    attributes := ["payable", "view", "pure"], blocks := [9, 21, 24] }

/-- The dispatcher is drawn with an edge to the block at 7, and the first fallback function with an
edge to the block at 26, but these have no node in the drawings. -/
theorem drawings_lack_labels :
    let tail := (build {} (.raw sharedTailCode) {})
    let call := (build {} (.raw sharedCallCode) {})
    (tail.failure = none ∧ sharedTailDispatcher ∈ tail.state.functions ∧
      (Dot.ofFunction tail.state sharedTailDispatcher).Draws 0 7 ∧
      ¬(Dot.ofFunction tail.state sharedTailDispatcher).Labels 7) ∧
    (call.failure = none ∧ sharedCallFunction ∈ call.state.functions ∧
      (Dot.ofFunction call.state sharedCallFunction).Draws 21 26 ∧
      ¬(Dot.ofFunction call.state sharedCallFunction).Labels 26) := by
  decide +kernel

end EvmFlow
