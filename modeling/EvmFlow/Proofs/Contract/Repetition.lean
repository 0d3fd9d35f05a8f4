import EvmFlow.Proofs.Contract.Turns
import EvmFlow.Proofs.Exploration.Renewal

/-!
# Exploring a contract again

The functions of a contract can be explored once more.  The analyses then begin with the edges and
the marks that the first ones left.  The dispatcher finds its own entry marked and keeps no block.
A function that has its key for itself keeps all its blocks, and is given new ones only if jumps
are found out of them; this can happen, since its blocks are interpreted in another order.
-/

namespace EvmFlow

open Exploration

/-- Two functions have the same blocks, in whatever order. -/
def Function.SameBlocks (f g : Function) : Prop := ∀ a, a ∈ f.blocks ↔ a ∈ g.blocks

namespace Contract

/-! ## What studies leave -/

section Studies

variable {contract : Contract} {d : Disassembler} {f : Function} {functions : List Function}

theorem Coherent.studyOf (coherent : contract.Coherent d)
    (entered : ∃ b ∈ contract.layout.blocks, b.start = f.entry) (schedule : Schedule) :
    (contract.studyOf false f schedule).contract.Coherent d :=
  coherent.analyse entered schedule

theorem Coherent.studyEach (coherent : contract.Coherent d)
    (entered : ∀ f ∈ functions, ∃ b ∈ contract.layout.blocks, b.start = f.entry) (plan : Plan) :
    (contract.studyEach false plan functions).Coherent d := by
  induction functions generalizing contract with
  | nil => exact coherent
  | cons f rest ih =>
      obtain ⟨f_entered, rest_entered⟩ := List.forall_mem_cons.1 entered
      exact ih (coherent.studyOf f_entered (plan f.start)) rest_entered

/-- Marks stay, and the entry of a function that was studied is marked. -/
theorem Coherent.marked_studyOf (coherent : contract.Coherent d)
    (entered : ∃ b ∈ contract.layout.blocks, b.start = f.entry)
    (noJumpi : contract.layout.endsInJumpi = false) (schedule : Schedule) {a : Nat}
    (marked : a ∈ contract.graph.marks.keys ∨ f.entry = a) :
    a ∈ (contract.studyOf false f schedule).contract.graph.marks.keys := by
  obtain ⟨entry, log, after, entry_eq, -, concludes⟩ := coherent.concludes entered noJumpi schedule
  rw [studyOf_of_concludes concludes, mem_marks_settledGraph, entry_eq]
  refine marked.imp_right ?_
  rintro rfl
  exact .refl

theorem Coherent.marked_studyEach (coherent : contract.Coherent d)
    (entered : ∀ f ∈ functions, ∃ b ∈ contract.layout.blocks, b.start = f.entry)
    (noJumpi : contract.layout.endsInJumpi = false) (plan : Plan) {a : Nat}
    (marked : a ∈ contract.graph.marks.keys ∨ ∃ f ∈ functions, f.entry = a) :
    a ∈ (contract.studyEach false plan functions).graph.marks.keys := by
  induction functions generalizing contract with
  | nil => exact marked.resolve_right (by simp)
  | cons f rest ih =>
      obtain ⟨f_entered, rest_entered⟩ := List.forall_mem_cons.1 entered
      refine ih (coherent.studyOf f_entered (plan f.start)) rest_entered noJumpi ?_
      rw [List.exists_mem_cons_iff, ← or_assoc] at marked
      exact marked.imp_left (coherent.marked_studyOf f_entered noJumpi (plan f.start))

theorem edgesOf_studyEach_of_ne {key : Key} (others : ∀ g ∈ functions, g.key ≠ key) (plan : Plan) :
    (contract.studyEach false plan functions).graph.edgesOf key = contract.graph.edgesOf key := by
  induction functions generalizing contract with
  | nil => rfl
  | cons g rest ih =>
      obtain ⟨other, others⟩ := List.forall_mem_cons.1 others
      refine (ih others).trans ?_
      exact
        edgesOf_run_of_ne (p := (contract.analysisOf g (plan g.start)).problem contract) other _ _

/-- The dispatcher is not explored once its entry is marked. -/
theorem Coherent.explored_eq_nil (coherent : contract.Coherent d)
    (entered : ∃ b ∈ contract.layout.blocks, b.start = f.entry)
    (noJumpi : contract.layout.endsInJumpi = false) (dispatcher : f.key = Key.dispatcher)
    (marked : f.entry ∈ contract.graph.marks.keys) (schedule : Schedule) :
    (contract.studyOf false f schedule).analysis.state.explored = [] := by
  obtain ⟨entry, log, after, entry_eq, begins, concludes⟩ :=
    coherent.concludes entered noJumpi schedule
  have excluded_eq : ((contract.analysisOf f schedule).problem contract).excluded =
      contract.graph.marks.keys := if_pos dispatcher
  rw [studyOf_of_concludes concludes]
  refine concludes.explored_eq_nil begins.coherent ?_
  rwa [excluded_eq, entry_eq]

/-- A study of a function reads nothing of the graph but the edges of its key. -/
theorem state_studyOf_eq {earlier : Contract} (layout_eq : earlier.layout = contract.layout)
    (function : f.key ≠ Key.dispatcher)
    (edges_eq : earlier.graph.edgesOf f.key = contract.graph.edgesOf f.key) (schedule : Schedule) :
    (earlier.studyOf false f schedule).analysis.state =
      (contract.studyOf false f schedule).analysis.state := by
  have problem_eq : (contract.analysisOf f schedule).problem contract =
      ((earlier.analysisOf f schedule).problem earlier).withKey f.key := by
    simp only [analysisOf, Analysis.problem, Analysis.fresh, Problem.withKey, excludedUnder,
      function, ↓reduceIte, layout_eq]
  have loose_eq : looseFailure f.key = looseFailure f.key := rfl
  have alike := run_alike (p := (earlier.analysisOf f schedule).problem earlier) rfl rfl loose_eq
    edges_eq (.initial f.entry)
  rw [← problem_eq] at alike
  exact alike.state_eq

theorem Coherent.renews (coherent : contract.Coherent d)
    (entered : ∃ b ∈ contract.layout.blocks, b.start = f.entry)
    (noJumpi : contract.layout.endsInJumpi = false) (function : f.key ≠ Key.dispatcher)
    (schedule : Schedule) :
    ∃ log edges, Renews ((contract.analysisOf f schedule).problem contract)
      (contract.graph.edgesOf f.key) f.entry log edges
      (contract.studyOf false f schedule).analysis.state := by
  obtain ⟨entry, log, after, entry_eq, begins, concludes⟩ :=
    coherent.concludes entered noJumpi schedule
  have renews := renews_of_concludes begins noJumpi function concludes
  rw [entry_eq] at renews
  rw [studyOf_of_concludes concludes]
  exact ⟨log, after.edges, renews⟩

/-- Where an earlier study left the edges of a function, another one explores its blocks again, in
whatever order, and others exactly if it finds a jump out of them. -/
theorem Coherent.studied_again {earlier : Contract} (earlier_coherent : earlier.Coherent d)
    (coherent : contract.Coherent d) (layout_eq : earlier.layout = contract.layout)
    (entered : ∃ b ∈ contract.layout.blocks, b.start = f.entry)
    (noJumpi : contract.layout.endsInJumpi = false) (function : f.key ≠ Key.dispatcher)
    {blocks : List Nat} {before : Schedule}
    (blocks_eq : blocks = (earlier.studyOf false f before).analysis.state.explored)
    (left : ∀ a, a ∈ blocks ↔ (contract.graph.edgesOf f.key).Reaches f.entry a)
    (schedule : Schedule) :
    let renewed := (contract.studyOf false f schedule).analysis
    (∀ a ∈ blocks, a ∈ renewed.state.explored) ∧
      ((∀ a, a ∈ renewed.state.explored ↔ a ∈ blocks) ↔
        Confined contract.layout blocks renewed.state) ∧
      (Steady contract.layout blocks renewed.tracked →
        Confined contract.layout blocks renewed.state) := by
  intro renewed
  have coherent_layout := coherent.coherent_layout
  obtain ⟨log', edges', second⟩ := coherent.renews entered noJumpi function schedule
  rw [← layout_eq] at entered noJumpi coherent_layout ⊢
  obtain ⟨log, edges, first⟩ := earlier_coherent.renews entered noJumpi function before
  have tracked_eq : ((contract.analysisOf f schedule).problem contract).tracked =
      ((earlier.analysisOf f before).problem earlier).tracked :=
    congrArg trackedDestinations layout_eq.symm
  subst blocks_eq
  refine ⟨fun a member => second.explored_of_reaches ((left a).1 member),
    first.same_explored_iff layout_eq.symm second left, fun steady => ?_⟩
  exact first.confined_of_steady layout_eq.symm second tracked_eq coherent_layout
    (tracked_eq ▸ steady)

end Studies

/-! ## Contracts that were built -/

/-- Every function of a contract that was built was studied, and its entry is marked. -/
theorem build_studied {directory : Directory} {source : Source} {stripsMetadata optimizes : Bool}
    {disassembler : Disassembler} {plan : Plan}
    (completed :
      (build directory source { stripsMetadata, optimizes, disassembler, plan }).failure = none) :
    let contract := (build directory source { stripsMetadata, optimizes, disassembler, plan }).state
    contract.layout.endsInJumpi = false ∧ ∀ f ∈ contract.functions,
      f.entry ∈ contract.graph.marks.keys ∧
        ∃ earlier : Contract, earlier.Coherent disassembler ∧ earlier.layout = contract.layout ∧
          f.blocks = (earlier.studyOf false f (plan f.start)).analysis.state.explored := by
  intro contract
  let found := (build directory source
    { stripsMetadata, exploresFunctions := false, optimizes, disassembler }).state
  have coherent : found.Coherent disassembler := coherent_build _ _ rfl
  obtain ⟨noJumpi, kin, blocks_eq, layout_eq, graph_eq⟩ := build_turns completed
  refine ⟨layout_eq ▸ noJumpi, fun f f_mem => ?_⟩
  obtain ⟨before, g, after, split, f_kin, f_eq⟩ := exists_turn kin blocks_eq f_mem
  have listed : ∀ h ∈ before ++ g :: after, h ∈ found.functions := fun h => split ▸ id
  constructor
  · rw [graph_eq]
    exact coherent.marked_studyEach coherent.entered noJumpi plan
      (.inr ⟨g, listed g (by simp), f_kin.entry_eq.symm⟩)
  · refine ⟨found.studyEach false plan before, coherent.studyEach (fun h h_mem => ?_) plan, ?_, ?_⟩
    · exact coherent.entered h (listed h (List.mem_append_left _ h_mem))
    · exact (found.layout_studyEach false plan before).trans layout_eq.symm
    · rw [studyOf_kin _ _ f_kin, f_kin.start_eq]
      exact f_eq

end Contract

open Contract

/-- A contract that was built can be explored again, in the same orders or in others, and keeps its
functions in their places.  Its dispatcher is left without blocks.  A function whose key is that of
no other keeps all its blocks; it keeps just these if and only if the repeated analysis finds no
jump out of them, so also if the destinations that they show do not depend on the stack. -/
theorem exploring_again_keeps_blocks (directory : Directory) (source : Source)
    (stripsMetadata optimizes : Bool) (disassembler : Disassembler) (plan later : Plan)
    (completed :
      (build directory source { stripsMetadata, optimizes, disassembler, plan }).failure = none) :
    let contract := (build directory source { stripsMetadata, optimizes, disassembler, plan }).state
    let again := contract.exploreFunctions later
    again.failure = none ∧ List.Forall₂ Function.Kin again.state.functions contract.functions ∧
      ∀ f ∈ contract.functions, ∀ f' ∈ again.state.functions, f'.Kin f →
        (f.key = Key.dispatcher → f'.blocks = []) ∧
        (f.key ≠ Key.dispatcher →
          (∀ g ∈ contract.functions, g.start ≠ f.start → g.key ≠ f.key) →
          let renewed := (contract.studyOf false f (later f.start)).analysis
          f'.blocks = renewed.state.explored ∧ (∀ a ∈ f.blocks, a ∈ f'.blocks) ∧
            (f'.SameBlocks f ↔ Confined contract.layout f.blocks renewed.state) ∧
            (Steady contract.layout f.blocks renewed.tracked → f'.SameBlocks f)) := by
  intro contract again
  obtain ⟨functions, last, -, -, recovering⟩ := build_recovering completed
  have functions_eq : functions ++ [last] = contract.functions := by
    simpa using recovering.functions_eq.symm
  rw [functions_eq] at recovering
  obtain ⟨noJumpi, studied⟩ := build_studied completed
  have coherent := recovering.coherent
  have again_completed : again.failure = none :=
    coherent.exploreEach_completes coherent.entered noJumpi later
  obtain ⟨more, kin, blocks_eq, again_eq⟩ :=
    exploreEach_completed recovering.apart (List.nil_append _).symm again_completed
  have more_eq : again.state.functions = more := congrArg Contract.functions again_eq
  rw [← more_eq] at kin blocks_eq
  refine ⟨again_completed, kin, ?_⟩
  intro f f_mem f' f'_mem f'_kin
  obtain ⟨before, g, after, split, g_kin, f'_eq⟩ := exists_turn kin blocks_eq f'_mem
  have listed : ∀ h ∈ before ++ g :: after, h ∈ contract.functions := fun h => split ▸ id
  -- Functions are told apart by their addresses, so this was the turn of `f`.
  obtain rfl : f = g := recovering.apart.eq_of_start_eq f_mem (listed g (by simp))
    (f'_kin.start_eq.symm.trans g_kin.start_eq)
  obtain ⟨marked, earlier, earlier_coherent, layout_eq, f_eq⟩ := studied f f_mem
  have entered := coherent.entered f f_mem
  constructor
  · intro dispatcher
    have before_entered : ∀ g ∈ before, ∃ b ∈ contract.layout.blocks, b.start = g.entry :=
      fun g g_mem => coherent.entered g (listed g (List.mem_append_left _ g_mem))
    have still_marked := coherent.marked_studyEach before_entered noJumpi later (.inl marked)
    rw [← contract.layout_studyEach false later before] at entered noJumpi
    rw [f'_eq]
    exact (coherent.studyEach before_entered later).explored_eq_nil entered noJumpi dispatcher
      still_marked (later f.start)
  · intro function alone renewed
    have apart := recovering.apart
    rw [split, Apart, List.pairwise_append, List.pairwise_cons] at apart
    have before_ne : ∀ g ∈ before, g.key ≠ f.key := fun g g_mem =>
      alone g (listed g (List.mem_append_left _ g_mem)) (apart.2.2 g g_mem f List.mem_cons_self)
    have after_ne : ∀ g ∈ after, g.key ≠ f.key := fun g g_mem =>
      alone g (listed g (by simp [g_mem])) (apart.2.1.1 g g_mem).symm
    have left := (recovering.settled before f after split function after_ne).mem_iff
    obtain ⟨kept, same_iff, confined_of_steady⟩ := earlier_coherent.studied_again coherent layout_eq
      entered noJumpi function f_eq left (later f.start)
    -- The turns before it leave the edges under its key alone.
    have state_eq := state_studyOf_eq (contract.layout_studyEach false later before) function
      (edgesOf_studyEach_of_ne before_ne later) (later f.start)
    have renewed_eq : f'.blocks = renewed.state.explored :=
      f'_eq.trans (congrArg State.explored state_eq)
    rw [← renewed_eq] at kept same_iff
    exact ⟨renewed_eq, kept, same_iff, fun steady => same_iff.2 (confined_of_steady steady)⟩

/-- Code whose functions change when it is explored again.  The block at 32 drops three elements
and jumps to what is below them.  Control comes to it from the block at 25, either by 30 and 31 or
by 37, where the stack stays lower; a destination comes to the top only on a stack from 37 alone.
The way by 37 is found last, but is known when the code is explored again.  The functions at 16
and 52 share a key, the one at 56 has its own. -/
def detourTwinCode : Code :=
  [0x36, 0x60, 0x10, 0x57, 0x36, 0x60, 0x34, 0x57, 0x80, 0x60, 0x01, 0x14, 0x60, 0x38, 0x57, 0x00,
    0x5b, 0x33, 0x60, 0x29, 0x57, 0x33, 0x33, 0x60, 0x2f, 0x5b, 0x33, 0x60, 0x25, 0x57, 0x5b, 0x5b,
    0x5b, 0x50, 0x50, 0x50, 0x56, 0x5b, 0x60, 0x20, 0x56, 0x5b, 0x60, 0x32, 0x60, 0x2f, 0x56, 0x5b,
    0x50, 0x56, 0x5b, 0x00, 0x5b, 0x60, 0x19, 0x56, 0x5b, 0x60, 0x3e, 0x60, 0x19, 0x56, 0x5b, 0x00]

/-- A function of this code with some of its blocks. -/
def detourFunction (key : Key) (start : Nat) (blocks : List Nat) : Function :=
  { Function.unexplored key start start with attributes := ["payable", "view"], blocks }

/-- The function with its own key. -/
def detourAlone : Function := detourFunction 1 56 [56, 25, 30, 31, 32, 37]

/-- This function, explored again. -/
def detourAloneAgain : Function := detourFunction 1 56 [56, 25, 37, 30, 32, 31, 62]

/-- The functions of the code, the dispatcher last. -/
def detourTwins : List Function :=
  [detourFunction Key.fallback 16 [16, 21, 25, 30, 31, 32, 41, 37, 47, 50],
    detourFunction Key.fallback 52 [52, 25, 37, 30, 32, 31], detourAlone,
    { Function.unexplored Key.dispatcher 0 0 with blocks := [0, 4, 8, 15] }]

/-- The same functions, explored again.  Of those that share a key, the first has lost a block and the
second was given one. -/
def detourTwinsAgain : List Function :=
  [detourFunction Key.fallback 16 [16, 21, 25, 37, 30, 32, 31, 41, 47],
    detourFunction Key.fallback 52 [52, 25, 37, 30, 32, 31, 47], detourAloneAgain,
    Function.unexplored Key.dispatcher 0 0]

theorem detourTwinCode_functions :
    let outcome := build {} (.raw detourTwinCode) {}
    let again := outcome.state.exploreFunctions
    outcome.failure = none ∧ again.failure = none ∧ outcome.state.functions = detourTwins ∧
      again.state.functions = detourTwinsAgain := by
  decide +kernel

theorem detourTwinCode_keeps_blocks :
    let outcome := build {} (.raw detourTwinCode) {}
    let again := outcome.state.exploreFunctions
    outcome.failure = none ∧ again.failure = none ∧ detourAlone ∈ outcome.state.functions ∧
      detourAloneAgain ∈ again.state.functions ∧
      (∀ a ∈ detourAlone.blocks, a ∈ detourAloneAgain.blocks) ∧
      ¬ Confined outcome.state.layout detourAlone.blocks
        (outcome.state.studyOf false detourAlone .inOrder).analysis.state := by
  obtain ⟨completed, again_completed, functions_eq, again_eq⟩ := detourTwinCode_functions
  obtain ⟨-, -, explored⟩ := exploring_again_keeps_blocks {} (.raw detourTwinCode) true true .evm
    .inOrder .inOrder completed
  rw [functions_eq, again_eq] at explored
  obtain ⟨-, kept, same_iff, -⟩ :=
    (explored detourAlone (by decide) detourAloneAgain (by decide) ⟨rfl, rfl, rfl⟩).2 (by decide)
      (by decide)
  have moved : ¬ detourAloneAgain.SameBlocks detourAlone := fun same =>
    absurd ((same 62).1 (by decide)) (by decide)
  rw [same_iff, Plan.inOrder] at moved
  refine ⟨completed, again_completed, ?_, ?_, kept, moved⟩
  · rw [functions_eq]
    decide
  · rw [again_eq]
    decide

/-- The code that only stops. -/
def stopCode : Code := [0x00]

/-- The only function of this code is the dispatcher, which loses its only block. -/
theorem stopCode_loses_block :
    let outcome := build {} (.raw stopCode) {}
    let again := outcome.state.exploreFunctions
    outcome.failure = none ∧ again.failure = none ∧
      outcome.state.functions = [{ Function.unexplored Key.dispatcher 0 0 with blocks := [0] }] ∧
      again.state.functions = [Function.unexplored Key.dispatcher 0 0] ∧
      ¬ List.Forall₂ Function.SameBlocks again.state.functions outcome.state.functions := by
  intro outcome again
  have functions_eq : outcome.state.functions =
      [{ Function.unexplored Key.dispatcher 0 0 with blocks := [0] }] := by decide +kernel
  have again_eq : again.state.functions = [Function.unexplored Key.dispatcher 0 0] := by
    decide +kernel
  refine ⟨by decide +kernel, by decide +kernel, functions_eq, again_eq, ?_⟩
  intro same
  rw [functions_eq, again_eq, List.forall₂_cons] at same
  exact absurd ((same.1 0).2 (by decide)) (by decide)

end EvmFlow
