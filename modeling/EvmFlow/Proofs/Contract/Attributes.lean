import EvmFlow.Proofs.Contract.Relisting
import EvmFlow.Proofs.Contract.Repetition
import EvmFlow.Proofs.Machine.Names

/-!
# What the attributes of a function say

A function is judged after it was explored: by its entry whether it is payable, by its blocks
whether it is a view and whether it is pure.  `mem_attributes_judge` says which attributes a
judgement adds, and `build_judged` that every function of a contract that was built is one judged on
the blocks that can be reached from its entry along the edges its exploration left.
-/

namespace EvmFlow

open Exploration

/-! ## Judgements -/

namespace Function

variable {f : Function} {word other : String}

theorem mem_withAttribute :
    other ∈ (f.withAttribute word).attributes ↔ other ∈ f.attributes ∨ other = word := by
  rw [withAttribute]
  split
  · rename_i known
    have known : word ∈ f.attributes := by simpa using known
    refine ⟨.inl, fun member => member.elim id ?_⟩
    rintro rfl
    exact known
  · exact List.mem_append.trans (or_congr_right List.mem_singleton)

theorem nodup_withAttribute (nodup : f.attributes.Nodup) :
    (f.withAttribute word).attributes.Nodup := by
  rw [withAttribute]
  split
  · exact nodup
  · rename_i unknown
    have unknown : word ∉ f.attributes := by simpa using unknown
    rw [← List.concat_eq_append]
    exact nodup.concat unknown

theorem mem_ite_withAttribute (refused : Prop) [Decidable refused] :
    other ∈ (if refused then f else f.withAttribute word).attributes ↔
      other ∈ f.attributes ∨ (other = word ∧ ¬refused) := by
  split
  · rename_i refused
    simp [refused]
  · rename_i granted
    simp [granted, mem_withAttribute]

theorem nodup_ite_withAttribute (refused : Prop) [Decidable refused]
    (nodup : f.attributes.Nodup) :
    (if refused then f else f.withAttribute word).attributes.Nodup := by
  split
  · exact nodup
  · exact nodup_withAttribute nodup

/-- A function earns an attribute by what its blocks do not do. -/
def Earns (layout : Layout) (f : Function) (word : String) : Prop :=
  (word = "payable" ∧ ¬blockUses layout [.callValue] f.entry) ∨
    (word = "view" ∧ ¬f.blocks.any (blockUses layout stateChanging)) ∨
    (word = "pure" ∧ ¬f.blocks.any (blockUses layout stateDependent))

/-- A judgement adds what was earned; the dispatcher is not judged. -/
theorem mem_attributes_judge (layout : Layout) (f : Function) (word : String) :
    word ∈ (f.judge layout).attributes ↔
      word ∈ f.attributes ∨ (f.key ≠ Key.dispatcher ∧ f.Earns layout word) := by
  rw [judge]
  split
  · rename_i dispatcher
    simp [dispatcher]
  · rename_i function
    obtain ⟨payable, payable_eq⟩ : ∃ attributes, f.judgePayable layout = { f with attributes } :=
      exists_attributes_of_ite _ _ _
    obtain ⟨view, view_eq⟩ : ∃ attributes, (f.judgePayable layout).judgeView layout =
        { f.judgePayable layout with attributes } := exists_attributes_of_ite _ _ _
    have blocks_eq : ((f.judgePayable layout).judgeView layout).blocks = f.blocks := by
      rw [view_eq, payable_eq]
    have payable_blocks : (f.judgePayable layout).blocks = f.blocks := by rw [payable_eq]
    rw [judgePure, mem_ite_withAttribute, blocks_eq, judgeView, mem_ite_withAttribute,
      payable_blocks, judgePayable, mem_ite_withAttribute, Earns]
    simp only [function, not_false_eq_true, ne_eq, true_and, or_assoc]

theorem nodup_attributes_judge (layout : Layout) (nodup : f.attributes.Nodup) :
    (f.judge layout).attributes.Nodup := by
  rw [judge]
  split
  · exact nodup
  · exact nodup_ite_withAttribute _ (nodup_ite_withAttribute _ (nodup_ite_withAttribute _ nodup))

/-- A function has the attributes that it earns, and no others. -/
def Judged (layout : Layout) (f : Function) : Prop := { f with attributes := [] }.judge layout = f

theorem judged_judge (layout : Layout) (unjudged : f.attributes = []) :
    (f.judge layout).Judged layout := by
  obtain ⟨attributes, judged⟩ := judge_eq layout f
  have restored : { f.judge layout with attributes := [] } = f := by
    rw [judged, ← unjudged]
  rw [Judged, restored]

theorem Judged.mem_iff {layout : Layout} (judged : f.Judged layout) (word : String) :
    word ∈ f.attributes ↔ f.key ≠ Key.dispatcher ∧ f.Earns layout word := by
  have mem_iff := mem_attributes_judge layout { f with attributes := [] } word
  rw [judged] at mem_iff
  exact mem_iff.trans (or_iff_right List.not_mem_nil)

theorem Judged.nodup {layout : Layout} (judged : f.Judged layout) : f.attributes.Nodup := by
  rw [← judged]
  exact nodup_attributes_judge layout List.nodup_nil

/-! ## Judgements on a layout -/

/-- The names of the operations that change the state of the chain. -/
def changingNames : List String :=
  ["CREATE", "CREATE2", "CALL", "CALLCODE", "DELEGATECALL", "SELFDESTRUCT", "SSTORE"]

/-- The names of the operations that a function has to do without if it neither reads call data, code
or state nor changes the state. -/
def impureNames : List String :=
  ["SLOAD", "SSTORE", "CALLDATALOAD", "CALLDATASIZE", "CALLDATACOPY", "CODESIZE", "CODECOPY",
    "BALANCE", "CALLER", "CALLVALUE", "ADDRESS", "ORIGIN", "EXTCODESIZE", "EXTCODECOPY",
    "EXTCODEHASH", "RETURNDATASIZE", "RETURNDATACOPY", "BLOCKHASH", "COINBASE", "TIMESTAMP",
    "NUMBER", "DIFFICULTY", "GASLIMIT", "LOG0", "LOG1", "LOG2", "LOG3", "LOG4", "CREATE",
    "CREATE2", "CALL", "CALLCODE", "DELEGATECALL", "STATICCALL", "SELFDESTRUCT"]

/-- The names among these that no judgement looks for. -/
def unwatchedNames : List String := ["CALLDATACOPY", "CODESIZE"]

theorem names_stateChanging : stateChanging.map Mnemonic.name = changingNames := rfl

theorem names_stateDependent :
    (stateDependent.map Mnemonic.name).Perm (impureNames.removeAll unwatchedNames) := by
  decide +kernel

section Layouts

variable {layout : Layout} (coherent : layout.Coherent)
include coherent

theorem blockUses_iff {b : Block} (b_mem : b ∈ layout.blocks) (ms : List Mnemonic) :
    blockUses layout ms b.start ↔ b.Has (ms.map Mnemonic.name) := by
  rw [blockUses, coherent.blockFrom?_start b_mem]
  exact b.uses_iff ms

theorem any_blockUses_iff (blocks : List Nat) (ms : List Mnemonic) :
    blocks.any (blockUses layout ms) ↔
      ∃ b ∈ layout.blocks, b.start ∈ blocks ∧ b.Has (ms.map Mnemonic.name) := by
  rw [List.any_eq_true]
  constructor
  · rintro ⟨a, a_mem, used⟩
    cases found : layout.blockFrom? a with
    | none => simp [blockUses, found] at used
    | some b =>
        obtain ⟨b_mem, rfl⟩ := Layout.mem_of_blockFrom? found
        exact ⟨b, b_mem, a_mem, (blockUses_iff coherent b_mem ms).1 used⟩
  · rintro ⟨b, b_mem, a_mem, has⟩
    exact ⟨b.start, a_mem, (blockUses_iff coherent b_mem ms).2 has⟩

/-- None of some blocks uses given operations. -/
theorem unused_iff (blocks : List Nat) (ms : List Mnemonic) :
    ¬blocks.any (blockUses layout ms) ↔
      ∀ b ∈ layout.blocks, b.start ∈ blocks → ¬b.Has (ms.map Mnemonic.name) := by
  rw [any_blockUses_iff coherent]
  simp only [not_exists, not_and]

variable (judged : f.Judged layout)
include judged

theorem payable_mem_iff (function : f.key ≠ Key.dispatcher) {entry : Block}
    (entry_mem : entry ∈ layout.blocks) (entry_eq : entry.start = f.entry) :
    "payable" ∈ f.attributes ↔ ¬entry.Has ["CALLVALUE"] := by
  have earned : "payable" ∈ f.attributes ↔ ¬blockUses layout [.callValue] f.entry := by
    simp [judged.mem_iff, Earns, function]
  rw [earned, ← entry_eq]
  exact not_congr (blockUses_iff coherent entry_mem [.callValue])

theorem view_mem_iff :
    "view" ∈ f.attributes ↔ f.key ≠ Key.dispatcher ∧
      ∀ b ∈ layout.blocks, b.start ∈ f.blocks → ¬b.Has changingNames := by
  rw [← names_stateChanging, ← unused_iff coherent]
  simp [judged.mem_iff, Earns]

theorem pure_mem_iff :
    "pure" ∈ f.attributes ↔ f.key ≠ Key.dispatcher ∧
      ∀ b ∈ layout.blocks, b.start ∈ f.blocks →
        ¬b.Has (impureNames.removeAll unwatchedNames) := by
  have names_iff : ∀ b : Block, b.Has (impureNames.removeAll unwatchedNames) ↔
      b.Has (stateDependent.map Mnemonic.name) := fun b =>
    ⟨fun has => has.mono names_stateDependent.symm.subset,
      fun has => has.mono names_stateDependent.subset⟩
  simp only [names_iff, ← unused_iff coherent]
  simp [judged.mem_iff, Earns]

/-- What a pure function does without includes all that a view does without. -/
theorem view_of_pure (pure : "pure" ∈ f.attributes) : "view" ∈ f.attributes := by
  have included : changingNames ⊆ impureNames.removeAll unwatchedNames := by decide
  obtain ⟨function, spared⟩ := (pure_mem_iff coherent judged).1 pure
  refine (view_mem_iff coherent judged).2 ⟨function, fun b b_mem owned has => ?_⟩
  exact spared b b_mem owned (has.mono included)

end Layouts
end Function

/-! ## Contracts that were built -/

namespace Contract

section Studies

variable {contract : Contract} {d : Disassembler} {f : Function} {functions : List Function}

/-- A study of a function leaves the edges of the blocks it has explored. -/
theorem Coherent.settled_studyOf (coherent : contract.Coherent d)
    (entered : ∃ b ∈ contract.layout.blocks, b.start = f.entry)
    (noJumpi : contract.layout.endsInJumpi = false) (function : f.key ≠ Key.dispatcher)
    (schedule : Schedule) :
    let study := contract.studyOf false f schedule
    (study.contract.graph.edgesOf f.key).Settled f.entry study.analysis.state.explored := by
  intro study
  obtain ⟨entry, log, after, entry_eq, begins, concludes⟩ :=
    coherent.concludes entered noJumpi schedule
  have study_eq : study = _ := studyOf_of_concludes concludes
  rw [study_eq, ← entry_eq]
  exact concludes.settled begins.coherent function

theorem getElem?_studiedByTurns (contract : Contract) (functions : List Function) (plan : Plan)
    (n : Nat) :
    (contract.studiedByTurns plan functions)[n]? = functions[n]?.map fun f =>
      (contract.studyEach false plan (functions.take n)).studied f (plan f.start) := by
  induction functions generalizing contract n with
  | nil => rfl
  | cons f rest ih =>
      cases n with
      | zero => rfl
      | succ n => exact ih (contract.studyOf false f (plan f.start)).contract n

theorem studyEach_take_succ {n : Nat} (here : functions[n]? = some f) (plan : Plan) :
    contract.studyEach false plan (functions.take (n + 1)) =
      ((contract.studyEach false plan (functions.take n)).studyOf false f
        (plan f.start)).contract := by
  rw [List.take_add_one, here, studyEach, List.foldl_append]
  rfl

end Studies

section Built

variable {directory : Directory} {source : Source} {stripsMetadata optimizes : Bool}
  {disassembler : Disassembler} {plan : Plan}

/-- Nothing is known of the attributes of a function that was just found. -/
theorem attributes_found
    (completed : (build directory source
      { stripsMetadata, exploresFunctions := false, optimizes, disassembler }).failure = none)
    {g : Function}
    (g_mem : g ∈ (build directory source
      { stripsMetadata, exploresFunctions := false, optimizes, disassembler }).state.functions) :
    g.attributes = [] := by
  obtain ⟨code, finds, found_eq⟩ := build_found completed
  obtain ⟨entry, walk, first, walked⟩ := exists_walk_of_completed finds
  rw [found_eq] at g_mem
  obtain ⟨address, b, -, g_eq⟩ := located_of_mem_findFunctions first walked directory g_mem
  have bare : (named directory (.unexplored g.key address b.start)).bare =
      named directory (.unexplored g.key address b.start) := bare_named directory rfl
  rw [← g_eq] at bare
  rw [← bare]
  rfl

variable (completed :
  (build directory source { stripsMetadata, optimizes, disassembler, plan }).failure = none)
include completed

/-- The functions of a contract that was built are as their studies left them, and exploring the
first of them leaves the edges that their studies leave. -/
theorem build_listed :
    let found := (build directory source
      { stripsMetadata, exploresFunctions := false, optimizes, disassembler }).state
    (∀ g ∈ found.functions, g.attributes = []) ∧
      (build directory source { stripsMetadata, optimizes, disassembler, plan }).state.functions =
        found.studiedByTurns plan found.functions ∧
      ∀ n, (found.exploreEach (found.functions.take n) plan).state.graph =
        (found.studyEach false plan (found.functions.take n)).graph := by
  intro found
  have found_coherent : found.Coherent disassembler := coherent_build _ _ rfl
  obtain ⟨noJumpi, -⟩ := build_turns completed
  rw [build_eq] at completed ⊢
  obtain ⟨found_completed, explored, state_eq⟩ := Outcome.andThen_completed completed
  obtain ⟨apart, -⟩ := found_apart found_completed
  refine ⟨fun g => attributes_found found_completed, ?_, fun n => ?_⟩
  · have whole : found.functions = [] ++ (found.functions ++ []) := (List.append_nil _).symm
    have listed := exploreEach_listed apart whole explored
    rw [state_eq]
    exact (congrArg Contract.functions listed).trans (List.append_nil _)
  · have entered : ∀ g ∈ found.functions.take n, ∃ b ∈ found.layout.blocks, b.start = g.entry :=
      fun g g_mem => found_coherent.entered g (List.mem_of_mem_take g_mem)
    have split : found.functions = [] ++ (found.functions.take n ++ found.functions.drop n) :=
      (List.take_append_drop n _).symm
    have listed := exploreEach_listed apart split
      (found_coherent.exploreEach_completes entered noJumpi plan)
    rw [listed]

/-- The key of a function is that of the dispatcher or the fallback, or a selector other than zero,
and its name is the one that the directory knows for this key. -/
theorem build_named :
    let contract := (build directory source { stripsMetadata, optimizes, disassembler, plan }).state
    ∀ f ∈ contract.functions,
      (f.key = Key.dispatcher ∨ f.key = Key.fallback ∨ 0 < f.key) ∧
        f.name = (directory.find? f.key).getD (Function.defaultName f.key) := by
  intro contract
  obtain ⟨code, finds, -, state_eq⟩ := build_completed completed
  obtain ⟨entry, found, first, walked⟩ := exists_walk_of_completed finds
  let listed := (findFunctions { code := some code } directory disassembler).state
  have functions_eq : listed.functions = (listing found entry).map (named directory) :=
    congrArg (·.state.functions) (findFunctions_of_walk first walked)
  have apart : Apart listed.functions := by
    refine (apart_listing walked).of_starts_eq ?_
    rw [functions_eq, starts_named]
  have kept : listed.Explored (listed.exploreFunctions plan).state :=
    Explored.exploreFunctions apart ⟨rfl, rfl⟩ plan
  have bare_eq := kept.bare_eq
  rw [functions_eq, bare_listing] at bare_eq
  have contract_eq : contract = (listed.exploreFunctions plan).state := state_eq
  rw [contract_eq]
  intro f f_mem
  have bare_mem : f.bare ∈ (listing found entry).map (named directory) :=
    bare_eq ▸ List.mem_map_of_mem f_mem
  obtain ⟨g, g_mem, g_eq⟩ := List.mem_map.1 bare_mem
  have key_eq : f.key = g.key :=
    (congrArg Function.key g_eq).symm.trans (kin_named directory g).key_eq
  have name_eq : f.name = (directory.find? g.key).getD g.name := by
    change f.bare.name = _
    rw [← g_eq, named]
    cases directory.find? g.key <;> rfl
  rw [name_eq, key_eq]
  rcases List.mem_append.1 g_mem with g_mem | g_mem
  · obtain ⟨new, new_mem, rfl⟩ := (mem_listFound g_mem).resolve_left List.not_mem_nil
    have keys := Dispatch.walk_keys (Layout.ofCode code disassembler) entry true
    rw [walked] at keys
    exact ⟨.inr (keys new new_mem), rfl⟩
  · rw [List.mem_singleton.1 g_mem]
    exact ⟨.inl rfl, rfl⟩

/-- A function of a contract that was built begins at one of its blocks and has the attributes it
earns.  The edges that its own exploration left are those of its blocks. -/
theorem build_judged :
    let found := (build directory source
      { stripsMetadata, exploresFunctions := false, optimizes, disassembler }).state
    let contract := (build directory source { stripsMetadata, optimizes, disassembler, plan }).state
    ∀ n f, contract.functions[n]? = some f →
      contract.layout.Coherent ∧ f.Judged contract.layout ∧
      (∃ entry ∈ contract.layout.blocks, entry.start = f.entry) ∧
      (f.key ≠ Key.dispatcher →
        ((found.exploreEach (found.functions.take (n + 1)) plan).state.graph.edgesOf
          f.key).Settled f.entry f.blocks) := by
  intro found contract n f here
  have found_coherent : found.Coherent disassembler := coherent_build _ _ rfl
  have coherent : contract.Coherent disassembler := coherent_build _ _ rfl
  obtain ⟨noJumpi, -, -, layout_eq, -⟩ := build_turns completed
  obtain ⟨unjudged, functions_eq, graph_eq⟩ := build_listed completed
  have entered := coherent.entered f (List.mem_of_getElem? here)
  rw [functions_eq, getElem?_studiedByTurns] at here
  obtain ⟨g, g_here, rfl⟩ := Option.map_eq_some_iff.1 here
  have g_mem : g ∈ found.functions := List.mem_of_getElem? g_here
  let earlier := found.studyEach false plan (found.functions.take n)
  have kin := kin_studied earlier g (plan g.start)
  refine ⟨coherent.coherent_layout, ?_, entered, fun function => ?_⟩
  · rw [layout_eq, ← layout_studyEach found false plan (found.functions.take n)]
    exact Function.judged_judge _ (unjudged g g_mem)
  · have earlier_coherent : earlier.Coherent disassembler := found_coherent.studyEach
      (fun h h_mem => found_coherent.entered h (List.mem_of_mem_take h_mem)) plan
    rw [graph_eq, studyEach_take_succ g_here, blocks_studied, kin.key_eq, kin.entry_eq]
    rw [kin.key_eq] at function
    refine earlier_coherent.settled_studyOf ?_ ?_ function (plan g.start)
    · rw [layout_studyEach]
      exact found_coherent.entered g g_mem
    · rw [layout_studyEach]
      exact noJumpi

end Built

end Contract

open Contract

/-- In a contract that was built, the attributes of a function other than the dispatcher reflect the
code that can be reached from its entry along the edges that its own exploration left: it is a view
exactly if no block there changes the state.  It is payable exactly if its entry does not ask for the
value sent along.  If it is pure it is a view, and it has no attribute twice. -/
theorem attributes_reflect_reachable_code (directory : Directory) (source : Source)
    (stripsMetadata optimizes : Bool) (disassembler : Disassembler) (plan : Plan)
    (completed :
      (build directory source { stripsMetadata, optimizes, disassembler, plan }).failure = none) :
    let found := (build directory source
      { stripsMetadata, exploresFunctions := false, optimizes, disassembler }).state
    let contract := (build directory source { stripsMetadata, optimizes, disassembler, plan }).state
    ∀ n f, contract.functions[n]? = some f → f.key ≠ Key.dispatcher →
      let explored := (found.exploreEach (found.functions.take (n + 1)) plan).state
      let edges := explored.graph.edgesOf f.key
      ("view" ∈ f.attributes ↔
        ∀ b ∈ contract.layout.blocks, edges.Reaches f.entry b.start →
          ¬b.Has ["CREATE", "CREATE2", "CALL", "CALLCODE", "DELEGATECALL", "SELFDESTRUCT",
            "SSTORE"]) ∧
      (∃ entry ∈ contract.layout.blocks, entry.start = f.entry ∧
        ("payable" ∈ f.attributes ↔ ¬entry.Has ["CALLVALUE"])) ∧
      ("pure" ∈ f.attributes → "view" ∈ f.attributes) ∧
      f.attributes.Nodup := by
  intro found contract n f here function explored edges
  obtain ⟨coherent, judged, ⟨entry, entry_mem, entry_eq⟩, settled⟩ := build_judged completed n f here
  have view_iff := (Function.view_mem_iff coherent judged).trans (and_iff_right function)
  have payable_iff := Function.payable_mem_iff coherent judged function entry_mem entry_eq
  refine ⟨?_, ⟨entry, entry_mem, entry_eq, payable_iff⟩, Function.view_of_pure coherent judged,
    judged.nodup⟩
  refine view_iff.trans (forall₂_congr fun b _ => ?_)
  exact imp_congr_left ((settled function).mem_iff b.start)

/-- Code with two functions.  The one at 15 asks for the value sent along and jumps to the block at
24, which stores something; the one at 20 copies call data and asks for the size of the code. -/
def writerCode : Code :=
  [0x80, 0x60, 0x01, 0x14, 0x60, 0x0f, 0x57, 0x80, 0x60, 0x02, 0x14, 0x60, 0x14, 0x57, 0x00,
    0x5b, 0x34, 0x60, 0x18, 0x56, 0x5b, 0x37, 0x38, 0x00, 0x5b, 0x55, 0x00]

/-- The function at 15. -/
def writerFunction : Function := { Function.unexplored 1 15 15 with blocks := [15, 24] }

/-- The function at 20. -/
def readerFunction : Function :=
  { Function.unexplored 2 20 20 with attributes := ["payable", "view", "pure"], blocks := [20] }

/-- The block at 20. -/
def readerBlock : Block :=
  ⟨⟨20, .plain .jumpDest⟩,
    [⟨21, .plain .callDataCopy⟩, ⟨22, .plain .codeSize⟩, ⟨23, .plain .stop⟩]⟩

theorem writerCode_functions :
    let outcome := build {} (.raw writerCode) {}
    outcome.failure = none ∧
      outcome.state.functions = [writerFunction, readerFunction,
        { Function.unexplored Key.dispatcher 0 0 with blocks := [0, 7, 14] }] := by
  decide +kernel

/-- The writer is no view, so that a block that changes the state can be reached from its entry; the
reader is one, so that none can. -/
theorem writerCode_attributes_reflect :
    let found := (build {} (.raw writerCode) { exploresFunctions := false }).state
    let outcome := build {} (.raw writerCode) {}
    let writerEdges :=
      (found.exploreEach (found.functions.take (0 + 1))).state.graph.edgesOf writerFunction.key
    let readerEdges :=
      (found.exploreEach (found.functions.take (1 + 1))).state.graph.edgesOf readerFunction.key
    outcome.failure = none ∧ outcome.state.functions[0]? = some writerFunction ∧
      outcome.state.functions[1]? = some readerFunction ∧
      (∃ b ∈ outcome.state.layout.blocks,
        writerEdges.Reaches writerFunction.entry b.start ∧ b.Has Function.changingNames) ∧
      ∀ b ∈ outcome.state.layout.blocks, readerEdges.Reaches readerFunction.entry b.start →
        ¬b.Has Function.changingNames := by
  obtain ⟨completed, functions_eq⟩ := writerCode_functions
  have first : (build {} (.raw writerCode) {}).state.functions[0]? = some writerFunction := by
    rw [functions_eq]; rfl
  have second : (build {} (.raw writerCode) {}).state.functions[1]? = some readerFunction := by
    rw [functions_eq]; rfl
  have reflect := attributes_reflect_reachable_code {} (.raw writerCode) true true .evm .inOrder
    completed
  obtain ⟨writer_view, -⟩ := reflect 0 writerFunction first (by decide)
  obtain ⟨reader_view, -⟩ := reflect 1 readerFunction second (by decide)
  refine ⟨completed, first, second, ?_, reader_view.1 (by decide)⟩
  by_contra none_changes
  have view : "view" ∈ writerFunction.attributes :=
    writer_view.2 fun b b_mem reached has => none_changes ⟨b, b_mem, reached, has⟩
  exact absurd view (by decide)

/-- In a contract that was built, exactly those functions are pure, the dispatcher aside, whose blocks
do without the operations that depend on call data, code or state, but for copying call data and
asking for the size of the code.  So a pure function does without all of them exactly if it does
without these two. -/
theorem pure_iff_watched_names_absent (directory : Directory) (source : Source)
    (stripsMetadata optimizes : Bool) (disassembler : Disassembler) (plan : Plan)
    (completed :
      (build directory source { stripsMetadata, optimizes, disassembler, plan }).failure = none) :
    let contract := (build directory source { stripsMetadata, optimizes, disassembler, plan }).state
    ∀ f ∈ contract.functions,
      ("pure" ∈ f.attributes ↔ f.key ≠ Key.dispatcher ∧
        ∀ b ∈ contract.layout.blocks, b.start ∈ f.blocks →
          ¬b.Has (Function.impureNames.removeAll ["CALLDATACOPY", "CODESIZE"])) ∧
      ("pure" ∈ f.attributes →
        ((∀ b ∈ contract.layout.blocks, b.start ∈ f.blocks → ¬b.Has Function.impureNames) ↔
          ∀ b ∈ contract.layout.blocks, b.start ∈ f.blocks →
            ¬b.Has ["CALLDATACOPY", "CODESIZE"])) := by
  intro contract f f_mem
  obtain ⟨n, here⟩ := List.mem_iff_getElem?.1 f_mem
  obtain ⟨coherent, judged, -, -⟩ := build_judged completed n f here
  have pure_iff := Function.pure_mem_iff coherent judged
  have included : Function.unwatchedNames ⊆ Function.impureNames := by decide
  refine ⟨pure_iff, fun pure => ?_⟩
  obtain ⟨-, spared⟩ := pure_iff.1 pure
  refine forall₃_congr fun b b_mem owned => not_congr ?_
  rw [Block.has_iff_removeAll included]
  exact or_iff_right (spared b b_mem owned)

/-- The reader is pure and does without all that judgements look for. -/
theorem writerCode_pure_iff :
    let outcome := build {} (.raw writerCode) {}
    outcome.failure = none ∧ readerFunction ∈ outcome.state.functions ∧
      "pure" ∈ readerFunction.attributes ∧
      ∀ b ∈ outcome.state.layout.blocks, b.start ∈ readerFunction.blocks →
        ¬b.Has (Function.impureNames.removeAll ["CALLDATACOPY", "CODESIZE"]) := by
  obtain ⟨completed, functions_eq⟩ := writerCode_functions
  have listed : readerFunction ∈ (build {} (.raw writerCode) {}).state.functions := by
    rw [functions_eq]
    decide
  have pure : "pure" ∈ readerFunction.attributes := by decide
  obtain ⟨pure_iff, -⟩ :=
    pure_iff_watched_names_absent {} (.raw writerCode) true true .evm .inOrder completed
      readerFunction listed
  exact ⟨completed, listed, pure, (pure_iff.1 pure).2⟩

/-- The reader is pure, but reads call data and asks for the size of the code. -/
theorem writerCode_pure_reads :
    let outcome := build {} (.raw writerCode) {}
    outcome.failure = none ∧ readerFunction ∈ outcome.state.functions ∧
      "pure" ∈ readerFunction.attributes ∧ readerBlock ∈ outcome.state.layout.blocks ∧
      readerBlock.start ∈ readerFunction.blocks ∧ readerBlock.Has ["CALLDATACOPY"] ∧
      readerBlock.Has ["CODESIZE"] ∧ readerBlock.Has Function.impureNames := by
  intro outcome
  obtain ⟨completed, functions_eq⟩ := writerCode_functions
  have listed : readerFunction ∈ outcome.state.functions := by
    rw [functions_eq]
    decide
  exact ⟨completed, listed, by decide, by decide +kernel, by decide, by decide, by decide,
    by decide⟩

end EvmFlow
