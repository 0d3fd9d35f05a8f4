import EvmFlow.Proofs.Contract.Ownership

/-!
# Analyses by turns

Exploring the functions of a contract runs an analysis of each, one after the other, on the graph
that the earlier ones have left.  What is listed of the functions plays no part in it.  So the
functions end up with the blocks that the same analyses explore on the contract as it was found;
these keep the jump destinations apart and nothing else, whatever was asked for.
-/

namespace EvmFlow

open Exploration

namespace Contract

/-! ## Studies of functions -/

/-- What a new analysis of a function ends with.  It keeps the jump destinations apart, or every
value. -/
def studyOf (contract : Contract) (keepsAll : Bool) (f : Function) (schedule : Schedule) : Study :=
  (Study.run ⟨contract, .fresh contract.layout f.key f.entry Analysis.defaultVisitLimit
    keepsAll schedule⟩).state

/-- The contract after its functions have been studied one after the other. -/
def studyEach (keepsAll : Bool) (plan : Plan) (contract : Contract) (functions : List Function) :
    Contract :=
  functions.foldl (fun contract f => (contract.studyOf keepsAll f (plan f.start)).contract) contract

/-- The blocks explored in the studies of functions, one after the other. -/
def blocksByTurns (keepsAll : Bool) (plan : Plan) (contract : Contract) :
    List Function → List (List Nat)
  | [] => []
  | f :: rest =>
    let study := contract.studyOf keepsAll f (plan f.start)
    study.analysis.state.explored :: study.contract.blocksByTurns keepsAll plan rest

/-- What a study ends with once its analysis concludes. -/
theorem studyOf_of_concludes {contract : Contract} {f : Function} {schedule : Schedule}
    {entry : Block} {log : List Reading} {after : Progress}
    (concludes : (contract.analysisOf f schedule).Concludes contract entry log after) :
    contract.studyOf false f schedule =
      ⟨{ contract with graph := settledGraph contract.graph f.key entry.start after.edges },
        { contract.analysisOf f schedule with state := after.state }⟩ :=
  congrArg Outcome.state concludes.run_eq

section Studies

variable (contract : Contract) (keepsAll : Bool) (plan : Plan)

@[simp]
theorem layout_studyEach (functions : List Function) :
    (contract.studyEach keepsAll plan functions).layout = contract.layout := by
  induction functions generalizing contract with
  | nil => rfl
  | cons f rest ih => exact ih (contract.studyOf keepsAll f (plan f.start)).contract

/-- A study reads nothing of what is listed. -/
theorem studyEach_relisted (functions rest : List Function) :
    studyEach keepsAll plan { contract with functions } rest =
      { contract.studyEach keepsAll plan rest with functions } := by
  induction rest generalizing contract with
  | nil => rfl
  | cons f rest ih => exact ih (contract.studyOf keepsAll f (plan f.start)).contract

/-- Without destinations there is nothing that an analysis could keep apart from the rest, and it
keeps every value. -/
theorem blocksByTurns_of_no_destinations (none : contract.layout.destinations = [])
    (functions : List Function) :
    contract.blocksByTurns true plan functions = contract.blocksByTurns false plan functions := by
  induction functions generalizing contract with
  | nil => rfl
  | cons f rest ih =>
      have same :
          contract.studyOf true f (plan f.start) = contract.studyOf false f (plan f.start) := by
        simp [studyOf, Analysis.fresh, trackedDestinations, none, ValueSet.ofList]
      rw [blocksByTurns, blocksByTurns, same]
      exact congrArg _ (ih _ none)

/-- A study reads nothing of a function but its key and its entry. -/
theorem studyOf_kin {g f : Function} (kin : g.Kin f) (schedule : Schedule) :
    contract.studyOf keepsAll g schedule = contract.studyOf keepsAll f schedule := by
  rw [studyOf, studyOf, kin.key_eq, kin.entry_eq]

variable {contract keepsAll plan}

/-- Each of the functions listed by turns has the blocks of the study made when its turn came. -/
theorem exists_turn {more rest : List Function} (kin : List.Forall₂ Function.Kin more rest)
    (blocks_eq : more.map Function.blocks = contract.blocksByTurns keepsAll plan rest)
    {g : Function} (g_mem : g ∈ more) :
    ∃ before f after, rest = before ++ f :: after ∧ g.Kin f ∧
      g.blocks = ((contract.studyEach keepsAll plan before).studyOf keepsAll f
        (plan f.start)).analysis.state.explored := by
  induction kin generalizing contract with
  | nil => cases g_mem
  | @cons h f more rest h_kin _ ih =>
      obtain ⟨h_eq, more_eq⟩ := List.cons.inj blocks_eq
      rcases List.mem_cons.1 g_mem with rfl | g_mem
      · exact ⟨[], f, rest, rfl, h_kin, h_eq⟩
      · obtain ⟨before, e, after, rfl, g_kin, g_eq⟩ := ih more_eq g_mem
        exact ⟨f :: before, e, after, rfl, g_kin, g_eq⟩

end Studies

/-! ## What is listed in the end -/

variable {contract : Contract} {f : Function} {plan : Plan}

/-- A function as it is listed after its study. -/
def studied (contract : Contract) (f : Function) (schedule : Schedule) : Function :=
  { f with blocks := (contract.studyOf false f schedule).analysis.state.explored }.judge
    contract.layout

/-- Functions as they are listed after their studies, one after the other. -/
def studiedByTurns (plan : Plan) (contract : Contract) : List Function → List Function
  | [] => []
  | f :: rest =>
    contract.studied f (plan f.start) ::
      (contract.studyOf false f (plan f.start)).contract.studiedByTurns plan rest

theorem kin_studied (contract : Contract) (f : Function) (schedule : Schedule) :
    (contract.studied f schedule).Kin f := by
  obtain ⟨attributes, judged⟩ := Function.judge_eq contract.layout
    { f with blocks := (contract.studyOf false f schedule).analysis.state.explored }
  rw [studied, judged]
  exact ⟨rfl, rfl, rfl⟩

theorem blocks_studied (contract : Contract) (f : Function) (schedule : Schedule) :
    (contract.studied f schedule).blocks =
      (contract.studyOf false f schedule).analysis.state.explored := by
  obtain ⟨attributes, judged⟩ := Function.judge_eq contract.layout
    { f with blocks := (contract.studyOf false f schedule).analysis.state.explored }
  rw [studied, judged]

section ByTurns

variable (contract : Contract) (plan : Plan) (functions : List Function)

theorem studiedByTurns_relisted (rest : List Function) :
    studiedByTurns plan { contract with functions } rest = contract.studiedByTurns plan rest := by
  induction rest generalizing contract with
  | nil => rfl
  | cons f rest ih =>
      exact congrArg _ (ih (contract.studyOf false f (plan f.start)).contract)

theorem forall₂_kin_studiedByTurns :
    List.Forall₂ Function.Kin (contract.studiedByTurns plan functions) functions := by
  induction functions generalizing contract with
  | nil => exact .nil
  | cons f rest ih => exact .cons (contract.kin_studied f _) (ih _)

theorem keys_studiedByTurns :
    (contract.studiedByTurns plan functions).map Function.key = functions.map Function.key := by
  induction functions generalizing contract with
  | nil => rfl
  | cons f rest ih =>
      rw [studiedByTurns, List.map_cons, (contract.kin_studied f _).key_eq, ih, List.map_cons]

theorem blocks_studiedByTurns :
    (contract.studiedByTurns plan functions).map Function.blocks =
      contract.blocksByTurns false plan functions := by
  induction functions generalizing contract with
  | nil => rfl
  | cons f rest ih => rw [studiedByTurns, List.map_cons, blocks_studied, ih, blocksByTurns]

end ByTurns

/-- Exploring a function that does not fail studies it and lists what was found. -/
theorem exploreFunction_completed {schedule : Schedule}
    (completed : (contract.exploreFunction f schedule).failure = none) :
    (contract.exploreFunction f schedule).state =
      (contract.studyOf false f schedule).contract.putFunction (contract.studied f schedule) := by
  simp only [exploreFunction] at completed ⊢
  split at completed
  · rename_i failed
    cases failed.symm.trans completed
  · rfl

/-- Exploring functions lists each in its place, as its study left it. -/
theorem exploreEach_listed {before rest after : List Function} (apart : Apart contract.functions)
    (functions_eq : contract.functions = before ++ (rest ++ after))
    (completed : (contract.exploreEach rest plan).failure = none) :
    (contract.exploreEach rest plan).state =
      { contract.studyEach false plan rest with
        functions := before ++ (contract.studiedByTurns plan rest ++ after) } := by
  induction rest generalizing contract before with
  | nil =>
      rw [studiedByTurns, ← functions_eq]
      rfl
  | cons f rest ih =>
      obtain ⟨explored, completed, state_eq⟩ := Outcome.andThen_completed completed
      have explored_eq := exploreFunction_completed explored
      have listed := apart.listFunction_eq functions_eq (contract.kin_studied f (plan f.start))
      rw [explored_eq] at completed state_eq
      have rest_eq := ih (apart.listFunction _) listed completed
      rw [Contract.exploreEach, state_eq, rest_eq, List.append_assoc, putFunction,
        studiedByTurns_relisted, studyEach_relisted]
      rfl

/-- Exploring functions lists each in its place, with the blocks explored when its turn came. -/
theorem exploreEach_completed {before rest : List Function} (apart : Apart contract.functions)
    (functions_eq : contract.functions = before ++ rest)
    (completed : (contract.exploreEach rest plan).failure = none) :
    ∃ more, List.Forall₂ Function.Kin more rest ∧
      more.map Function.blocks = contract.blocksByTurns false plan rest ∧
      (contract.exploreEach rest plan).state =
        { contract.studyEach false plan rest with functions := before ++ more } := by
  have functions_eq : contract.functions = before ++ (rest ++ []) := by simpa using functions_eq
  have listed := exploreEach_listed apart functions_eq completed
  rw [List.append_nil] at listed
  exact ⟨contract.studiedByTurns plan rest, contract.forall₂_kin_studiedByTurns plan rest,
    contract.blocks_studiedByTurns plan rest, listed⟩

/-- A contract has functions before it is explored, listed at different addresses. -/
theorem found_apart {directory : Directory} {source : Source} {stripsMetadata optimizes : Bool}
    {disassembler : Disassembler}
    (completed : (build directory source
      { stripsMetadata, exploresFunctions := false, optimizes, disassembler }).failure = none) :
    let found := (build directory source
      { stripsMetadata, exploresFunctions := false, optimizes, disassembler }).state
    Apart found.functions ∧ found.functions ≠ [] := by
  intro found
  obtain ⟨code, finds, found_eq⟩ := build_found completed
  obtain ⟨functions, dispatcher, lists, state_eq⟩ := findFunctions_new finds
  rw [state_eq] at found_eq
  have functions_eq : found.functions = functions ++ [dispatcher] :=
    congrArg Contract.functions found_eq
  rw [functions_eq]
  exact ⟨lists.apart, by simp⟩

/-- A contract is built by studying the functions that were found, one after the other. -/
theorem build_turns {directory : Directory} {source : Source} {stripsMetadata optimizes : Bool}
    {disassembler : Disassembler} {plan : Plan}
    (completed :
      (build directory source { stripsMetadata, optimizes, disassembler, plan }).failure = none) :
    let found := (build directory source
      { stripsMetadata, exploresFunctions := false, optimizes, disassembler }).state
    let contract := (build directory source { stripsMetadata, optimizes, disassembler, plan }).state
    found.layout.endsInJumpi = false ∧
      List.Forall₂ Function.Kin contract.functions found.functions ∧
      contract.functions.map Function.blocks = found.blocksByTurns false plan found.functions ∧
      contract.layout = found.layout ∧
      contract.graph = (found.studyEach false plan found.functions).graph := by
  intro found contract
  have found_coherent : found.Coherent disassembler := coherent_build _ _ rfl
  rw [build_eq] at completed
  obtain ⟨found_completed, explored, state_eq⟩ := Outcome.andThen_completed completed
  obtain ⟨apart, nonempty⟩ := found_apart found_completed
  obtain ⟨more, kin, blocks_eq, more_eq⟩ :=
    exploreEach_completed apart (List.nil_append _).symm explored
  have contract_eq :
      contract = { found.studyEach false plan found.functions with functions := more } :=
    state_eq.trans more_eq
  refine ⟨found_coherent.noJumpi_of_explored nonempty explored, ?_⟩
  rw [contract_eq]
  exact ⟨kin, blocks_eq, found.layout_studyEach false plan _, rfl⟩

end Contract

open Contract

/-- Whether it is asked for or not, the functions of a contract that was built have the blocks that
analyses explore which keep only the jump destinations apart, run by turns and in the same orders on
the contract as it was before.  If the code has no jump destination, these are also the blocks that
analyses explore which keep every value. -/
theorem build_keeps_only_destinations (directory : Directory) (source : Source)
    (stripsMetadata optimizes : Bool) (disassembler : Disassembler) (plan : Plan)
    (completed :
      (build directory source { stripsMetadata, optimizes, disassembler, plan }).failure = none) :
    let found := (build directory source
      { stripsMetadata, exploresFunctions := false, optimizes, disassembler }).state
    let contract := (build directory source { stripsMetadata, optimizes, disassembler, plan }).state
    List.Forall₂ Function.Kin contract.functions found.functions ∧
      contract.functions.map Function.blocks = found.blocksByTurns false plan found.functions ∧
      (found.layout.destinations = [] →
        contract.functions.map Function.blocks =
          found.blocksByTurns true plan found.functions) := by
  intro found contract
  obtain ⟨-, kin, blocks_eq, -, -⟩ := build_turns completed
  refine ⟨kin, blocks_eq, fun none => ?_⟩
  rw [blocks_eq, found.blocksByTurns_of_no_destinations plan none]

/-- Code that jumps to a destination from under a mask: to 6, which is 255 and 6 in conjunction. -/
def maskCode : Code := [0x60, 0xff, 0x60, 0x06, 0x16, 0x56, 0x5b, 0x00]

theorem maskCode_keeps_only_destinations :
    let found := (build {} (.raw maskCode) { exploresFunctions := false, optimizes := false }).state
    let outcome := build {} (.raw maskCode) { optimizes := false }
    outcome.failure = none ∧
      outcome.state.functions.map Function.blocks =
        found.blocksByTurns false .inOrder found.functions := by
  intro found outcome
  have completed : outcome.failure = none := by decide +kernel
  exact ⟨completed,
    (build_keeps_only_destinations {} (.raw maskCode) true false .evm .inOrder completed).2.1⟩

/-- An analysis that keeps every value finds the destination, but the one that was run does not. -/
theorem maskCode_misses_destination :
    let found := (build {} (.raw maskCode) { exploresFunctions := false, optimizes := false }).state
    let outcome := build {} (.raw maskCode) { optimizes := false }
    outcome.failure = none ∧ outcome.state.functions.map Function.blocks = [[0]] ∧
      found.blocksByTurns true .inOrder found.functions = [[0, 6]] ∧
      ¬ outcome.state.functions.map Function.blocks =
        found.blocksByTurns true .inOrder found.functions := by
  intro found outcome
  have blocks_eq : outcome.state.functions.map Function.blocks = [[0]] := by decide +kernel
  have kept : found.blocksByTurns true .inOrder found.functions = [[0, 6]] := by decide +kernel
  refine ⟨by decide +kernel, blocks_eq, kept, ?_⟩
  rw [blocks_eq, kept]
  decide

end EvmFlow
