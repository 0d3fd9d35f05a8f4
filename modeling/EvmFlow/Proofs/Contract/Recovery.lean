import EvmFlow.Proofs.Contract.Session
import EvmFlow.Proofs.Exploration.Lookup

/-!
# Recovering functions

The functions of a contract are explored one after the other, each by an analysis of its own.
Exploring one fails only where its analysis does, so that the functions of a new contract are all
explored, unless the code ends with a conditional jump; then the first of them fails already.
-/

namespace EvmFlow

open Exploration

namespace Contract

variable {contract : Contract} {d : Disassembler} {f : Function} {schedule : Schedule}

/-- A function whose analysis comes to its end is listed with the blocks that were explored. -/
theorem exploreFunction_eq {entry : Block} {log : List Reading} {after : Progress}
    (concludes : (contract.analysisOf f schedule).Concludes contract entry log after) :
    ∃ g : Function, g.Kin f ∧ g.blocks = after.state.explored ∧
      contract.exploreFunction f schedule =
        { state := putFunction
            { contract with
              graph := settledGraph contract.graph f.key entry.start after.edges } g } := by
  obtain ⟨attributes, judged⟩ :=
    Function.judge_eq contract.layout { f with blocks := after.state.explored }
  refine ⟨{ f with blocks := after.state.explored, attributes }, ⟨rfl, rfl, rfl⟩, rfl, ?_⟩
  have run_eq := concludes.run_eq
  rw [analysisOf] at run_eq
  simp only [exploreFunction, run_eq, judged]
  rfl

/-- The analysis that explores a function comes to its end, unless the code ends with a conditional
jump. -/
theorem Coherent.concludes (coherent : contract.Coherent d)
    (entered : ∃ b ∈ contract.layout.blocks, b.start = f.entry)
    (noJumpi : contract.layout.endsInJumpi = false) (schedule : Schedule) :
    ∃ entry log after, entry.start = f.entry ∧
      (contract.analysisOf f schedule).Begins contract entry ∧
      (contract.analysisOf f schedule).Concludes contract entry log after := by
  obtain ⟨entry, entry_mem, entry_eq⟩ := entered
  have begins := coherent.begins entry_mem entry_eq schedule
  obtain ⟨log, after, concludes⟩ := begins.concludes noJumpi
  exact ⟨entry, log, after, entry_eq, begins, concludes⟩

theorem Coherent.exploreFunction_completes (coherent : contract.Coherent d)
    (entered : ∃ b ∈ contract.layout.blocks, b.start = f.entry)
    (noJumpi : contract.layout.endsInJumpi = false) (schedule : Schedule) :
    (contract.exploreFunction f schedule).failure = none := by
  obtain ⟨entry, log, after, -, -, concludes⟩ := coherent.concludes entered noJumpi schedule
  obtain ⟨g, -, -, explored_eq⟩ := exploreFunction_eq concludes
  rw [explored_eq]

theorem Coherent.exploreFunction_failure (coherent : contract.Coherent d)
    (entered : ∃ b ∈ contract.layout.blocks, b.start = f.entry)
    (jumpi : contract.layout.endsInJumpi) (schedule : Schedule) :
    ∃ i, contract.layout.instructions.getLast? = some i ∧ i.is .jumpi ∧
      (contract.exploreFunction f schedule).failure = some (.missingBlock (i.address + 1)) := by
  obtain ⟨entry, entry_mem, entry_eq⟩ := entered
  obtain ⟨i, last, is_jumpi, failure, -⟩ :=
    (coherent.begins entry_mem entry_eq schedule).run_failure jumpi
  rw [analysisOf] at failure
  refine ⟨i, last, is_jumpi, ?_⟩
  simp only [Contract.exploreFunction, failure]

theorem Coherent.exploreEach_completes (coherent : contract.Coherent d) {functions : List Function}
    (entered : ∀ f ∈ functions, ∃ b ∈ contract.layout.blocks, b.start = f.entry)
    (noJumpi : contract.layout.endsInJumpi = false) (plan : Plan) :
    (contract.exploreEach functions plan).failure = none := by
  induction functions generalizing contract with
  | nil => rfl
  | cons f rest ih =>
      obtain ⟨f_entered, rest_entered⟩ := List.forall_mem_cons.1 entered
      obtain ⟨explored, layout_eq⟩ := coherent.exploreFunction f_entered (plan f.start)
      have completed := coherent.exploreFunction_completes f_entered noJumpi (plan f.start)
      simp only [Contract.exploreEach, Outcome.andThen, completed]
      rw [← layout_eq] at rest_entered noJumpi
      exact ih explored rest_entered noJumpi

/-- The first function fails already. -/
theorem Coherent.exploreEach_failure (coherent : contract.Coherent d) {functions : List Function}
    (nonempty : functions ≠ [])
    (entered : ∀ f ∈ functions, ∃ b ∈ contract.layout.blocks, b.start = f.entry)
    (jumpi : contract.layout.endsInJumpi) (plan : Plan) :
    ∃ i, contract.layout.instructions.getLast? = some i ∧ i.is .jumpi ∧
      (contract.exploreEach functions plan).failure = some (.missingBlock (i.address + 1)) := by
  obtain ⟨f, rest, rfl⟩ := List.exists_cons_of_ne_nil nonempty
  obtain ⟨i, last, is_jumpi, failure⟩ :=
    coherent.exploreFunction_failure (entered f List.mem_cons_self) jumpi (plan f.start)
  exact ⟨i, last, is_jumpi, by simp only [Contract.exploreEach, Outcome.andThen, failure]⟩

theorem Coherent.noJumpi_of_explored (coherent : contract.Coherent d)
    (nonempty : contract.functions ≠ []) {plan : Plan}
    (completed : (contract.exploreFunctions plan).failure = none) :
    contract.layout.endsInJumpi = false := by
  rw [← Bool.not_eq_true]
  intro jumpi
  obtain ⟨i, -, -, failure⟩ := coherent.exploreEach_failure nonempty coherent.entered jumpi plan
  cases completed.symm.trans failure

/-- The analysis that explores a function follows an execution, and whatever its executions look up
is there. -/
def Supplies (contract : Contract) (f : Function) (schedule : Schedule) : Prop :=
  let analysis := contract.analysisOf f schedule
  let problem := analysis.problem contract
  let start := beginning problem contract.graph f.entry
  let final := (Study.run ⟨contract, analysis⟩).state.analysis.state
  (∃ log edges, Execution problem start log ⟨edges, final⟩) ∧
    ∀ log progress, Execution problem start log progress → Supplied problem progress

theorem Coherent.supplies (coherent : contract.Coherent d)
    (entered : ∃ b ∈ contract.layout.blocks, b.start = f.entry)
    (noJumpi : contract.layout.endsInJumpi = false) (schedule : Schedule) :
    contract.Supplies f schedule := by
  obtain ⟨entry, entry_mem, entry_eq⟩ := entered
  have begins := coherent.begins entry_mem entry_eq schedule
  rw [Supplies, ← entry_eq]
  constructor
  · obtain ⟨log, final, concludes⟩ := begins.concludes noJumpi
    exact ⟨log, final.edges, concludes.state_eq ▸ concludes.execution⟩
  · intro log progress execution
    exact begins.supplied noJumpi (coherent.enclosed f.key) execution

end Contract

open Contract

/-- Exploring the functions of a new contract, each in any order, fails exactly if the code ends with a
conditional jump, and then for want of a block after it.  Otherwise every function is explored by an
execution in each state of which all is there that may be looked up.  A block that falls through to
another finds a jump destination there in any case. -/
theorem recovery_fails_only_at_final_jumpi (directory : Directory) (code : Code)
    (d : Disassembler) (plan : Plan)
    (completed : (findFunctions { code := some code } directory d).failure = none) :
    let contract := (findFunctions { code := some code } directory d).state
    let layout := contract.layout
    let recovery := contract.exploreFunctions plan
    layout.instructions = d.read code ∧
      (recovery.failure ≠ none ↔ ∃ i, (d.read code).getLast? = some i ∧ i.is .jumpi) ∧
      (∀ i, (d.read code).getLast? = some i → i.is .jumpi →
        recovery.failure = some (.missingBlock (i.address + 1))) ∧
      (∀ b ∈ layout.blocks, b.isClosed = false →
        ∀ c, layout.blockAt? b.last.next = some c → c.isDestination) ∧
      (recovery.failure = none →
        (∀ b ∈ layout.blocks, b.endsInJumpi → (layout.blockAt? (b.stop + 1)).isSome) ∧
        ∀ before f after, contract.functions = before ++ f :: after →
          (contract.exploreEach before plan).state.Supplies f (plan f.start)) := by
  intro contract layout recovery
  obtain ⟨functions, dispatcher, -, state_eq⟩ := findFunctions_new completed
  have coherent : contract.Coherent d := (coherent_new (some code) d).findFunctions directory
  have layout_eq : layout = .ofCode code d := congrArg Contract.layout state_eq
  have layout_coherent : layout.Coherent := coherent.coherent_layout
  have instructions_eq : layout.instructions = d.read code :=
    congrArg Layout.instructions layout_eq
  have nonempty : contract.functions ≠ [] := by simp [contract, state_eq]
  have endsInJumpi_iff :
      layout.endsInJumpi ↔ ∃ i, (d.read code).getLast? = some i ∧ i.is .jumpi := by
    rw [Layout.endsInJumpi, instructions_eq, Option.any_eq_true]
  have failure_of_jumpi : ∀ i, (d.read code).getLast? = some i → i.is .jumpi →
      recovery.failure = some (.missingBlock (i.address + 1)) := by
    intro i last is_jumpi
    obtain ⟨j, final, -, failure⟩ := coherent.exploreEach_failure nonempty coherent.entered
      (endsInJumpi_iff.2 ⟨i, last, is_jumpi⟩) plan
    have same : some j = some i := final.symm.trans (instructions_eq ▸ last)
    cases same
    exact failure
  have completes_of_noJumpi : layout.endsInJumpi = false → recovery.failure = none := fun noJumpi =>
    coherent.exploreEach_completes coherent.entered noJumpi plan
  refine ⟨instructions_eq, ?_, failure_of_jumpi, ?_, ?_⟩
  · rw [← endsInJumpi_iff]
    constructor
    · intro failed
      by_contra noJumpi
      exact failed (completes_of_noJumpi (by simpa using noJumpi))
    · intro jumpi
      obtain ⟨i, last, is_jumpi⟩ := endsInJumpi_iff.1 jumpi
      simp [failure_of_jumpi i last is_jumpi]
  · exact fun b b_mem opened c => layout_coherent.isDestination_of_next b_mem opened
  · intro recovered
    have noJumpi : layout.endsInJumpi = false := by
      rw [← Bool.not_eq_true]
      intro jumpi
      obtain ⟨i, last, is_jumpi⟩ := endsInJumpi_iff.1 jumpi
      simp [failure_of_jumpi i last is_jumpi] at recovered
    constructor
    · intro b b_mem conditional
      have found := layout_coherent.goOn_blocks noJumpi b b_mem conditional
      rw [b.next_last_of_endsInJumpi conditional] at found
      exact Option.isSome_iff_ne_none.2 found
    · intro before f after split
      have entered : ∀ g ∈ before ++ f :: after, ∃ b ∈ layout.blocks, b.start = g.entry :=
        split ▸ coherent.entered
      obtain ⟨before_entered, rest_entered⟩ := List.forall_mem_append.1 entered
      obtain ⟨current_coherent, current_eq⟩ := coherent.exploreEach before_entered plan
      refine current_coherent.supplies ?_ ?_ (plan f.start)
      · rw [current_eq]
        exact rest_entered f List.mem_cons_self
      · rw [current_eq]
        exact noJumpi

/-- Code that is cut off after the conditional jump of its loop. -/
def cutCode : Code := loopCode.dropLast

theorem cutCode_fails :
    let found := findFunctions { code := some cutCode } {}
    found.failure = none ∧ found.state.exploreFunctions.failure = some (.missingBlock 6) := by
  intro found
  have completed : found.failure = none := by decide +kernel
  obtain ⟨-, -, fails, -⟩ := recovery_fails_only_at_final_jumpi {} cutCode .evm .inOrder completed
  exact ⟨completed, fails ⟨5, .plain .jumpi⟩ (by decide) (by decide)⟩

end EvmFlow
