import EvmFlow.Proofs.Exploration.Frame
import EvmFlow.Proofs.Exploration.Lookup
import EvmFlow.Proofs.Exploration.Soundness
import EvmFlow.Proofs.Value.Tracking

/-!
# Which values an analysis holds

An analysis keeps the stacks after the blocks it has interpreted and the elements their jumps took
their destinations from.  In every state all of these keep to the values the analysis tracks: none of
them stands for every value, and an analysis that tracks the jump destinations of the code holds no
other known value.
-/

namespace EvmFlow
namespace Exploration

/-- The stacks and the elements that an exploration has kept hold tracked values only. -/
structure State.KeepsTo (tracked : ValueSet) (s : State) : Prop where
  exits : ∀ address stack, s.exits.get? address = some stack → AbstractStack.KeepsTo tracked stack
  targets : ∀ address element, s.targets.get? address = some element → element.KeepsTo tracked

theorem State.keepsTo_initial (tracked : ValueSet) (entry : Nat) :
    (State.initial entry).KeepsTo tracked where
  exits _ _ left := by simp [State.initial] at left
  targets _ _ taken := by simp [State.initial] at taken

/-- Nothing else of a state matters. -/
theorem State.KeepsTo.of_eq {tracked : ValueSet} {s t : State} (keeps : s.KeepsTo tracked)
    (exits_eq : t.exits = s.exits) (targets_eq : t.targets = s.targets) : t.KeepsTo tracked where
  exits := exits_eq ▸ keeps.exits
  targets := targets_eq ▸ keeps.targets

variable {p : Problem} {s : State}

/-! ## Visits -/

theorem entryStack_keepsTo (keeps : s.KeepsTo p.tracked) (g : Ground) (b : Block) :
    AbstractStack.KeepsTo p.tracked (entryStack p g s b) := by
  simp only [entryStack]
  split
  · exact AbstractStack.keepsTo_nil
  · refine AbstractStack.join_keepsTo fun stack member => ?_
    obtain ⟨address, -, left⟩ := List.mem_filterMap.1 member
    obtain ⟨father, -, left⟩ := Option.bind_eq_some_iff.1 left
    exact keeps.exits father.stop stack left

/-- An interpretation replaces the stack and the element at its own block, and keeps all others. -/
theorem revise_keepsTo (keeps : s.KeepsTo p.tracked) (g : Ground) (b : Block)
    {stack : AbstractStack} (entered : AbstractStack.KeepsTo p.tracked stack) :
    (revise p g b stack s).KeepsTo p.tracked := by
  obtain ⟨exit, target⟩ := b.interpret_keepsTo entered
  refine ⟨fun address left there => ?_, fun address element there => ?_⟩
  · rw [get?_exits_revise] at there
    split at there
    · cases there
      exact exit
    · exact keeps.exits address left there
  · rw [revise_targets, State.record] at there
    dsimp only at there
    split at there
    · rename_i shown_eq
      rw [Std.TreeMap.get?_eq_getElem?, Std.TreeMap.getElem?_insert] at there
      split at there
      · cases there
        exact target _ shown_eq
      · exact keeps.targets address element there
    · exact keeps.targets address element there

theorem visit_keepsTo (keeps : s.KeepsTo p.tracked) (g : Ground) (b : Block) :
    (visit p g b s).KeepsTo p.tracked := by
  have counted : (s.count b).KeepsTo p.tracked := keeps.of_eq rfl rfl
  rcases visit_cases p g b s with ⟨-, -, visited⟩ | ⟨-, -, -, visited⟩ | ⟨-, -, -, visited⟩ <;>
    rw [visited]
  · exact keeps
  · exact counted
  · exact revise_keepsTo counted g b (entryStack_keepsTo keeps g b)

theorem visitAt_keepsTo (keeps : s.KeepsTo p.tracked) (edges : Edges) (site : Site) :
    (visitAt p edges site s).KeepsTo p.tracked := by
  rw [visitAt]
  split
  · exact keeps
  · split
    · exact visit_keepsTo keeps _ _
    · exact keeps

theorem drain_keepsTo (keeps : s.KeepsTo p.tracked) (edges : Edges) (fuel : Nat) :
    (drain p edges fuel s).KeepsTo p.tracked := by
  induction fuel generalizing s with
  | zero => exact keeps
  | succ fuel ih =>
      rw [drain]
      split
      · exact keeps
      · apply ih
        rw [step]
        split
        · refine visitAt_keepsTo ?_ _ _
          exact keeps.of_eq rfl rfl
        · exact keeps

/-! ## Rounds -/

theorem connectFound_keepsTo (keeps : s.KeepsTo p.tracked) (edges : Edges) (round : Nat) :
    (connectFound p edges round s).state.state.KeepsTo p.tracked := by
  simp only [connectFound]
  split <;> exact keeps.of_eq rfl rfl

theorem round_keepsTo {progress : Progress} (keeps : progress.state.KeepsTo p.tracked) :
    (round p progress).state.state.KeepsTo p.tracked := by
  simp only [round]
  split
  · exact keeps
  · rename_i site agenda _
    have visited : (visitAll p progress.edges site
        { progress.state with agenda, rounds := progress.state.rounds + 1 }).KeepsTo
        p.tracked := by
      refine drain_keepsTo (visitAt_keepsTo ?_ _ _) _ _
      exact keeps.of_eq rfl rfl
    split
    · exact visited.of_eq rfl rfl
    · exact connectFound_keepsTo visited _ _

theorem rounds_keepsTo (fuel : Nat) {progress : Progress}
    (keeps : progress.state.KeepsTo p.tracked) :
    (rounds p fuel progress).state.state.KeepsTo p.tracked := by
  induction fuel generalizing progress with
  | zero => exact keeps
  | succ fuel ih =>
      rw [rounds]
      split
      · exact keeps
      · rw [Outcome.andThen]
        split
        · exact round_keepsTo keeps
        · exact ih (round_keepsTo keeps)

/-- A run keeps to the tracked values up to its end, and also where it fails. -/
theorem run_keepsTo (keeps : s.KeepsTo p.tracked) (graph : Graph) :
    (run p graph s).state.state.KeepsTo p.tracked := by
  have explored : (explore p graph s).state.state.KeepsTo p.tracked := by
    simp only [explore]
    split
    · exact keeps
    · exact rounds_keepsTo _ keeps
  rw [run, Outcome.andThen]
  split
  · exact explored
  · have kept : (settle p (explore p graph s).state).state.state =
        (explore p graph s).state.state := by
      rcases settle_state_cases p (explore p graph s).state with
        settled | ⟨-, _, _, -, settled⟩ | ⟨-, _, _, _, -, -, settled⟩ <;> rw [settled]
    exact kept ▸ explored

theorem Transition.keepsTo {before after : Progress} {made : List Reading}
    (keeps : before.state.KeepsTo p.tracked) (step : Transition p before made after) :
    after.state.KeepsTo p.tracked := by
  cases step with
  | take idle connected taken => exact keeps.of_eq rfl rfl
  | visit next =>
      refine visitAt_keepsTo ?_ _ _
      exact keeps.of_eq rfl rfl
  | connect idle found => exact connectFound_keepsTo keeps _ _

/-- A state holds an element: in a stack kept after a block, or as what a jump took its destination
from. -/
def State.Holds (s : State) (e : AbstractValue) : Prop :=
  (∃ address stack, s.exits.get? address = some stack ∧ e ∈ stack) ∨
    ∃ address, s.targets.get? address = some e

theorem State.KeepsTo.of_holds {tracked : ValueSet} (keeps : s.KeepsTo tracked) {e : AbstractValue}
    (holds : s.Holds e) : e.KeepsTo tracked := by
  rcases holds with ⟨address, stack, left, member⟩ | ⟨address, taken⟩
  · exact keeps.exits address stack left e member
  · exact keeps.targets address e taken

theorem mem_trackedDestinations {layout : Layout} {v : Value} :
    v ∈ trackedDestinations layout ↔ ∃ d ∈ layout.destinations, v = some (d : Int) := by
  rw [trackedDestinations, ValueSet.mem_ofList, List.mem_map]
  exact exists_congr fun d => and_congr_right fun _ => eq_comm

theorem isEmpty_trackedDestinations {layout : Layout} (nonempty : layout.destinations ≠ []) :
    (trackedDestinations layout).isEmpty = false := by
  obtain ⟨d, d_mem⟩ := List.exists_mem_of_ne_nil _ nonempty
  have member : some (d : Int) ∈ trackedDestinations layout :=
    mem_trackedDestinations.2 ⟨d, d_mem, rfl⟩
  exact List.isEmpty_eq_false_iff.2 (List.ne_nil_of_mem member)

end Exploration

open Exploration

/-- In every state of a new analysis, whatever its entry, its key and its choices, and also where it
fails, each element of a stack it has kept and each element a jump took its destination from is a set
of values.  If the analysis keeps only the jump destinations apart, and the code has any, such a set
holds nothing but these addresses and unknown. -/
theorem analysis_holds_only_destinations (contract : Contract) (key : Key) (entry : Nat)
    (visitLimit : Int) (keepsAll : Bool) (schedule : Schedule) :
    let analysis := Analysis.fresh contract.layout key entry visitLimit keepsAll schedule
    let problem := analysis.problem contract
    let final := (Study.run ⟨contract, analysis⟩).state.analysis.state
    ∀ s, (s = final ∨ ∃ log edges,
        Execution problem (beginning problem contract.graph entry) log ⟨edges, s⟩) →
      ∀ e, s.Holds e → ∃ values, e = .among values ∧
        (keepsAll = false → contract.layout.destinations ≠ [] →
          ∀ v ∈ values, v = none ∨ ∃ d ∈ contract.layout.destinations, v = some (d : Int)) := by
  intro analysis problem final s reached e holds
  have initial : (State.initial entry).KeepsTo problem.tracked := State.keepsTo_initial _ entry
  have keeps : s.KeepsTo problem.tracked := by
    rcases reached with rfl | ⟨log, edges, execution⟩
    · exact run_keepsTo initial contract.graph
    · exact execution.invariant (fun _ progress => progress.state.KeepsTo problem.tracked) initial
        fun keeps step => step.keepsTo keeps
  obtain ⟨values, rfl, kept⟩ := (keeps.of_holds holds).exists_values
  refine ⟨values, rfl, fun optimizes nonempty v member => ?_⟩
  have tracked_eq : problem.tracked = trackedDestinations contract.layout := by
    simp [problem, analysis, Analysis.problem, Analysis.fresh, optimizes]
  rw [tracked_eq] at kept
  exact (kept (isEmpty_trackedDestinations nonempty) v member).imp_right mem_trackedDestinations.1

/-- Code that jumps to the conjunction of two jump destinations, 7 and 11, which is none. -/
def blendCode : Code :=
  [0x60, 0x07, 0x80, 0x60, 0x0b, 0x16, 0x56, 0x5b, 0x00, 0x00, 0x00, 0x5b, 0x00]

/-- A contract with this code. -/
def blendContract : Contract := { code := some blendCode, layout := .ofCode blendCode }

theorem blendContract_holds_destination :
    let final := (Study.run
      ⟨blendContract, .fresh blendContract.layout 7 0 100 false⟩).state.analysis.state
    blendContract.layout.destinations = [7, 11] ∧
      final.targets.get? 6 = some .unknown ∧
      final.exits.get? 6 = some [.among (.single (some 7))] ∧
      ∃ values, AbstractValue.among (.single (some 7)) = .among values ∧
        ∀ v ∈ values, v = none ∨ ∃ d ∈ blendContract.layout.destinations, v = some (d : Int) := by
  intro final
  have left : final.exits.get? 6 = some [.among (.single (some 7))] := by decide +kernel
  have holds : final.Holds (.among (.single (some 7))) := .inl ⟨6, _, left, List.mem_cons_self⟩
  obtain ⟨values, same, kept⟩ :=
    analysis_holds_only_destinations blendContract 7 0 100 false .inOrder final (.inl rfl) _ holds
  exact ⟨by decide, by decide +kernel, left, values, same, kept rfl (by decide)⟩

end EvmFlow
