import Mathlib.Data.List.TakeWhile
import EvmFlow.Proofs.Contract.DecisionTree

/-!
# Dispatchers that are chains of comparisons

A small contract compares the selector of a call with one number after the other.  Functions are
listed by address, so of the selectors that share one the last is kept; a selector of zero ends the
walk.
-/

namespace EvmFlow

/-- The blocks of a layout compare, from a block on, the selector of a call with each of the given
numbers, and jump to the destination that stands with it. -/
inductive Chain (layout : Layout) : List (Nat × Nat) → Block → Prop
  | last {b : Block} (ends : b.endsInJumpi = false) : Chain layout [] b
  | link {b c : Block} {selector target : Nat} {links : List (Nat × Nat)}
      (compares : b.Compares .eq 4 selector target) (target_ne : target ≠ 0)
      (destination : layout.isDestination target) (noGt : b.uses [.gt] = false)
      (noSize : b.uses [.callDataSize] = false) (noValue : b.uses [.callValue] = false)
      (follows : layout.blockAt? (b.stop + 1) = some c) (rest : Chain layout links c) :
      Chain layout ((selector, target) :: links) b

namespace Chain

variable {layout : Layout} {links : List (Nat × Nat)} {b : Block}

theorem accepts (chain : Chain layout links b) : Dispatch.refusesPayment b = false := by
  cases chain with
  | last ends => rw [Dispatch.refusesPayment, ends, Bool.false_and]
  | link _ _ _ _ _ noValue _ _ => exact Dispatch.accepts_of_unused noValue

/-- A walk along a chain finds the functions of the selectors before the first zero. -/
theorem finds (chain : Chain layout links b) (coherent : layout.Coherent) :
    ∃ found, Dispatch.Finds layout b found ∧
      found.map (fun new => (new.start, new.key)) =
        (links.takeWhile (·.1 != 0)).map fun link => (link.2, (link.1 : Int)) := by
  induction chain with
  | last ends =>
      exact ⟨[], Dispatch.finds_of_undecided (Dispatch.undecided_of_not_jumpi ends), rfl⟩
  | @link b c selector target links compares target_ne destination noGt noSize _ follows _ ih =>
      have decided := Dispatch.decision_of_compares compares noSize
      by_cases zero : selector = 0
      · -- The number zero counts as none, so the walk ends here.
        rw [if_pos zero] at decided
        refine ⟨[], Dispatch.finds_of_undecided fun _ _ here => ?_, by simp [zero]⟩
        rw [decided] at here
        cases here
      · rw [if_neg zero] at decided
        obtain ⟨found, finds, found_eq⟩ := ih
        obtain ⟨entry, entry_mem, rfl, -⟩ := Layout.exists_of_isDestination destination
        have located := coherent.blockAt?_start entry_mem
        refine ⟨_, .select decided target_ne follows finds noGt located, ?_⟩
        rw [List.map_cons, found_eq]
        simp [zero]

/-- The last of the selectors with a target are the ones that stay. -/
theorem mem_latest_links_iff {selector target : Nat} :
    (target, (selector : Int)) ∈ latest (links.map fun link => (link.2, (link.1 : Int))) ↔
      ∃ before after, links = before ++ (selector, target) :: after ∧
        ∀ link ∈ after, link.2 ≠ target := by
  rw [mem_latest_iff]
  constructor
  · rintro ⟨before, after, links_eq, after_ne⟩
    obtain ⟨earlier, later, rfl, -, later_eq⟩ := List.map_eq_append_iff.1 links_eq
    obtain ⟨⟨selector', target'⟩, rest, rfl, same, rfl⟩ := List.map_eq_cons_iff.1 later_eq
    obtain ⟨rfl, selector_eq⟩ := Prod.mk.inj same
    obtain rfl := Int.natCast_inj.1 selector_eq
    exact ⟨earlier, rest, rfl, fun link member => after_ne _ (List.mem_map_of_mem member)⟩
  · rintro ⟨before, after, rfl, after_ne⟩
    exact ⟨before.map _, after.map _, List.map_append, List.forall_mem_map.2 after_ne⟩

end Chain

/-- Finding the functions of code that decides by a chain comes to its end.  A selector that is the
last with its target has its function, if no selector up to it is zero; and if none is zero at all,
no other selector has one. -/
theorem last_selectors_recovered (code : Code) {d : Disassembler} (directory : Directory)
    (links : List (Nat × Nat)) (entry : Block)
    (first : (Layout.ofCode code d).blockAt? 0 = some entry)
    (chain : Chain (.ofCode code d) links entry) :
    let outcome := Contract.findFunctions { code := some code } directory d
    let Listed := fun selector target : Nat =>
      ∃ f ∈ outcome.state.functions, f.key = (selector : Int) ∧ f.start = (target : Int)
    outcome.failure = none ∧
      (∀ before selector target after, links = before ++ (selector, target) :: after →
        (∀ link ∈ before, link.1 ≠ 0) → selector ≠ 0 → (∀ link ∈ after, link.2 ≠ target) →
          Listed selector target) ∧
      ((∀ link ∈ links, link.1 ≠ 0) → ∀ selector target, Listed selector target ↔
        ∃ before after, links = before ++ (selector, target) :: after ∧
          ∀ link ∈ after, link.2 ≠ target) := by
  intro outcome Listed
  obtain ⟨found, finds, found_eq⟩ := chain.finds (Layout.ofCode_coherent code d)
  have walked := finds.walk_eq (Layout.mem_of_blockAt? first).1 chain.accepts
  have listed_iff : ∀ selector target, Listed selector target ↔
      ∃ before after, links.takeWhile (·.1 != 0) = before ++ (selector, target) :: after ∧
        ∀ link ∈ after, link.2 ≠ target := by
    intro selector target
    have key_ne : (selector : Int) ≠ Key.dispatcher := by
      change (selector : Int) ≠ -2
      omega
    rw [← Chain.mem_latest_links_iff, ← found_eq]
    exact Contract.exists_function_iff first walked directory key_ne
  refine ⟨Contract.findFunctions_completes first walked directory, ?_, ?_⟩
  · rintro before selector target after rfl before_ne selector_ne after_ne
    refine (listed_iff selector target).2 ⟨before, after.takeWhile (·.1 != 0), ?_, ?_⟩
    · rw [List.takeWhile_append_of_pos (by simpa using before_ne),
        List.takeWhile_cons_of_pos (by simpa using selector_ne)]
    · exact fun link member => after_ne link ((List.takeWhile_sublist _).subset member)
  · intro links_ne selector target
    rw [listed_iff, List.takeWhile_eq_self_iff.2 (by simpa using links_ne)]

/-- Code that compares the selector with 1 and with 2 and jumps to 21 on both. -/
def sharedCode : Code :=
  [0x80, 0x63, 0x00, 0x00, 0x00, 0x01, 0x14, 0x60, 0x15, 0x57, 0x80, 0x63, 0x00, 0x00, 0x00, 0x02,
    0x14, 0x60, 0x15, 0x57, 0x00, 0x5b, 0x00]

theorem sharedCode_chain : ∃ entry, (Layout.ofCode sharedCode).blockAt? 0 = some entry ∧
    Chain (.ofCode sharedCode) [(1, 21), (2, 21)] entry := by
  refine ⟨_, rfl, ?_⟩
  refine .link ⟨1, by decide⟩ (by decide) rfl (by decide) (by decide) (by decide) rfl ?_
  refine .link ⟨1, by decide⟩ (by decide) rfl (by decide) (by decide) (by decide) rfl ?_
  exact .last (by decide)

theorem sharedCode_recovered :
    (∃ entry, (Layout.ofCode sharedCode).blockAt? 0 = some entry ∧
      Chain (.ofCode sharedCode) [(1, 21), (2, 21)] entry) ∧
    ∃ f ∈ (Contract.findFunctions { code := some sharedCode } {}).state.functions,
      f.key = 2 ∧ f.start = 21 := by
  refine ⟨sharedCode_chain, ?_⟩
  obtain ⟨entry, first, chain⟩ := sharedCode_chain
  exact (last_selectors_recovered sharedCode {} _ entry first chain).2.1 [(1, 21)] 2 21 [] rfl
    (by decide) (by decide) (by decide)

/-- Code that compares the selector with zero. -/
def zeroCode : Code :=
  [0x80, 0x63, 0x00, 0x00, 0x00, 0x00, 0x14, 0x60, 0x0b, 0x57, 0x00, 0x5b, 0x00]

/-- A selector has no function if a later one shares its target, or if it is zero. -/
theorem selectors_lost :
    (∃ entry, (Layout.ofCode sharedCode).blockAt? 0 = some entry ∧
      Chain (.ofCode sharedCode) [(1, 21), (2, 21)] entry) ∧
    (∀ f ∈ (Contract.findFunctions { code := some sharedCode } {}).state.functions, f.key ≠ 1) ∧
    (∃ entry, (Layout.ofCode zeroCode).blockAt? 0 = some entry ∧
      Chain (.ofCode zeroCode) [(0, 11)] entry) ∧
    ∀ f ∈ (Contract.findFunctions { code := some zeroCode } {}).state.functions, f.key ≠ 0 := by
  refine ⟨sharedCode_chain, by decide, ⟨_, rfl, ?_⟩, by decide⟩
  refine .link ⟨1, by decide⟩ (by decide) rfl (by decide) (by decide) (by decide) rfl ?_
  exact .last (by decide)

end EvmFlow
