import EvmFlow.Proofs.Value.Exchange
import EvmFlow.Proofs.Value.Soundness

/-!
# Interpreting instructions soundly

Whatever an instruction of the code makes of words that a stack covers is covered by what it makes
of the stack, and so it is for instructions one after the other, as long as no exchange reaches
below the bottom of the stack.  One that does is sound only if the top, which then stays in place,
admits every word, or if the stack covers no words that are high enough
(`Operation.swap_covered_iff`).
-/

namespace EvmFlow

/-! ## Which operations run -/

theorem Operation.Runs.pops_le {operation : Operation} {ws d : List Word}
    (runs : operation.Runs ws d) : operation.pops ≤ ws.length := by
  cases runs with
  | push => exact Nat.zero_le _
  | @dup n _ _ copied =>
      obtain ⟨inside, -⟩ := List.getElem?_eq_some_iff.1 copied
      rw [pops]
      omega
  | @swap n _ _ _ top below =>
      obtain ⟨inside, -⟩ := List.getElem?_eq_some_iff.1 below
      exact inside
  | and => exact Nat.le_add_left 2 _
  | other not_and taken left taken_length =>
      rw [List.length_append, taken_length]
      exact Nat.le_add_right _ _

/-- An operation runs on every stack that is high enough for it. -/
theorem Operation.exists_runs {operation : Operation} (counts : operation.CountsFromOne)
    {ws : List Word} (high : operation.pops ≤ ws.length) : ∃ d, operation.Runs ws d := by
  cases operation with
  | push width value => exact ⟨_, .push⟩
  | dup n =>
      have inside : n - 1 < ws.length := by
        rw [CountsFromOne] at counts
        rw [pops] at high
        omega
      exact ⟨_, .dup (List.getElem?_eq_getElem inside)⟩
  | swap n =>
      cases ws with
      | nil => cases high
      | cons a ws => exact ⟨_, .swap rfl (List.getElem?_eq_getElem high)⟩
  | plain m =>
      by_cases is_and : m = .and
      · subst is_and
        obtain ⟨a, below, rfl⟩ := List.exists_cons_of_length_pos (Nat.zero_lt_of_lt high)
        obtain ⟨w, rest, rfl⟩ := List.exists_cons_of_length_pos (Nat.le_of_succ_le_succ high)
        exact ⟨_, .and⟩
      · have taken : (ws.take m.pops).length = m.pops := List.length_take_of_le high
        have runs : (plain m).Runs (ws.take m.pops ++ ws.drop m.pops)
            (List.replicate m.pushes 0 ++ ws.drop m.pops) :=
          .other is_and _ _ taken List.length_replicate
        rw [List.take_append_drop] at runs
        exact ⟨_, runs⟩

/-! ## Exchanges below the bottom -/

/-- An exchange that reaches below the bottom is sound only if its top admits every word, or if
there are no words for it. -/
theorem Operation.swap_covered_iff {tracked : ValueSet} (plain : none ∉ tracked)
    {s : AbstractStack} {n : Nat} (short : s.length ≤ n) :
    (∀ ws d, s.Covers ws → (swap n).Runs ws d →
        AbstractStack.Covers ((swap n).apply tracked s) d) ↔
      (∀ w, (s.headD .unknown).Covers w) ∨ ∀ ws, s.Covers ws → ws.length ≤ n := by
  constructor
  · intro sound
    by_contra refuted
    obtain ⟨some_refused, some_high⟩ := not_or.1 refuted
    obtain ⟨w, refused⟩ := not_forall.1 some_refused
    simp only [not_forall, not_le] at some_high
    obtain ⟨ws, covers, high⟩ := some_high
    cases s with
    | nil => exact refused (AbstractValue.covers_unknown w)
    | cons e s =>
        cases ws with
        | nil => cases high
        | cons a ws =>
            -- The refused word is put where the exchange finds it, below all that is known.
            have positive : n ≠ 0 := by
              rintro rfl
              cases short
            obtain ⟨m, rfl⟩ := Nat.exists_eq_succ_of_ne_zero positive
            have inside : m < ws.length := Nat.lt_of_succ_lt_succ high
            have runs : (swap (m + 1)).Runs (a :: ws.set m w) (w :: (ws.set m w).set m a) :=
              .swap rfl (List.getElem?_set_self inside)
            have covered := sound _ _ (covers.set_below short w) runs
            rw [apply, Stack.swap, if_neg (Nat.not_lt.2 short), Stack.sink_cons _ _ short]
              at covered
            exact refused covered.1
  · rintro (top_open | low) ws d covers runs
    · exact runs.covers plain trivial (.inr top_open) covers
    · have high : n + 1 ≤ ws.length := runs.pops_le
      exact absurd (low ws covers) (Nat.not_le.2 high)

/-! ## Instructions one after the other -/

/-- Exchanges that stay inside the stack reach what they exchange. -/
theorem Instruction.reachAll_of_inside {tracked : ValueSet} {is : List Instruction}
    {s : AbstractStack}
    (inside : ∀ before i after n, is = before ++ i :: after → i.operation = .swap n →
      n < (applyAll tracked before s).length) : ReachAll tracked is s := by
  induction is generalizing s with
  | nil => trivial
  | cons i is ih =>
      refine ⟨?_, ih fun before j after n split swaps => ?_⟩
      · cases operation : i.operation with
        | swap n => exact .inl (inside [] i is n rfl operation)
        | push | dup | plain => trivial
      · exact inside (i :: before) j after n (by rw [split, List.cons_append]) swaps

/-- Instructions of a code, interpreted on stacks whose elements are kept apart as far as known
values are tracked.  An instruction runs on all words that are high enough for it, and all that it
can make of words that a stack covers is covered by what it makes of the stack, if it does not
exchange the top with an element below the bottom.  The same holds for instructions one after the
other, and for blocks.  An exchange that does reach below the bottom is sound exactly if the top
admits every word or no words that are high enough are covered. -/
theorem instructions_interpreted_soundly (disassembler : Disassembler) (code : Code)
    (tracked : ValueSet) (plain : none ∉ tracked) :
    (∀ i ∈ disassembler.read code, ∀ (s : AbstractStack) (ws : List Word), s.Covers ws →
      i.operation.pops ≤ ws.length → (∀ n, i.operation = .swap n → n < s.length) →
        (∃ d, i.operation.Runs ws d) ∧
        ∀ d, i.operation.Runs ws d → AbstractStack.Covers (i.operation.apply tracked s) d) ∧
    (∀ is, is ⊆ disassembler.read code → ∀ (s : AbstractStack) (ws d : List Word), s.Covers ws →
      Instruction.RunAll is ws d →
      (∀ before i after n, is = before ++ i :: after → i.operation = .swap n →
        n < (Instruction.applyAll tracked before s).length) →
        AbstractStack.Covers (Instruction.applyAll tracked is s) d) ∧
    (∀ b ∈ (Layout.ofCode code disassembler).blocks, ∀ (s : AbstractStack) (ws d : List Word),
      s.Covers ws → b.Runs ws d →
      (∀ before i after n, b.instructions = before ++ i :: after → i.operation = .swap n →
        n < (Instruction.applyAll tracked before s).length) →
        AbstractStack.Covers (b.interpret tracked s).exit d) ∧
    (∀ (s : AbstractStack) (n : Nat), s.length ≤ n →
      ((∀ ws d, s.Covers ws → (Operation.swap n).Runs ws d →
          AbstractStack.Covers ((Operation.swap n).apply tracked s) d) ↔
        (∀ w, (s.headD .unknown).Covers w) ∨ ∀ ws, s.Covers ws → ws.length ≤ n)) := by
  have fits := disassembler.fitsWord code
  have counts := disassembler.countsFromOne code
  have coherent := Layout.ofCode_coherent code disassembler
  refine ⟨?_, ?_, ?_, fun s n short => Operation.swap_covered_iff plain short⟩
  · intro i i_mem s ws covers high inside
    refine ⟨Operation.exists_runs (counts i i_mem) high, fun d runs => ?_⟩
    have reaches : i.operation.Reaches s := by
      cases operation : i.operation with
      | swap n => exact .inl (inside n operation)
      | push | dup | plain => trivial
    exact runs.covers plain (fits i i_mem) reaches covers
  · intro is within s ws d covers runs inside
    exact runs.covers plain (fun i i_mem => fits i (within i_mem))
      (Instruction.reachAll_of_inside inside) covers
  · intro b b_mem s ws d covers runs inside
    exact runs.covers plain (coherent.fitsWord rfl b_mem) (Instruction.reachAll_of_inside inside)
      covers

/-- Code that pushes 8, exchanges it with the second element below and takes a conjunction. -/
def shuffleCode : Code := [0x60, 0x08, 0x91, 0x16]

theorem shuffleCode_interpreted :
    let tracked := ValueSet.single (some 8)
    let stack : AbstractStack := [.unknown, .among (.single (some 3))]
    none ∉ tracked ∧ stack.Covers [5, 3] ∧
      Instruction.RunAll (Disassembler.evm.read shuffleCode) [5, 3] [1, 8] ∧
      AbstractStack.Covers
        (Instruction.applyAll tracked (Disassembler.evm.read shuffleCode) stack) [1, 8] := by
  intro tracked stack
  have plain : none ∉ tracked := by decide
  have covers : stack.Covers [5, 3] := by decide
  have runs : Instruction.RunAll (Disassembler.evm.read shuffleCode) [5, 3] [1, 8] :=
    .cons .push (.cons (.swap rfl rfl) (.cons .and .nil))
  obtain ⟨-, covered, -⟩ := instructions_interpreted_soundly .evm shuffleCode tracked plain
  refine ⟨plain, covers, runs, ?_⟩
  refine covered (Disassembler.evm.read shuffleCode) (List.Subset.refl _) stack [5, 3] [1, 8] covers
    runs ?_
  have listed : Disassembler.evm.read shuffleCode =
      [⟨0, .push 1 8⟩, ⟨2, .swap 2⟩, ⟨3, .plain .and⟩] := by decide
  intro before i after n split swaps
  rw [listed] at split
  rcases before with _ | ⟨_, _ | ⟨_, _ | ⟨_, before⟩⟩⟩
  · cases split
    cases swaps
  · cases split
    cases swaps
    decide
  · cases split
    cases swaps
  · simp at split

end EvmFlow
