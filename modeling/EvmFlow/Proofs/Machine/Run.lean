import Mathlib.Algebra.Group.Nat.Defs
import EvmFlow.Proofs.Graph.Layout

/-!
# Runs of the machine

The machine works on a stack of words, its top in front.  Pushes, copies, exchanges and conjunctions
are those of the machine; any other operation takes and leaves its numbers of words, and may leave
any words.  No operation runs on a stack that is not high enough for it.
-/

namespace EvmFlow

/-- A word of the machine. -/
abbrev Word := BitVec 256

/-- What an operation can make of a stack. -/
inductive Operation.Runs : Operation → List Word → List Word → Prop
  | push {width value : Nat} {ws : List Word} :
      Runs (.push width value) ws (BitVec.ofNat 256 value :: ws)
  | dup {n : Nat} {ws : List Word} {w : Word} (copied : ws[n - 1]? = some w) :
      Runs (.dup n) ws (w :: ws)
  | swap {n : Nat} {ws : List Word} {a w : Word} (top : ws.head? = some a)
      (below : ws[n]? = some w) :
      Runs (.swap n) ws ((ws.set 0 w).set n a)
  | and {a w : Word} {ws : List Word} : Runs (.plain .and) (a :: w :: ws) ((a &&& w) :: ws)
  | other {m : Mnemonic} (not_and : m ≠ .and) (taken left : List Word) {ws : List Word}
      (pops : taken.length = m.pops) (pushes : left.length = m.pushes) :
      Runs (.plain m) (taken ++ ws) (left ++ ws)

/-- What several instructions can make of a stack, one after the other. -/
inductive Instruction.RunAll : List Instruction → List Word → List Word → Prop
  | nil {c : List Word} : RunAll [] c c
  | cons {i : Instruction} {is : List Instruction} {c d e : List Word}
      (first : i.operation.Runs c d) (rest : RunAll is d e) : RunAll (i :: is) c e

/-- What a block can make of a stack. -/
def Block.Runs (b : Block) (c d : List Word) : Prop := Instruction.RunAll b.instructions c d

theorem Instruction.RunAll.of_append {is js : List Instruction} {c e : List Word}
    (runs : RunAll (is ++ js) c e) : ∃ d, RunAll is c d ∧ RunAll js d e := by
  induction is generalizing c with
  | nil => exact ⟨c, .nil, runs⟩
  | cons i is ih =>
      cases runs with
      | cons first rest =>
          obtain ⟨d, before, after⟩ := ih rest
          exact ⟨d, .cons first before, after⟩

/-! ## Operands -/

theorem Layout.Coherent.fitsWord {layout : Layout} (coherent : layout.Coherent) {code : Code}
    {d : Disassembler} (laidOut : layout = .ofCode code d) {b : Block} (b_mem : b ∈ layout.blocks) :
    ∀ i ∈ b.instructions, i.operation.FitsWord := by
  intro i i_mem
  have member := coherent.mem_instructions b_mem i_mem
  rw [laidOut] at member
  exact d.fitsWord code i member

end EvmFlow
