import Mathlib.Data.List.Nodup
import EvmFlow.Graph.Block

/-!
# Names of operations

Operations are told apart by their names: no two operations without a number share one, and none has
a name like those of a push, a copy or an exchange.  So it is the same whether a block is searched for
operations or for their names.
-/

namespace EvmFlow
namespace Mnemonic

/-- Every operation without a number. -/
def all : List Mnemonic :=
  [.stop, .add, .mul, .sub, .div, .sdiv, .mod, .smod, .addMod, .mulMod, .exp, .signExtend, .lt, .gt,
    .slt, .sgt, .eq, .isZero, .and, .or, .xor, .not, .byte, .shl, .shr, .sar, .sha3, .address,
    .balance, .origin, .caller, .callValue, .callDataLoad, .callDataSize, .callDataCopy, .codeSize,
    .codeCopy, .gasPrice, .extCodeSize, .extCodeCopy, .returnDataSize, .returnDataCopy, .extCodeHash,
    .blockHash, .coinbase, .timestamp, .number, .difficulty, .gasLimit, .chainId, .selfBalance, .pop,
    .mload, .mstore, .mstore8, .sload, .sstore, .jump, .jumpi, .getPc, .msize, .gas, .jumpDest,
    .log0, .log1, .log2, .log3, .log4, .create, .call, .callCode, .returnData, .delegateCall,
    .create2, .staticCall, .revert, .invalid, .selfDestruct]

theorem mem_all (m : Mnemonic) : m ∈ all := by
  rw [← List.elem_iff]
  cases m <;> rfl

theorem name_injective : Function.Injective name := by
  have nodup : (all.map name).Nodup := by decide +kernel
  intro m n same
  exact List.inj_on_of_nodup_map nodup (mem_all m) (mem_all n) same

/-- No name begins like those of the operations with a number. -/
theorem take_name_notMem (m : Mnemonic) :
    m.name.toList.take 3 ∉ [['P', 'U', 'S'], ['D', 'U', 'P'], ['S', 'W', 'A']] := by
  have none_begins : ∀ m ∈ all, m.name.toList.take 3 ∉
      [['P', 'U', 'S'], ['D', 'U', 'P'], ['S', 'W', 'A']] := by decide +kernel
  exact none_begins m (mem_all m)

end Mnemonic

theorem Operation.name_eq_iff (operation : Operation) (m : Mnemonic) :
    operation.name = m.name ↔ operation = .plain m := by
  have begins := m.take_name_notMem
  constructor
  · intro same
    rw [← same] at begins
    cases operation with
    | plain n => rw [Mnemonic.name_injective same]
    | push | dup | swap => simp [Operation.name] at begins
  · rintro rfl
    rfl

theorem Instruction.isAmong_iff (i : Instruction) (ms : List Mnemonic) :
    i.isAmong ms ↔ i.name ∈ ms.map Mnemonic.name := by
  rw [isAmong, List.any_eq_true, List.mem_map]
  refine exists_congr fun m => and_congr_right fun _ => ?_
  rw [is, beq_iff_eq, ← Operation.name_eq_iff, eq_comm]
  rfl

namespace Block

/-- Some instruction of the block has one of the names. -/
def Has (b : Block) (names : List String) : Prop := ∃ i ∈ b.instructions, i.name ∈ names

instance (b : Block) (names : List String) : Decidable (b.Has names) :=
  inferInstanceAs (Decidable (∃ i ∈ b.instructions, i.name ∈ names))

variable {b : Block} {names others : List String}

theorem uses_iff (b : Block) (ms : List Mnemonic) : b.uses ms ↔ b.Has (ms.map Mnemonic.name) := by
  rw [uses, List.any_eq_true, Has]
  exact exists_congr fun i => and_congr_right fun _ => i.isAmong_iff ms

theorem Has.mono (has : b.Has names) (included : names ⊆ others) : b.Has others := by
  obtain ⟨i, i_mem, named⟩ := has
  exact ⟨i, i_mem, included named⟩

/-- A block is searched for names by searching it for some of them and for the rest. -/
theorem has_iff_removeAll (included : others ⊆ names) :
    b.Has names ↔ b.Has (names.removeAll others) ∨ b.Has others := by
  constructor
  · rintro ⟨i, i_mem, named⟩
    by_cases other : i.name ∈ others
    · exact .inr ⟨i, i_mem, other⟩
    · exact .inl ⟨i, i_mem, by simpa [List.removeAll, other] using named⟩
  · rintro (has | has)
    · exact has.mono List.filter_sublist.subset
    · exact has.mono included

end Block
end EvmFlow
