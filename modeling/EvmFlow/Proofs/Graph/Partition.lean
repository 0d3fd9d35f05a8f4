import EvmFlow.Contract.Basic
import EvmFlow.Proofs.Graph.Layout

/-!
# Blocks as a partition

Laying out a contract cuts its instructions into blocks at exactly the places where control may
leave or enter: after an operation that ends a block, and before a jump destination.  A block is
found by its first address, and by its last one unless it is a final block that control would leave
at its end.
-/

namespace EvmFlow

/-! ## Operations by name -/

/-- The names of the operations after which a block ends; the last one is an older name. -/
def blockEndNames : List String :=
  ["STOP", "SELFDESTRUCT", "RETURN", "REVERT", "INVALID", "JUMP", "JUMPI", "SUICIDE"]

namespace Operation

/-- No operation with a number in its name has one of the names given, if these do not begin like
it. -/
theorem append_notMem {start : String} {names : List String}
    (apart : ∀ name ∈ names, ¬ start.toList <+: name.toList) (rest : String) :
    start ++ rest ∉ names := by
  intro member
  apply apart _ member
  rw [String.toList_append]
  exact List.prefix_append _ _

theorem endsBlock_iff_name_mem (operation : Operation) :
    operation.endsBlock ↔ operation.name ∈ blockEndNames := by
  cases operation with
  | push width value => exact iff_of_false (by simp [endsBlock]) (append_notMem (by decide) _)
  | dup n => exact iff_of_false (by simp [endsBlock]) (append_notMem (by decide) _)
  | swap n => exact iff_of_false (by simp [endsBlock]) (append_notMem (by decide) _)
  | plain m => cases m <;> decide

theorem eq_jumpDest_iff_name_eq (operation : Operation) :
    operation = .plain .jumpDest ↔ operation.name = "JUMPDEST" := by
  have apart : ∀ {start : String}, (∀ name ∈ ["JUMPDEST"], ¬ start.toList <+: name.toList) →
      ∀ rest, start ++ rest ≠ "JUMPDEST" := by
    intro start apart rest same
    exact append_notMem apart rest (List.mem_singleton.2 same)
  cases operation with
  | push width value => exact iff_of_false (by simp) (apart (by decide) _)
  | dup n => exact iff_of_false (by simp) (apart (by decide) _)
  | swap n => exact iff_of_false (by simp) (apart (by decide) _)
  | plain m => cases m <;> decide

end Operation

/-! ## Where blocks are parted -/

/-- There is a reason to part two consecutive instructions. -/
def Instruction.Parts (i j : Instruction) : Prop :=
  i.name ∈ blockEndNames ∨ j.name = "JUMPDEST"

theorem Instruction.parts_iff {i j : Instruction} :
    i.Parts j ↔ i.operation.endsBlock ∨ j.is .jumpDest := by
  simp only [Parts, name, is, beq_iff_eq, Operation.endsBlock_iff_name_mem,
    Operation.eq_jumpDest_iff_name_eq]

namespace Block

theorem isClosed_iff_name_mem (b : Block) : b.isClosed ↔ b.last.name ∈ blockEndNames :=
  b.last.operation.endsBlock_iff_name_mem

theorem Adjoins.parts {b c : Block} (adjoins : b.Adjoins c) : b.last.Parts c.first :=
  Instruction.parts_iff.2 adjoins.parted

/-- No two consecutive instructions of a block have a reason to be parted. -/
def Together (b : Block) : Prop := b.instructions.IsChain fun i j => ¬ i.Parts j

end Block

namespace Assembly

theorem together_step {a : Assembly} (i : Instruction) (settled : a.Settled)
    (together : ∀ b ∈ a.blocks, b.Together) : ∀ b ∈ (a.step i).blocks, b.Together := by
  have alone : (Block.extended i none).Together := .singleton _
  rw [blocks_step]
  split
  · exact List.forall_mem_append.2 ⟨together, by simpa using alone⟩
  · rename_i goes_on
    have done_together : ∀ b ∈ a.done, b.Together := fun b b_mem =>
      together b (List.mem_append_left _ b_mem)
    refine List.forall_mem_append.2 ⟨done_together, ?_⟩
    rw [List.forall_mem_singleton]
    cases grows : a.growing with
    | none => exact alone
    | some g =>
        -- The block that grows is not closed, and no jump destination is added to it.
        have g_mem : g ∈ a.blocks := List.mem_append_right _ (by simp [grows])
        have last : a.blocks.getLast? = some g := by simp [blocks, grows]
        have unclosed : ¬ g.isClosed := fun closed => by
          simpa [grows] using (settled g last).2 closed
        rw [Block.Together, Block.instructions_extended]
        have g_together : g.instructions.IsChain fun j k => ¬ j.Parts k := together g g_mem
        refine List.isChain_append.2 ⟨by simpa using g_together, .singleton _, ?_⟩
        intro j j_last k k_first
        obtain rfl : g.last = j := by simpa [g.getLast?_instructions] using j_last
        obtain rfl : i = k := by simpa using k_first
        rw [Instruction.parts_iff]
        exact not_or.2 ⟨unclosed, goes_on⟩

theorem blocks_together (is : List Instruction) : ∀ b ∈ (run is).blocks, b.Together :=
  run_keeps (fun a => ∀ b ∈ a.blocks, b.Together) (fun b b_mem => by cases b_mem)
    (fun _ i => together_step i) is

end Assembly

namespace Layout

/-! ## Which block is found -/

namespace Coherent

variable {layout : Layout} (coherent : layout.Coherent)
include coherent

theorem blockAtInt?_eq_some_iff {address : Int} {b : Block} :
    layout.blockAtInt? address = some b ↔
      b ∈ layout.blocks ∧ (address = b.start ∨ (address = b.stop ∧
        ¬ (layout.blocks.getLast? = some b ∧ b.last.name ∉ blockEndNames))) := by
  rw [← b.isClosed_iff_name_mem, Bool.not_eq_true]
  cases address with
  | ofNat address =>
      rw [blockAtInt?, coherent.blockAt?_eq_some_iff]
      simp only [Int.ofNat_eq_natCast, Int.natCast_inj, eq_comm (b := address)]
  | negSucc n =>
      have negative : ∀ m : Nat, Int.negSucc n ≠ m := by
        intro m
        omega
      simp [blockAtInt?, negative]

/-- Consecutive instructions of a block are not parted. -/
theorem parts_inside {b c d : Block} (together : d.Together) (b_mem : b ∈ layout.blocks)
    (c_mem : c ∈ layout.blocks) (d_mem : d ∈ layout.blocks) {before after : List Instruction}
    {i j : Instruction} (inside : d.instructions = before ++ i :: j :: after)
    (i_mem : i ∈ b.instructions) (j_mem : j ∈ c.instructions) : b ≠ c ↔ i.Parts j := by
  obtain rfl : b = d := coherent.eq_of_address_eq b_mem d_mem i_mem (by simp [inside]) rfl
  obtain rfl : c = b := coherent.eq_of_address_eq c_mem d_mem j_mem (by simp [inside]) rfl
  exact iff_of_false (by simp)
    (List.isChain_iff_forall_rel_of_append_cons_cons.1 together inside)

/-- Where a block ends and the next begins, their instructions are parted. -/
theorem parts_between {b c : Block} {before after : List Block}
    (consecutive : layout.blocks = before ++ b :: c :: after) : b ≠ c ∧ b.last.Parts c.first := by
  have precedes := coherent.precedes
  rw [consecutive] at precedes
  have b_precedes := (List.pairwise_cons.1 (List.pairwise_append.1 precedes).2.1).1
  exact ⟨(b_precedes c List.mem_cons_self).ne,
    (List.isChain_iff_forall_rel_of_append_cons_cons.1 coherent.adjoins consecutive).parts⟩

/-- Consecutive instructions are in different blocks if and only if there is a reason to part them.
-/
theorem parted_iff (together : ∀ b ∈ layout.blocks, b.Together) {before after : List Instruction}
    {i j : Instruction} (consecutive : layout.instructions = before ++ i :: j :: after)
    {b c : Block} (b_mem : b ∈ layout.blocks) (c_mem : c ∈ layout.blocks)
    (i_mem : i ∈ b.instructions) (j_mem : j ∈ c.instructions) : b ≠ c ↔ i.Parts j := by
  let Right (i j : Instruction) : Prop := ∀ b ∈ layout.blocks, ∀ c ∈ layout.blocks,
    i ∈ b.instructions → j ∈ c.instructions → (b ≠ c ↔ i.Parts j)
  have nonempty : [] ∉ layout.blocks.map Block.instructions := by simp [Block.instructions]
  suffices chain : layout.instructions.IsChain Right from
    List.isChain_iff_forall_rel_of_append_cons_cons.1 chain consecutive b b_mem c c_mem i_mem j_mem
  -- The two instructions are consecutive in a block, or a block ends between them.
  rw [← coherent.flatMap_eq, List.flatMap_def, List.isChain_flatten nonempty, List.forall_mem_map,
    List.isChain_map]
  constructor
  · intro d d_mem
    rw [List.isChain_iff_forall_rel_of_append_cons_cons]
    intro i j before after inside b b_mem c c_mem
    exact coherent.parts_inside (together d d_mem) b_mem c_mem d_mem inside
  · rw [List.isChain_iff_forall_rel_of_append_cons_cons]
    intro d e before after consecutive i last j first b b_mem c c_mem i_mem j_mem
    rw [Block.getLast?_instructions, Option.mem_some_iff] at last
    obtain rfl : e.first = j := by simpa [Block.instructions] using first
    subst last
    have d_mem : d ∈ layout.blocks := by simp [consecutive]
    have e_mem : e ∈ layout.blocks := by simp [consecutive]
    obtain rfl := coherent.eq_of_address_eq b_mem d_mem i_mem d.last_mem rfl
    obtain rfl := coherent.eq_of_address_eq c_mem e_mem j_mem e.first_mem rfl
    obtain ⟨distinct, parts⟩ := coherent.parts_between consecutive
    exact iff_of_true distinct parts

end Coherent
end Layout

/-- A jump destination stands at the beginning of its block. -/
theorem Block.Together.first_eq {b : Block} (together : b.Together) {i : Instruction}
    (i_mem : i ∈ b.instructions) (destination : i.is .jumpDest) : b.first = i := by
  rcases List.mem_cons.1 i_mem with first | later
  · exact first.symm
  · obtain ⟨before, after, rest_eq⟩ := List.append_of_mem later
    obtain ⟨j, earlier, split⟩ : ∃ j earlier, b.instructions = earlier ++ j :: i :: after := by
      rcases List.eq_nil_or_concat before with rfl | ⟨front, j, rfl⟩
      · exact ⟨b.first, [], by simp [instructions, rest_eq]⟩
      · exact ⟨j, b.first :: front, by simp [instructions, rest_eq]⟩
    have joined := List.isChain_iff_forall_rel_of_append_cons_cons.1 together split
    exact absurd (Instruction.parts_iff.2 (.inr destination)) joined

theorem Layout.exists_block_of_jumpDest {code : Code} {d : Disassembler} {i : Instruction}
    (i_mem : i ∈ (Layout.ofCode code d).instructions) (destination : i.is .jumpDest) :
    ∃ t ∈ (Layout.ofCode code d).blocks, t.start = i.address ∧ t.isDestination := by
  rw [← (Layout.ofCode_coherent code d).flatMap_eq] at i_mem
  obtain ⟨t, t_mem, inside⟩ := List.mem_flatMap.1 i_mem
  obtain rfl := (Assembly.blocks_together _ t t_mem).first_eq inside destination
  exact ⟨t, t_mem, rfl, destination⟩

/-- Laying out a contract without blocks cuts its instructions exactly into blocks: in the order of
their addresses they hold every instruction once and in its place, they are parted where an
operation ends a block or a jump destination begins one and nowhere else, and a block is found by
its first address, or by its last unless it is a final block that does not end as blocks do. -/
theorem layOut_partitions (contract : Contract) (code : Code) (d : Disassembler)
    (given : contract.code = some code) (unlaid : contract.layout.blocks = []) :
    let laid := contract.layOut d
    let blocks := laid.state.layout.blocks
    laid.failure = none ∧ laid.state.layout.instructions = d.read code ∧
      (d.read code).IsChain (fun i j => i.next = j.address) ∧
      blocks.Pairwise (fun b c => b.start < c.start) ∧ (∀ b ∈ blocks, b.instructions ≠ []) ∧
      blocks.flatMap Block.instructions = d.read code ∧
      (∀ before i j after, d.read code = before ++ i :: j :: after →
        ∀ b ∈ blocks, ∀ c ∈ blocks, i ∈ b.instructions → j ∈ c.instructions →
          (b ≠ c ↔ i.name ∈ blockEndNames ∨ j.name = "JUMPDEST")) ∧
      ∀ (address : Int) (b : Block), laid.state.layout.blockAtInt? address = some b ↔
        b ∈ blocks ∧ (address = b.start ∨
          (address = b.stop ∧ ¬ (blocks.getLast? = some b ∧ b.last.name ∉ blockEndNames))) := by
  intro laid blocks
  have laid_eq : laid = { state := { contract with layout := .ofCode code d } } := by
    simp only [laid, Contract.layOut, unlaid, List.isEmpty_nil, if_true, given]
  have layout_eq : laid.state.layout = .ofCode code d := by rw [laid_eq]
  have coherent := Layout.ofCode_coherent code d
  simp only [blocks, layout_eq]
  refine ⟨by rw [laid_eq], rfl, d.adjoins code, ?_, fun b _ => by simp [Block.instructions],
    coherent.flatMap_eq, ?_, fun address b => coherent.blockAtInt?_eq_some_iff⟩
  · exact coherent.precedes.imp fun precedes => precedes _ (Block.first_mem _) _ (Block.first_mem _)
  · intro before i j after consecutive b b_mem c c_mem
    exact coherent.parted_iff (Assembly.blocks_together _) consecutive b_mem c_mem

/-- A jump destination and a push, with nothing after it. -/
def openCode : Code := [0x5b, 0x60, 0x07]

theorem openCode_partitions :
    let layout := (Contract.layOut { code := some openCode }).state.layout
    layout.blocks.flatMap Block.instructions = Disassembler.evm.read openCode ∧
      layout.blockAtInt? 0 = some ⟨⟨0, .plain .jumpDest⟩, [⟨1, .push 1 7⟩]⟩ ∧
      layout.blockAtInt? 1 = none := by
  obtain ⟨-, -, -, -, -, whole, -, found⟩ :=
    layOut_partitions { code := some openCode } openCode .evm rfl rfl
  refine ⟨whole, (found 0 _).2 ⟨by decide, .inl rfl⟩, ?_⟩
  rw [Option.eq_none_iff_forall_ne_some]
  intro b at_one
  obtain ⟨member, here⟩ := (found 1 b).1 at_one
  obtain rfl : b = ⟨⟨0, .plain .jumpDest⟩, [⟨1, .push 1 7⟩]⟩ := List.mem_singleton.1 member
  exact absurd here (by decide)

end EvmFlow
