import Mathlib.Data.List.Chain
import EvmFlow.Graph.Layout

/-!
# The order of a layout

The instructions of a contract follow each other without gaps, and the blocks cut them into
consecutive runs.  `Layout.ofCode_coherent` states this for the layout of any code.  From coherence
alone it follows that no two blocks share an address, and which block is found at which address.
-/

namespace EvmFlow

/-! ## Disassembly -/

/-- The second instruction stands where the first one ends. -/
def Instruction.Adjoins (i j : Instruction) : Prop := i.next = j.address

theorem Instruction.Consecutive.adjoins {address : Nat} {is : List Instruction}
    (consecutive : Consecutive address is) : is.IsChain Adjoins := by
  induction is generalizing address with
  | nil => exact .nil
  | cons i is ih =>
      obtain ⟨-, consecutive⟩ := consecutive
      refine List.isChain_cons.2 ⟨fun j front => ?_, ih consecutive⟩
      obtain ⟨rest, rfl⟩ := List.head?_eq_some_iff.1 front
      exact consecutive.1.symm

theorem Disassembler.adjoins (d : Disassembler) (code : Code) :
    (d.read code).IsChain Instruction.Adjoins :=
  (d.consecutive code).adjoins

/-! ## Blocks -/

namespace Block

theorem isClosed_of_endsInJump {b : Block} (jumps : b.endsInJump) : b.isClosed := by
  simp only [endsInJump, Operation.isJump] at jumps
  simp only [isClosed, Operation.endsBlock]
  grind

/-- There is a reason to part two blocks. -/
def Parted (b c : Block) : Prop := b.isClosed ∨ c.isDestination

/-- The second block stands where the first one ends, and there is a reason to part them. -/
structure Adjoins (b c : Block) : Prop where
  next_eq : b.last.next = c.start
  parted : b.Parted c

end Block

namespace Assembly

theorem blocks_add (a : Assembly) (i : Instruction) :
    (a.add i).blocks = a.done ++ [Block.extended i a.growing] := by
  rw [add]
  split <;> rfl

theorem done_close (a : Assembly) : a.close.done = a.blocks := by
  rw [← a.blocks_close, blocks, growing_close, Option.toList_none, List.append_nil]

/-- A jump destination begins a block, as does any instruction if no block grows; another one joins
the block that grows. -/
theorem blocks_step (a : Assembly) (i : Instruction) :
    (a.step i).blocks =
      if i.is .jumpDest then a.blocks ++ [Block.extended i none]
      else a.done ++ [Block.extended i a.growing] := by
  have blocks_eq : (a.step i).blocks =
      ((if i.is .jumpDest then a.close.enter i.address else a).add i).blocks := by
    rw [step]
    generalize (if i.is .jumpDest then a.close.enter i.address else a).add i = taken
    split
    · exact taken.blocks_close
    · rfl
  rw [blocks_eq]
  split
  · rw [blocks_add, enter, done_close, growing_close]
  · rw [blocks_add]

/-- What one step after another keeps holds of what is assembled. -/
theorem run_keeps (Keeps : Assembly → Prop) (start : Keeps {})
    (step : ∀ a i, a.Settled → Keeps a → Keeps (a.step i)) (is : List Instruction) :
    Keeps (run is) := by
  suffices later : ∀ a : Assembly, a.Settled → Keeps a → Keeps (is.foldl Assembly.step a) from
    later {} (fun b last => by cases last) start
  induction is with
  | nil => exact fun a _ kept => kept
  | cons i is ih =>
      exact fun a settled kept => ih (a.step i) (settled_step a i) (step a i settled kept)

theorem parted_step {a : Assembly} (i : Instruction) (settled : a.Settled)
    (parted : a.blocks.IsChain Block.Parted) : (a.step i).blocks.IsChain Block.Parted := by
  rw [blocks_step]
  split
  · rename_i destination
    refine List.isChain_append.2 ⟨parted, .singleton _, fun b _ c front => ?_⟩
    cases front
    exact .inr destination
  · cases grows : a.growing with
    | none =>
        have blocks_eq : a.blocks = a.done := by simp [blocks, grows]
        rw [blocks_eq] at parted
        refine List.isChain_append.2 ⟨parted, .singleton _, fun b last c _ => ?_⟩
        exact .inl ((settled b (blocks_eq ▸ last)).1 grows)
    | some g =>
        have blocks_eq : a.blocks = a.done ++ [g] := by simp [blocks, grows]
        rw [blocks_eq] at parted
        obtain ⟨parted, -, between⟩ := List.isChain_append.1 parted
        refine List.isChain_append.2 ⟨parted, .singleton _, fun b last c front => ?_⟩
        -- The block that grows keeps its first instruction.
        cases front
        exact between b last g rfl

theorem blocks_parted (is : List Instruction) : (run is).blocks.IsChain Block.Parted :=
  run_keeps (·.blocks.IsChain Block.Parted) .nil (fun _ i => parted_step i) is

end Assembly

/-! ## Coherent layouts -/

namespace Layout

/-- The instructions ascend, and the blocks cut them into consecutive runs. -/
structure Coherent (layout : Layout) : Prop where
  flatMap_eq : layout.blocks.flatMap Block.instructions = layout.instructions
  ascending : layout.instructions.Pairwise fun i j : Instruction => i.address < j.address
  adjoins : layout.blocks.IsChain Block.Adjoins

theorem ofCode_coherent (code : Code) (d : Disassembler) : (Layout.ofCode code d).Coherent := by
  have ascending := (d.consecutive code).ascending.2
  have whole := (Assembly.run_holds ascending).1.whole
  refine ⟨whole, ascending, List.isChain_iff_forall_rel_of_append_cons_cons.2 ?_⟩
  intro b c before after consecutive
  have parted := List.isChain_iff_forall_rel_of_append_cons_cons.1
    (Assembly.blocks_parted (d.read code)) consecutive
  obtain ⟨front, front_eq⟩ := List.getLast?_eq_some_iff.1 b.getLast?_instructions
  have between : d.read code = (before.flatMap Block.instructions ++ front) ++
      b.last :: c.first :: (c.rest ++ after.flatMap Block.instructions) := by
    have rear_eq : c.instructions = c.first :: c.rest := rfl
    rw [← whole]
    change (Layout.ofCode code d).blocks.flatMap Block.instructions = _
    simp [consecutive, front_eq, rear_eq]
  exact ⟨List.isChain_iff_forall_rel_of_append_cons_cons.1 (d.adjoins code) between, parted⟩

namespace Coherent

variable {layout : Layout} (coherent : layout.Coherent) {b c : Block}
include coherent

theorem precedes : layout.blocks.Pairwise Block.Precedes := by
  have ascending := coherent.ascending
  rw [← coherent.flatMap_eq, List.pairwise_flatMap] at ascending
  exact ascending.2

/-- An address belongs to one block only. -/
theorem eq_of_address_eq (b_mem : b ∈ layout.blocks) (c_mem : c ∈ layout.blocks)
    {i j : Instruction} (i_mem : i ∈ b.instructions) (j_mem : j ∈ c.instructions)
    (same : i.address = j.address) : b = c := by
  by_contra distinct
  have apart : layout.blocks.Pairwise fun b c =>
      ∀ i ∈ b.instructions, ∀ j ∈ c.instructions, i.address ≠ j.address :=
    coherent.precedes.imp fun precedes i hi j hj => Nat.ne_of_lt (precedes i hi j hj)
  have symmetric : Std.Symm fun b c : Block =>
      ∀ i ∈ b.instructions, ∀ j ∈ c.instructions, i.address ≠ j.address :=
    ⟨fun _ _ apart i hi j hj => (apart j hj i hi).symm⟩
  exact apart.forall b_mem c_mem distinct i i_mem j j_mem same

theorem eq_of_start_eq (b_mem : b ∈ layout.blocks) (c_mem : c ∈ layout.blocks)
    (same : b.start = c.start) : b = c :=
  coherent.eq_of_address_eq b_mem c_mem b.first_mem c.first_mem same

theorem eq_of_stop_eq (b_mem : b ∈ layout.blocks) (c_mem : c ∈ layout.blocks)
    (same : b.stop = c.stop) : b = c :=
  coherent.eq_of_address_eq b_mem c_mem b.last_mem c.last_mem same

theorem start_lt_address (b_mem : b ∈ layout.blocks) {i : Instruction} (i_mem : i ∈ b.rest) :
    b.start < i.address := by
  have ascending := coherent.ascending
  rw [← coherent.flatMap_eq, List.pairwise_flatMap] at ascending
  exact (List.pairwise_cons.1 (ascending.1 b b_mem)).1 i i_mem

theorem start_le_stop (b_mem : b ∈ layout.blocks) : b.start ≤ b.stop := by
  rcases List.mem_cons.1 b.last_mem with first | later
  · exact Nat.le_of_eq (congrArg Instruction.address first.symm)
  · exact Nat.le_of_lt (coherent.start_lt_address b_mem later)

/-- No block begins where an instruction of some block stands that is not its first. -/
theorem address_ne_start (b_mem : b ∈ layout.blocks) (c_mem : c ∈ layout.blocks)
    {i : Instruction} (i_mem : i ∈ b.rest) : i.address ≠ c.start := by
  intro same
  obtain rfl : b = c :=
    coherent.eq_of_address_eq b_mem c_mem (List.mem_cons_of_mem _ i_mem) c.first_mem same
  exact Nat.ne_of_gt (coherent.start_lt_address b_mem i_mem) same

/-- A block is found by its start. -/
theorem blockFrom?_start (b_mem : b ∈ layout.blocks) : layout.blockFrom? b.start = some b := by
  have found : (layout.blockFrom? b.start).isSome := by
    rw [blockFrom?, List.find?_isSome]
    exact ⟨b, b_mem, by simp⟩
  obtain ⟨c, found⟩ := Option.isSome_iff_exists.1 found
  have start_eq : c.start = b.start := by simpa using List.find?_some found
  rw [found, coherent.eq_of_start_eq (List.mem_of_find?_eq_some found) b_mem start_eq]

end Coherent

theorem mem_of_blockFrom? {layout : Layout} {address : Nat} {b : Block}
    (found : layout.blockFrom? address = some b) : b ∈ layout.blocks ∧ b.start = address :=
  ⟨List.mem_of_find?_eq_some found, by simpa using List.find?_some found⟩

theorem exists_of_isDestination {layout : Layout} {address : Nat}
    (destination : layout.isDestination address) :
    ∃ c ∈ layout.blocks, c.start = address ∧ c.isDestination := by
  rw [isDestination] at destination
  split at destination
  · rename_i c found
    obtain ⟨c_mem, start_eq⟩ := mem_of_blockFrom? found
    exact ⟨c, c_mem, start_eq, destination⟩
  · cases destination

/-- What is found at an address begins or ends there. -/
theorem mem_of_blockAt? {layout : Layout} {address : Nat} {b : Block}
    (found : layout.blockAt? address = some b) :
    b ∈ layout.blocks ∧ (b.start = address ∨ b.stop = address) := by
  rw [blockAt?, layout.finds] at found
  generalize layout.blocks = bs at found
  fun_induction Block.findAt? address bs with
  | case1 => cases found
  | case2 c here =>
      cases found
      grind
  | case3 => cases found
  | case4 c bs _ here =>
      cases found
      grind
  | case5 c bs _ elsewhere ih =>
      obtain ⟨member, here⟩ := ih found
      exact ⟨List.mem_cons_of_mem c member, here⟩

namespace Coherent

variable {layout : Layout} (coherent : layout.Coherent) {b c : Block}
include coherent

/-- A block is found at its first address and at its last, but for a final block that is not closed.
-/
theorem blockAt?_eq_some_iff {address : Nat} :
    layout.blockAt? address = some b ↔ b ∈ layout.blocks ∧ (b.start = address ∨
      (b.stop = address ∧ ¬ (layout.blocks.getLast? = some b ∧ b.isClosed = false))) := by
  rw [blockAt?, layout.finds, Block.findAt?_eq_some_iff coherent.precedes]

theorem blockAt?_start (b_mem : b ∈ layout.blocks) : layout.blockAt? b.start = some b :=
  coherent.blockAt?_eq_some_iff.2 ⟨b_mem, .inl rfl⟩

theorem blockAt?_stop (b_mem : b ∈ layout.blocks) (closed : b.isClosed) :
    layout.blockAt? b.stop = some b :=
  coherent.blockAt?_eq_some_iff.2 ⟨b_mem, .inr ⟨rfl, by simp [closed]⟩⟩

/-- Every block but the last has a block after it. -/
theorem exists_adjoining (b_mem : b ∈ layout.blocks) :
    layout.blocks.getLast? = some b ∨ ∃ c ∈ layout.blocks, b.Adjoins c := by
  obtain ⟨before, after, split⟩ := List.append_of_mem b_mem
  cases after with
  | nil => exact .inl (by simp [split])
  | cons c after =>
      have chain := coherent.adjoins
      rw [split] at chain
      exact .inr ⟨c, by simp [split], (List.isChain_append_cons_cons.1 chain).2.1⟩

theorem mem_instructions (b_mem : b ∈ layout.blocks) {i : Instruction}
    (i_mem : i ∈ b.instructions) : i ∈ layout.instructions := by
  rw [← coherent.flatMap_eq]
  exact List.mem_flatMap_of_mem b_mem i_mem

theorem start_mem_destinations (b_mem : b ∈ layout.blocks) (destination : b.isDestination) :
    b.start ∈ layout.destinations :=
  List.mem_map_of_mem
    (List.mem_filter.2 ⟨coherent.mem_instructions b_mem b.first_mem, destination⟩)

/-- The last block ends with the last instruction. -/
theorem getLast?_instructions (last : layout.blocks.getLast? = some b) :
    layout.instructions.getLast? = some b.last := by
  obtain ⟨before, split⟩ := List.getLast?_eq_some_iff.1 last
  simp [← coherent.flatMap_eq, split, b.getLast?_instructions]

/-- Nothing stands after the last block. -/
theorem blockAt?_next_eq_none (last : layout.blocks.getLast? = some b) :
    layout.blockAt? b.last.next = none := by
  by_contra found
  obtain ⟨c, found⟩ := Option.ne_none_iff_exists'.1 found
  obtain ⟨c_mem, here⟩ := mem_of_blockAt? found
  have below : ∀ i ∈ c.instructions, i.address ≤ b.last.address := by
    intro i hi
    obtain ⟨before, split⟩ := List.getLast?_eq_some_iff.1 (coherent.getLast?_instructions last)
    have member := coherent.mem_instructions c_mem hi
    have ascending := coherent.ascending
    rw [split] at member ascending
    rcases List.mem_append.1 member with member | member
    · exact Nat.le_of_lt ((List.pairwise_append.1 ascending).2.2 i member _ (by simp))
    · rw [List.mem_singleton.1 member]
  have start_le : c.start ≤ b.last.address := below c.first c.first_mem
  have stop_le : c.stop ≤ b.last.address := below c.last c.last_mem
  have := b.last.address_lt_next
  omega

/-- What is found where a block ends is the block after it. -/
theorem adjoins_of_next (b_mem : b ∈ layout.blocks) (next : layout.blockAt? b.last.next = some c) :
    b.Adjoins c := by
  rcases coherent.exists_adjoining b_mem with last | ⟨d, d_mem, adjoins⟩
  · simp [coherent.blockAt?_next_eq_none last] at next
  · rw [adjoins.next_eq, coherent.blockAt?_start d_mem] at next
    cases next
    exact adjoins

theorem start_lt_of_adjoins (b_mem : b ∈ layout.blocks) (adjoins : b.Adjoins c) :
    b.start < c.start :=
  calc
    b.start ≤ b.stop := coherent.start_le_stop b_mem
    _ < b.last.next := b.last.address_lt_next
    _ = c.start := adjoins.next_eq

end Coherent
end Layout
end EvmFlow
