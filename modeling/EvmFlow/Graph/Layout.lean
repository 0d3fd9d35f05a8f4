import EvmFlow.Graph.Assembly
import EvmFlow.Machine.Disassembly

/-!
# The layout of a contract

The instructions of a contract and the blocks they form.  A block is found by the address of its first
or of its last instruction; only a final block that control would leave at its end is not found by its
last address.
-/

namespace EvmFlow

/-- Instructions and the blocks they form, both in the order of their addresses. -/
structure Layout where
  instructions : List Instruction := []
  blocks : List Block := []
  /-- The number of the block that is found at an address. -/
  table : Std.TreeMap Nat Nat := {}
  finds : ∀ address, table[address]?.bind (blocks[·]?) = Block.findAt? address blocks := by
    intro address
    rfl

/-- The layout without instructions. -/
def Layout.empty : Layout := {}

@[simp]
theorem Layout.blocks_empty : Layout.empty.blocks = [] := rfl

theorem Instruction.address_lt_next (i : Instruction) : i.address < i.next := by
  simp only [Instruction.next]
  omega

theorem Instruction.Consecutive.ascending {address : Nat} {is : List Instruction}
    (consecutive : Consecutive address is) : (∀ i ∈ is, address ≤ i.address) ∧ Ascending is := by
  induction is generalizing address with
  | nil => exact ⟨by simp, .nil⟩
  | cons i is ih =>
      obtain ⟨rfl, consecutive⟩ := consecutive
      obtain ⟨above, ascending⟩ := ih consecutive
      have later : ∀ j ∈ is, i.address < j.address := fun j member =>
        Nat.lt_of_lt_of_le i.address_lt_next (above j member)
      refine ⟨fun j member => ?_, List.pairwise_cons.2 ⟨later, ascending⟩⟩
      rcases List.mem_cons.1 member with rfl | member
      · exact Nat.le_refl _
      · exact Nat.le_of_lt (later j member)

namespace Layout

/-- The layout of a contract's code. -/
def ofCode (code : Code) (d : Disassembler := .evm) : Layout :=
  let instructions := d.read code
  let assembly := Assembly.run instructions
  { instructions
    blocks := assembly.blocks
    table := assembly.table
    finds := Assembly.run_finds (d.consecutive code).ascending.2 }

/-- The instruction at an address. -/
def instructionAt? (layout : Layout) (address : Nat) : Option Instruction :=
  layout.instructions.find? (·.address == address)

/-- The block that starts at an address. -/
def blockFrom? (layout : Layout) (address : Nat) : Option Block :=
  layout.blocks.find? (·.start == address)

/-- The block with its first or last instruction at an address. -/
def blockAt? (layout : Layout) (address : Nat) : Option Block :=
  layout.table[address]?.bind (layout.blocks[·]?)

/-- The block with its first or last instruction at a number, which may be no address. -/
def blockAtInt? (layout : Layout) : Int → Option Block
  | .ofNat address => layout.blockAt? address
  | .negSucc _ => none

/-- The addresses that can be jumped to. -/
def destinations (layout : Layout) : List Nat :=
  (layout.instructions.filter (·.is .jumpDest)).map (·.address)

/-- Whether an address can be jumped to. -/
def isDestination (layout : Layout) (address : Nat) : Bool :=
  match layout.blockFrom? address with
  | some b => b.isDestination
  | none => false

end Layout
end EvmFlow
