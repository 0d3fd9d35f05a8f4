import EvmFlow.Machine.Instruction

/-!
# Basic blocks

A block is a run of instructions that control enters at the first and leaves after the last.  A block
ends with an instruction that does not simply go on, or before a jump destination.
-/

namespace EvmFlow

/-- A non-empty run of consecutive instructions. -/
structure Block where
  first : Instruction
  rest : List Instruction
deriving DecidableEq

namespace Block

/-- The instructions of a block. -/
def instructions (b : Block) : List Instruction := b.first :: b.rest

/-- The last instruction of a block. -/
def last (b : Block) : Instruction := b.rest.getLast?.getD b.first

/-- The address of the first instruction. -/
def start (b : Block) : Nat := b.first.address

/-- The address of the last instruction. -/
def stop (b : Block) : Nat := b.last.address

/-- Whether some instruction of the block is one of the given operations. -/
def uses (b : Block) (ms : List Mnemonic) : Bool := b.instructions.any (·.isAmong ms)

/-- Whether the block ends in a conditional jump. -/
def endsInJumpi (b : Block) : Bool := b.last.is .jumpi

/-- Whether the block ends in a jump, conditional or not. -/
def endsInJump (b : Block) : Bool := b.last.operation.isJump

/-- Whether control does not simply go on after the block. -/
def isClosed (b : Block) : Bool := b.last.operation.endsBlock

/-- Whether the block can be jumped to. -/
def isDestination (b : Block) : Bool := b.first.is .jumpDest

/-- The addresses of a block, in words. -/
def description (b : Block) : String :=
  "<cfg BasicBlock@" ++ Hex.digits b.start ++ "-" ++ Hex.digits b.stop ++ ">"

/-- A block with one more instruction at its end, or one of a single instruction. -/
def extended (i : Instruction) : Option Block → Block
  | none => ⟨i, []⟩
  | some b => ⟨b.first, b.rest ++ [i]⟩

end Block
end EvmFlow
