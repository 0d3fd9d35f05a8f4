import EvmFlow.Machine.Opcode
import EvmFlow.Text.Hex

/-!
# Instructions

An instruction is an operation at an address.
-/

namespace EvmFlow

/-- An operation at the address of its first byte. -/
structure Instruction where
  address : Nat
  operation : Operation
deriving DecidableEq

namespace Instruction

/-- The name of the operation. -/
def name (i : Instruction) : String := i.operation.name

/-- The address of the byte after the instruction. -/
def next (i : Instruction) : Nat := i.address + 1 + i.operation.operandSize

/-- Whether the instruction is the given operation without a number. -/
def is (i : Instruction) (m : Mnemonic) : Bool := i.operation == .plain m

/-- Whether the instruction is one of the given operations. -/
def isAmong (i : Instruction) (ms : List Mnemonic) : Bool := ms.any i.is

/-- The name, followed by the number of a push. -/
def text (i : Instruction) : String :=
  match i.operation.operand? with
  | some value => i.name ++ " " ++ Hex.literal value
  | none => i.name

end Instruction
end EvmFlow
