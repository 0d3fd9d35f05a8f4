import EvmFlow.Graph.Block
import EvmFlow.Value.Merge

/-!
# Interpreting instructions on abstract stacks

A push, a copy, an exchange and a conjunction are followed exactly; every other operation takes and
leaves its number of elements, and nothing is known of those it leaves.
-/

namespace EvmFlow

/-- The stack after an operation. -/
def Operation.apply (tracked : ValueSet) (operation : Operation) (s : AbstractStack) :
    AbstractStack :=
  match operation with
  | .push _ value => .ofValue tracked (some value) :: s
  | .dup n => Stack.dup .unknown n s
  | .swap n => Stack.swap (fun _ => .unknown) n s
  | .plain .and => AbstractValue.and tracked (s.headD .unknown) (s.tail.headD .unknown) :: s.drop 2
  | other => List.replicate other.pushes .unknown ++ s.drop other.pops

/-- The stack after several instructions. -/
def Instruction.applyAll (tracked : ValueSet) (instructions : List Instruction) (s : AbstractStack) :
    AbstractStack :=
  instructions.foldl (fun s i => i.operation.apply tracked s) s

/-- What one interpretation of a block shows. -/
structure Interpretation where
  /-- The stack after the block. -/
  exit : AbstractStack
  /-- The element a final jump takes its destination from. -/
  target? : Option AbstractValue
  /-- The top of the stack after a final jump. -/
  above? : Option AbstractValue

/-- Interprets a block on a stack.  The element a final jump uses, and the one it uncovers, are looked
at, and so exist afterwards. -/
def Block.interpret (tracked : ValueSet) (b : Block) (s : AbstractStack) : Interpretation :=
  if b.endsInJump then
    let before := Stack.ensured .unknown
      (Instruction.applyAll tracked b.instructions.dropLast s)
    let exit := Stack.ensured .unknown (b.last.operation.apply tracked before)
    { exit, target? := before.head?, above? := exit.head? }
  else
    { exit := Instruction.applyAll tracked b.instructions s, target? := none, above? := none }

end EvmFlow
