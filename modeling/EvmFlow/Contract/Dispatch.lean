import EvmFlow.Contract.Function

/-!
# Finding functions in the dispatcher

The dispatcher compares the selector of a call with those of the functions, one after the other or
along a tree of comparisons.  A walk from the entry follows these comparisons and notes for each jump
which function it enters.
-/

namespace EvmFlow
namespace Dispatch

/-- The last two numbers pushed by instructions, the last one first. -/
def lastPushed (instructions : List Instruction) : Option Nat × Option Nat :=
  instructions.foldl (fun pushed i =>
    match i.operation.operand? with
    | some value => (some value, pushed.1)
    | none => pushed) (none, none)

/-- Where a block jumps to if it decides on a function, and the key of that function.  A conditional
jump after a look at the size of the call data leads to the fallback; otherwise the number pushed before
the destination is the selector. -/
def decision (b : Block) : Option Nat × Option Key :=
  let (last, previous) := lastPushed b.instructions
  if b.endsInJumpi && b.uses [.callDataSize] then (last, some Key.fallback)
  else
    match previous with
    | some number =>
      if b.endsInJumpi && number != 0 then (last, some (number : Int)) else (none, none)
    | none => (none, none)

/-- A function entered from the dispatcher. -/
structure Found where
  key : Key
  /-- The destination of the jump. -/
  start : Nat
  /-- The start of the block found there. -/
  entry : Nat
deriving DecidableEq

/-- What a walk has found, in order, and why it stopped early, if it did. -/
structure Walk where
  found : List Found := []
  failure : Option Failure := none

namespace Walk

/-- Goes on with another walk, unless the first has failed. -/
def andThen (first : Walk) (second : Unit → Walk) : Walk :=
  match first.failure with
  | some _ => first
  | none =>
    let next := second ()
    { next with found := first.found ++ next.found }

/-- A walk that fails at once. -/
def failed (failure : Failure) : Walk := { failure := some failure }

end Walk

/-- Whether a block refuses payment: it looks at the value sent along and jumps on it. -/
def refusesPayment (b : Block) : Bool := b.endsInJumpi && b.uses [.callValue]

/-- The destination pushed right before the final jump of a block that refuses payment. -/
def paymentDestination (b : Block) : Except Failure Nat :=
  if b.instructions.length ≤ 2 then .error .malformedPaymentCheck
  else
    match b.instructions.dropLast.getLast?.bind (·.operation.operand?) with
    | some destination => .ok destination
    | none => .error .malformedPaymentCheck

/-- Looks up a block and walks on from it. -/
def walkAt (layout : Layout) (walk : Block → Walk) (address : Nat) : Walk :=
  match layout.blockAt? address with
  | some b => walk b
  | none => .failed (.missingBlock address)

/-- Walks from a block of the dispatcher; the fuel bounds the depth of the walk. -/
def walkFrom (layout : Layout) : Nat → Block → Walk
  | 0, _ => .failed .endlessDispatch
  | depth + 1, b =>
    match decision b with
    | (some (target + 1), some key) =>
      let start := target + 1
      let taken : Walk :=
        if b.uses [.gt] then walkAt layout (walkFrom layout depth) start
        else
          match layout.blockAt? start with
          | some entry => { found := [⟨key, start, entry.start⟩] }
          | none => .failed (.missingBlock start)
      taken.andThen fun _ => walkAt layout (walkFrom layout depth) (b.stop + 1)
    | _ => {}

/-- A bound on the depth of a walk.  How a walk goes on depends on its block alone, so one that goes
deeper has met a block inside itself and does not end. -/
def depthBound (layout : Layout) : Nat := layout.blocks.length + 1

/-- Walks from a block, which refuses payment first if it is the entry of the contract. -/
def walk (layout : Layout) (b : Block) (isEntry : Bool) : Walk :=
  if isEntry && refusesPayment b then
    match paymentDestination b with
    | .error failure => .failed failure
    | .ok destination => walkAt layout (walkFrom layout (depthBound layout)) destination
  else walkFrom layout (depthBound layout) b

end Dispatch
end EvmFlow
