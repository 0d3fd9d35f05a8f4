import EvmFlow.Graph.Graph

/-!
# Functions

A function of a contract: the key of its edges, where it begins, its name, what is known of its
behaviour, and the blocks its exploration has reached.
-/

namespace EvmFlow

/-- A function of a contract. -/
structure Function where
  /-- The selector that calls the function, or the key of the fallback or the dispatcher. -/
  key : Key
  /-- The address under which the function is listed. -/
  start : Int
  /-- The start of the block at which the function begins. -/
  entry : Nat
  name : String
  attributes : List String := []
  /-- The starts of the blocks of the function. -/
  blocks : List Nat := []
deriving DecidableEq

namespace Function

/-- The name of a function whose signature is not known. -/
def defaultName (key : Key) : String :=
  if key = Key.fallback then "_fallback"
  else if key = Key.dispatcher then "_dispatcher"
  else Hex.literal key

/-- A function of which nothing is known but where it begins. -/
def unexplored (key : Key) (start : Int) (entry : Nat) : Function :=
  { key, start, entry, name := defaultName key }

/-- Adds an attribute, unless it is there. -/
def withAttribute (f : Function) (word : String) : Function :=
  if f.attributes.contains word then f else { f with attributes := f.attributes ++ [word] }

/-- The operations that change the state of the chain. -/
def stateChanging : List Mnemonic :=
  [.create, .create2, .call, .callCode, .delegateCall, .selfDestruct, .sstore]

/-- The operations that change the state of the chain, or make the result depend on more than the
arguments.  Copying call data and asking for the size of the code do not count. -/
def stateDependent : List Mnemonic :=
  stateChanging ++
    [.address, .balance, .origin, .caller, .callValue, .callDataLoad, .callDataSize, .codeCopy,
      .extCodeSize, .extCodeHash, .extCodeCopy, .returnDataSize, .returnDataCopy, .blockHash,
      .coinbase, .timestamp, .number, .difficulty, .gasLimit, .log0, .log1, .log2, .log3, .log4,
      .staticCall, .sload]

/-- Whether the block that starts at an address has one of the given operations. -/
def blockUses (layout : Layout) (ms : List Mnemonic) (address : Nat) : Bool :=
  match layout.blockFrom? address with
  | some b => b.uses ms
  | none => false

/-- A function is payable if its entry does not look at the value sent along. -/
def judgePayable (layout : Layout) (f : Function) : Function :=
  if blockUses layout [.callValue] f.entry then f else f.withAttribute "payable"

/-- A function is a view if none of its blocks changes the state. -/
def judgeView (layout : Layout) (f : Function) : Function :=
  if f.blocks.any (blockUses layout stateChanging) then f else f.withAttribute "view"

/-- A function is pure if none of its blocks depends on the state. -/
def judgePure (layout : Layout) (f : Function) : Function :=
  if f.blocks.any (blockUses layout stateDependent) then f else f.withAttribute "pure"

/-- Judges a function by its blocks; the dispatcher is not judged. -/
def judge (layout : Layout) (f : Function) : Function :=
  if f.key = Key.dispatcher then f
  else ((f.judgePayable layout).judgeView layout).judgePure layout

/-- The name, the number of blocks and the attributes, on one line. -/
def summary (f : Function) : String :=
  let attributes :=
    if f.attributes.isEmpty then "" else ", " ++ ",".intercalate f.attributes
  f.name ++ ", " ++ toString f.blocks.length ++ " #bbs " ++ attributes

/-- The address of a function, in words. -/
def description (f : Function) : String :=
  "<cfg Function@" ++ Hex.signedDigits f.start ++ ">"

end Function
end EvmFlow
