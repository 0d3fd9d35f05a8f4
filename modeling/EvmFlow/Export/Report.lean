import EvmFlow.Storage.Files

/-!
# Listings

Two listings of a contract: its blocks with their successors, and its functions with their blocks.
-/

namespace EvmFlow
namespace Report

/-- Puts a number into an ascending list. -/
def insertAscending (n : Nat) : List Nat → List Nat
  | [] => [n]
  | m :: ms => if n ≤ m then n :: m :: ms else m :: insertAscending n ms

/-- The numbers of a list in ascending order. -/
def ascending (ns : List Nat) : List Nat := ns.foldr insertAscending []

/-- Puts a function into a list ordered by address, before those at the same address. -/
def insertByStart (f : Function) : List Function → List Function
  | [] => [f]
  | g :: gs => if f.start ≤ g.start then f :: g :: gs else g :: insertByStart f gs

/-- Functions in the order of their addresses. -/
def byStart (functions : List Function) : List Function := functions.foldr insertByStart []

/-- The blocks that start at some addresses, in ascending order. -/
def blocksAt (contract : Contract) (addresses : List Nat) : List Block :=
  (ascending addresses).filterMap contract.layout.blockFrom?

/-- A line on a block and its successors under all keys. -/
def successorLine (contract : Contract) (b : Block) : String :=
  let successors := blocksAt contract (contract.graph.allNeighbours Edges.outgoing b.start)
  b.description ++ " -> [" ++ ", ".intercalate (successors.map (·.description)) ++ "]"

/-- Every block with its successors. -/
def graphLines (contract : Contract) : List String :=
  contract.layout.blocks.map (successorLine contract)

/-- The lines on a block of a function. -/
def blockLines (contract : Contract) (edges : Edges) (b : Block) : List String :=
  let bullet (text : String) := "\t\t- " ++ text
  ["\t- @" ++ Hex.digits b.start ++ "-" ++ Hex.digits b.stop, "\t\tInstructions:"] ++
    b.instructions.map (fun i => bullet i.name) ++
    ["\t\tIncoming basic_block:"] ++
    (blocksAt contract (edges.predecessors b.start)).map (fun c => bullet c.description) ++
    ["\t\tOutgoing basic_block:"] ++
    (blocksAt contract (edges.successors b.start)).map (fun c => bullet c.description)

/-- The lines on a function. -/
def functionLines (contract : Contract) (f : Function) : List String :=
  let attributes :=
    if f.attributes.isEmpty then []
    else "\tAttributes:" :: f.attributes.map ("\t\t-" ++ ·)
  ["Function " ++ f.name] ++ attributes ++ ["", "\tBasic Blocks:"] ++
    (blocksAt contract f.blocks).flatMap (blockLines contract (contract.graph.edgesOf f.key))

/-- Every function with its blocks. -/
def functionsLines (contract : Contract) : List String :=
  (byStart contract.functions).flatMap (functionLines contract)

/-- Text with every line end written as a line feed. -/
def plainLineEnds : List Char → List Char
  | [] => []
  | '\r' :: '\n' :: rest => '\n' :: plainLineEnds rest
  | '\r' :: rest => '\n' :: plainLineEnds rest
  | c :: rest => c :: plainLineEnds rest

/-- The characters of a file. -/
def textOf : Content → Except Failure (List Char)
  | .plain text => .ok text.toList
  | content => (Utf8.decode content.bytes).mapError .malformedText

/-- The two listings. -/
inductive Kind
  | graph
  | functions

/-- What a listing printed, how it was left, and why it stopped early, if it did. -/
structure Printed where
  lines : List String := []
  status? : Option Int := none
  failure : Option Failure := none

/-- What is printed if a listing is not asked for one file. -/
def usage : Kind → String
  | .graph => "Usage python explore_cfg.py contract.evm"
  | .functions => "Usage python explore_functions.py contract.evm"

/-- The lines of a listing. -/
def linesOf (contract : Contract) : Kind → List String
  | .graph => graphLines contract
  | .functions => functionsLines contract

/-- Prints a listing of the contract in the one file that is asked for. -/
def print (directory : Directory) (kind : Kind) (arguments : List String)
    (files : Files) : Printed :=
  match arguments with
  | [file] =>
    match (files.read file).bind textOf with
    | .error failure => { failure := some failure }
    | .ok content =>
      let source := Source.text (String.ofList (plainLineEnds content))
      let outcome := Contract.build directory source {}
      match outcome.failure with
      | some failure => { failure := some failure }
      | none => { lines := linesOf outcome.state kind }
  | _ => { lines := [usage kind], status? := some (-1) }

end Report
end EvmFlow
